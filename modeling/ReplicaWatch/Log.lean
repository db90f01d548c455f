/-! Lines of a log. -/
namespace ReplicaWatch.Log

inductive Level where
  | debug
  | info
  | error
  | exception
  deriving DecidableEq, Repr

def Level.name : Level → String
  | debug => "debug"
  | info => "info"
  | error => "error"
  | exception => "exception"

structure Line where
  level : Level
  text : String
  deriving DecidableEq, Repr

/-- The line alone, or nothing where there is no log. -/
def Line.when (line : Line) (logging : Bool) : List Line := if logging then [line] else []

end ReplicaWatch.Log
