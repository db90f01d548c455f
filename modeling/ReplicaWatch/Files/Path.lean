import ReplicaWatch.Text.Split

/-! Paths. Empty parts and parts that stay in place are left out, parts that lead upwards are kept, and a path that
has no parts left is written as a dot. -/
namespace ReplicaWatch.Files

/-- The names between the slashes of a text. -/
def names (text : String) : List String := (split '/' text.toList).map String.ofList

/-- A path: the slashes it begins with, one, two or none, and its parts. -/
structure Path where
  lead : String
  parts : List String
  deriving DecidableEq, Repr

namespace Path

/-- The slashes that count of those at the beginning of a path: two are kept, more are as one. -/
def leadOf : List Char → String
  | ['/', '/'] => "//"
  | '/' :: '/' :: c :: _ => if c = '/' then "/" else "//"
  | '/' :: _ => "/"
  | _ => ""

def ofString (text : String) : Path :=
  ⟨leadOf text.toList, (names text).filter fun name => name != "" && name != "."⟩

def text (p : Path) : String :=
  if p.lead = "" && p.parts.isEmpty then "." else p.lead ++ "/".intercalate p.parts

/-- The path of an entry of a directory. -/
def child (p : Path) (name : String) : Path := { p with parts := p.parts ++ [name] }

end Path
end ReplicaWatch.Files
