import ReplicaWatch.Cache.Basic
import ReplicaWatch.Log

/-! Sessions: a cache together with its surroundings and everything that has happened so far. -/
namespace ReplicaWatch

/-- What a sweep did: how many records it refreshed, could not refresh, and left to another writer. -/
structure Tally where
  refreshed : Nat
  failed : Nat
  skipped : Nat
  deriving DecidableEq, Repr

/-- What a step that succeeds answers. -/
inductive Answer where
  | done
  | credentials (c : Credentials)
  | allowed (b : Bool)
  | swept (t : Tally)
  | records (entries : List (String × Record))
  | noItems
  | absent

/-- The reply to a step. One that has not been given, because the step is held back, is `blocked`. -/
inductive Reply where
  | answer (a : Answer)
  | failure (e : Failure)
  | blocked

/-- What happens in a session: requests for objects, commands from their start to their end, log lines, and changes of
the cache. The end of a command comes with the replies to the steps that others took while it ran. -/
inductive Event where
  | asked (name : ObjectName)
  | started (args : List String) (timeout : Option Seconds) (locked : Bool)
  | ended (ending : Ending) (replies : List Reply)
  | logged (line : Log.Line)
  | changed (change : Change)

structure Session where
  cache : Cache
  world : World
  /-- Everything that has happened, in order. -/
  trace : List Event

/-- How the steps are taken that others take while a command runs. -/
abbrev Meanwhile := List Step → Session → List Reply × Session

namespace Session

def note (s : Session) (e : Event) : Session := { s with trace := s.trace ++ [e] }

/-- Writes a log line, if there is a log. -/
def log (s : Session) (level : Log.Level) (text : String) : Session :=
  if s.cache.setup.logging then s.note (.logged ⟨level, text⟩) else s

def change (s : Session) (c : Change) : Session :=
  { s with cache := s.cache.apply c, trace := s.trace ++ [.changed c] }

def setLocked (s : Session) (locked : Bool) : Session :=
  { s with cache := { s.cache with locked := locked } }

@[simp] theorem note_cache (s : Session) (e : Event) : (s.note e).cache = s.cache := rfl

@[simp] theorem note_world (s : Session) (e : Event) : (s.note e).world = s.world := rfl

@[simp] theorem note_trace (s : Session) (e : Event) : (s.note e).trace = s.trace ++ [e] := rfl

@[simp] theorem log_cache (s : Session) (level : Log.Level) (text : String) :
    (s.log level text).cache = s.cache := by
  unfold log; split <;> rfl

@[simp] theorem log_world (s : Session) (level : Log.Level) (text : String) :
    (s.log level text).world = s.world := by
  unfold log; split <;> rfl

@[simp] theorem log_trace (s : Session) (level : Log.Level) (text : String) :
    (s.log level text).trace =
      s.trace ++ (Log.Line.when ⟨level, text⟩ s.cache.setup.logging).map Event.logged := by
  unfold log Log.Line.when; split <;> simp

@[simp] theorem change_cache (s : Session) (c : Change) : (s.change c).cache = s.cache.apply c := rfl

@[simp] theorem change_world (s : Session) (c : Change) : (s.change c).world = s.world := rfl

@[simp] theorem change_trace (s : Session) (c : Change) : (s.change c).trace = s.trace ++ [.changed c] := rfl

@[simp] theorem setLocked_setup (s : Session) (locked : Bool) :
    (s.setLocked locked).cache.setup = s.cache.setup := rfl

@[simp] theorem setLocked_known (s : Session) (locked : Bool) :
    (s.setLocked locked).cache.known = s.cache.known := rfl

@[simp] theorem setLocked_records (s : Session) (locked : Bool) :
    (s.setLocked locked).cache.records = s.cache.records := rfl

@[simp] theorem setLocked_world (s : Session) (locked : Bool) : (s.setLocked locked).world = s.world := rfl

@[simp] theorem setLocked_trace (s : Session) (locked : Bool) : (s.setLocked locked).trace = s.trace := rfl

end Session
end ReplicaWatch
