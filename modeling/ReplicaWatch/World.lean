import ReplicaWatch.Credentials.Basic
import ReplicaWatch.Ledger
import ReplicaWatch.Number.Shortest

/-! The surroundings of the cache: the objects of the cluster, the ways in which the status commands end, and the
steps that callers and other threads take. A command may leave time for others: the steps that they take while it
runs belong to the way it ends. -/
namespace ReplicaWatch

/-- A number of seconds, written as an integer or not. -/
inductive Seconds where
  | whole (n : Int)
  | real (x : Binary64)
  deriving DecidableEq, Repr

def Seconds.text : Seconds → String
  | whole n => toString n
  | real x => String.ofList x.text

/-- How a command ends, with what it wrote. One that cannot be called ends at once. -/
inductive Ending where
  | finished (output : List UInt8)
  | exited (code : Int) (output : List UInt8)
  | timedOut (output : List UInt8)
  | unstarted (number : Nat)
  | uncallable (fault : CallFault)
  deriving DecidableEq, Repr

mutual

/-- A step that a caller takes. -/
inductive Step where
  | add (obj : Json)
  | update (obj : Json)
  | delete (obj : Json)
  | replace (items : Json)
  | resync
  | snapshot
  | clearSnapshot
  | list
  | listKeys
  | get (obj : Json)
  | getByKey (key : Json)
  | isAllowed (ns : Json)
  | resolve (ns : Json) (refresh : Bool)
  | invalidate (ns : Json)
  | setObject (name : ObjectName) (response : Response)
  | removeObject (name : ObjectName)
  | setEndings (pool : String) (outcomes : List Outcome)
  | event (event obj : Json) (ns name : String)

/-- How a command ends and what others do while it runs. -/
inductive Outcome where
  | mk (ending : Ending) (meanwhile : List Step)

end

instance : Inhabited Step := ⟨.list⟩

instance : Inhabited Outcome := ⟨.mk (.unstarted 2) []⟩

namespace Outcome

def ending : Outcome → Ending
  | mk ending _ => ending

def meanwhile : Outcome → List Step
  | mk _ steps => steps

end Outcome

namespace Step

/-- Steps that are no operations of the store. They are taken while its lock is held, too. -/
def isLockFree : Step → Bool
  | resolve _ _ => true
  | invalidate _ => true
  | setObject _ _ => true
  | removeObject _ => true
  | setEndings _ _ => true
  | _ => false

end Step

mutual

/-- How many steps a step holds, itself counted. -/
def Step.size : Step → Nat
  | .setEndings _ outcomes => sizeOfOutcomes outcomes + 1
  | _ => 1

def Outcome.size : Outcome → Nat
  | .mk _ steps => sizeOfSteps steps

def sizeOfOutcomes : List Outcome → Nat
  | [] => 0
  | o :: rest => o.size + sizeOfOutcomes rest

def sizeOfSteps : List Step → Nat
  | [] => 0
  | s :: rest => s.size + sizeOfSteps rest

end

/-- The objects of the cluster and, for each pool, the outcomes of the commands to come. -/
structure World where
  objects : Ledger ObjectName Response
  outcomes : Ledger String (List Outcome)

namespace World

def empty : World := ⟨∅, ∅⟩

/-- The answer to a request for an object. -/
def respond (w : World) (name : ObjectName) : Response := (w.objects.get? name).getD .notFound

def setObject (w : World) (name : ObjectName) (response : Response) : World :=
  { w with objects := w.objects.insert name response }

def removeObject (w : World) (name : ObjectName) : World :=
  { w with objects := w.objects.erase name }

def setOutcomes (w : World) (pool : String) (outcomes : List Outcome) : World :=
  { w with outcomes := w.outcomes.insert pool outcomes }

/-- The outcome of a command for a pool that has none: there is no such program. -/
def noProgram : Outcome := ⟨.unstarted 2, []⟩

/-- Takes the next outcome for a pool. The last one stays, but what others do meanwhile happens once. -/
def takeOutcome (w : World) (pool : String) : Outcome × World :=
  match (w.outcomes.get? pool).getD [] with
  | [] => (noProgram, w)
  | [last] => (last, w.setOutcomes pool [⟨last.ending, []⟩])
  | first :: rest => (first, w.setOutcomes pool rest)

theorem respond_setObject (w : World) (name k : ObjectName) (response : Response) :
    (w.setObject name response).respond k = if k = name then response else w.respond k := by
  simp only [respond, setObject, Ledger.get?_insert]
  split <;> rfl

theorem respond_removeObject (w : World) (name k : ObjectName) :
    (w.removeObject name).respond k = if k = name then .notFound else w.respond k := by
  simp only [respond, removeObject, Ledger.get?_erase]
  split <;> rfl

/-- How many steps the outcomes to come hold. -/
def size (w : World) : Nat := w.outcomes.entries.foldr (fun o n => sizeOfOutcomes o.2 + n) 0

end World
end ReplicaWatch
