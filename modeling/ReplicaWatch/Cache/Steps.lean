import ReplicaWatch.Cache.Sweep
import ReplicaWatch.Cache.Write

/-! The steps of a session, each taken without a break. Steps that others take while a command runs are steps of the
same session. While a sweep holds the lock, the operations of the store are held back until after it, also what they
could do before they need the lock. That is one order in which threads can act; `Crowd` has every other. -/
namespace ReplicaWatch

namespace Reply

def ofResult {α : Type} (f : α → Answer) : Except Failure α × Session → Reply × Session
  | (.ok a, s) => (answer (f a), s)
  | (.error e, s) => (failure e, s)

@[simp] theorem ofResult_snd {α : Type} (f : α → Answer) (r : Except Failure α × Session) :
    (ofResult f r).2 = r.2 := by
  obtain ⟨result, s⟩ := r
  cases result <;> rfl

end Reply

namespace Session

/-- Whether an event tells of an object that is gone. -/
def isDeletion : Json → Bool
  | .string t => t == Text.ofString "DELETED"
  | _ => false

/-- What the log says of an event that is to come again. -/
def unfollowed (ns name : String) : Log.Line := ⟨.error, s!"Failed to update mirror status of {ns}/{name}"⟩

/-- What became of an event: a failure of the cache is logged, and the event is to come again. -/
def answerEvent (ns name : String) : Except Failure Unit × Session → Except Failure Unit × Session
  | (.error (.cache e), s) => (.error (.retry e.message (some e) 30), s.note (.logged (unfollowed ns name)))
  | other => other

/-- Follows an event about a pool. -/
def handle (s : Session) (meanwhile : Meanwhile) (event obj : Json) (ns name : String) :
    Except Failure Unit × Session :=
  match event with
  | .object _ =>
    match event.member? "type" with
    | none => (.error .missingKey, s)
    | some type =>
      answerEvent ns name (if isDeletion type then s.delete obj else s.add meanwhile obj)
  | _ => (.error .wrongKind, s)

/-- Takes a step that is not held back. -/
def perform (s : Session) (meanwhile : Meanwhile) : Step → Reply × Session
  | .add obj => Reply.ofResult (fun _ => .done) (s.add meanwhile obj)
  | .update obj => Reply.ofResult (fun _ => .done) (s.add meanwhile obj)
  | .delete obj => Reply.ofResult (fun _ => .done) (s.delete obj)
  | .replace items => Reply.ofResult (fun _ => .done) (s.replace meanwhile items)
  | .resync => Reply.ofResult .swept (s.resync meanwhile)
  | .snapshot => (.answer (.records s.cache.records.entries), s)
  | .clearSnapshot => (.answer .done, s)
  | .list => (.answer .noItems, s)
  | .listKeys => (.answer .noItems, s)
  | .get _ => (.answer .absent, s)
  | .getByKey _ => (.answer .absent, s)
  | .isAllowed ns => Reply.ofResult .allowed (s.cache.setup.isAllowed ns, s)
  | .resolve ns refresh => Reply.ofResult .credentials (s.resolve ns refresh)
  | .invalidate ns => Reply.ofResult (fun _ => .done) (s.invalidate ns)
  | .setObject name response => (.answer .done, { s with world := s.world.setObject name response })
  | .removeObject name => (.answer .done, { s with world := s.world.removeObject name })
  | .setEndings pool outcomes => (.answer .done, { s with world := s.world.setOutcomes pool outcomes })
  | .event event obj ns name => Reply.ofResult (fun _ => .done) (s.handle meanwhile event obj ns name)

/-- Takes a step, or holds it back. -/
def attempt (s : Session) (meanwhile : Meanwhile) (step : Step) : Reply × Session :=
  if s.cache.locked && !step.isLockFree then (.blocked, s) else s.perform meanwhile step

/-- Takes steps in order. -/
def attemptAll (s : Session) (meanwhile : Meanwhile) : List Step → List Reply × Session
  | [] => ([], s)
  | step :: rest =>
    let (reply, s) := s.attempt meanwhile step
    let (replies, s) := s.attemptAll meanwhile rest
    (reply :: replies, s)

/-- Steps within commands within steps, down to a depth at which all steps are held back. -/
def nested : Nat → Meanwhile
  | 0, steps, s => (steps.map fun _ => .blocked, s)
  | depth + 1, steps, s => s.attemptAll (nested depth) steps

/-- Takes a step with everything that happens within it. Each step is taken once, so that steps cannot be nested
deeper than there are steps to take. -/
def step (s : Session) (step : Step) : Reply × Session :=
  s.attempt (nested (s.world.size + step.size + 1)) step

end Session
end ReplicaWatch
