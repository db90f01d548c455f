import ReplicaWatch.Threads.Program

/-! Threads that act on one session, one action at a time and in any order. A command that starts makes room for more
threads, and ends at any time after. What its end tells of their replies are those that they have given by then. -/
namespace ReplicaWatch

/-- How a thread stands to the lock of the store: it never had it, has it since the store was such, or had it. -/
inductive Turn where
  | ahead
  | now (since : Ledger String Record)
  | past

/-- Whether a thread has the lock. -/
def Turn.holds : Turn → Bool
  | now _ => true
  | _ => false

/-- A thread that takes a step. -/
structure Thread where
  step : Step
  /-- What is left to do. -/
  rest : Program Reply
  /-- While a command runs: how it is going to end, and the threads for which it made room. -/
  command : Option (Ending × List Nat)
  turn : Turn
  reply : Option Reply

/-- A thread that has yet to begin. -/
def Thread.new (setup : Setup) (step : Step) : Thread := ⟨step, .ofStep setup step, none, .ahead, none⟩

structure Crowd where
  session : Session
  threads : List Thread

namespace Crowd

/-- Threads that are to take steps in a session. -/
def new (s : Session) (steps : List Step) : Crowd := ⟨s, steps.map (.new s.cache.setup)⟩

/-- The reply that a thread has given by now. -/
def replyOf (c : Crowd) (i : Nat) : Reply := (c.threads[i]?.bind Thread.reply).getD .blocked

/-- What a thread does when its turn comes, and the steps for which it makes room. One that waits for the lock, or has
given its reply, does nothing. -/
def advance (c : Crowd) (t : Thread) : Option (Session × Thread × List Step) :=
  match t.rest with
  | .done reply => if t.reply.isSome then none else some (c.session, { t with reply := some reply }, [])
  | .act a next => some ((a.perform c.session).2, { t with rest := next (a.perform c.session).1 }, [])
  | .acquire next =>
    if c.session.cache.locked then none
    else some (c.session.setLocked true, { t with rest := next, turn := .now c.session.cache.records }, [])
  | .release next => some (c.session.setLocked false, { t with rest := next, turn := .past }, [])
  | .call pool args next =>
    match t.command with
    | none =>
      let outcome := (c.session.world.takeOutcome pool).1
      let others := List.range' c.threads.length outcome.meanwhile.length
      some (c.session.launch pool args, { t with command := some (outcome.ending, others) }, outcome.meanwhile)
    | some (ending, others) =>
      let s := c.session.note (.ended ending (others.map c.replyOf))
      some (s, { t with rest := next ending s.trace.length, command := none }, [])

/-- The crowd once a thread has acted and made room for others. -/
def after (c : Crowd) (i : Nat) (s : Session) (t : Thread) (steps : List Step) : Crowd :=
  ⟨s, c.threads.set i t ++ steps.map (.new s.cache.setup)⟩

/-- Lets a thread act once. -/
def move (c : Crowd) (i : Nat) : Option Crowd := do
  let t ← c.threads[i]?
  let (s, t, steps) ← c.advance t
  return c.after i s t steps

end Crowd
end ReplicaWatch
