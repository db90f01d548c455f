import ReplicaWatch.Sweeper

/-! What a thread of a sweeper runs, one step after the other: it waits and sweeps by turns until a wait tells it to
shut down. An exception that a sweep raises is caught and logged. Nothing catches one that a wait raises. -/
namespace ReplicaWatch.Sweeper

/-- The line that a thread writes about a sweep that raised. -/
def complaint : Log.Line := ⟨.exception, "Unexpected error during resync"⟩

/-- What a thread is charged with, where things stand as `σ` says: waiting for an interval, which tells it whether to
shut down, and sweeping. Either can raise an exception. -/
structure Duty (σ ε α : Type) where
  wait : Seconds → σ → Except ε Bool × σ
  sweep : σ → Except ε α × σ

/-- What a thread does, with what came of it. -/
inductive Act (ε α : Type) where
  | waited (interval : Seconds) (told : Except ε Bool)
  | swept (outcome : Except ε α)
  | logged (line : Log.Line)

namespace Act
variable {ε α : Type}

def line? : Act ε α → Option Log.Line
  | logged line => some line
  | _ => none

end Act

/-- Where a thread is in its loop. -/
inductive Stage (ε : Type) where
  | ready
  | due
  | caught (e : ε)
  | leaving
  | ended (result : Except ε Unit)

/-- A thread at some moment: where it is, all that it did, and how things stand. -/
structure Thread (σ ε α : Type) where
  stage : Stage ε
  acts : List (Act ε α)
  state : σ

namespace Thread
variable {σ ε α : Type}

/-- A thread that has done nothing yet. -/
def begin (s : σ) : Thread σ ε α := ⟨.ready, [], s⟩

/-- The thread once it has done one more thing. -/
def note (t : Thread σ ε α) (act : Act ε α) (stage : Stage ε) (s : σ) : Thread σ ε α := ⟨stage, t.acts ++ [act], s⟩

end Thread

namespace Duty
variable {σ ε α : Type}

/-- The next thing that a thread does; one that has ended does nothing. -/
def step (d : Duty σ ε α) (interval : Seconds) (t : Thread σ ε α) : Thread σ ε α :=
  match t.stage with
  | .ready =>
    match d.wait interval t.state with
    | (.ok true, s) => t.note (.waited interval (.ok true)) .leaving s
    | (.ok false, s) => t.note (.waited interval (.ok false)) .due s
    | (.error e, s) => t.note (.waited interval (.error e)) (.ended (.error e)) s
  | .due =>
    match d.sweep t.state with
    | (.ok a, s) => t.note (.swept (.ok a)) .ready s
    | (.error e, s) => t.note (.swept (.error e)) (.caught e) s
  | .caught _ => t.note (.logged complaint) .ready t.state
  | .leaving => t.note (.logged farewell) (.ended (.ok ())) t.state
  | .ended _ => t

/-- The thread after so many steps. -/
def after (d : Duty σ ε α) (interval : Seconds) : Nat → Thread σ ε α → Thread σ ε α
  | 0, t => t
  | n + 1, t => d.after interval n (d.step interval t)

/-- The duty to sweep so many times, with the outcomes that are set down. -/
def scripted : Duty (List (Except ε Unit)) ε Unit where
  wait _ ticks := (.ok ticks.isEmpty, ticks)
  sweep
    | [] => (.ok (), [])
    | outcome :: rest => (outcome, rest)

/-- What a thread makes of a script. No sweep takes it more than three steps, and its end takes two. -/
def play (interval : Seconds) (ticks : List (Except ε Unit)) : Thread (List (Except ε Unit)) ε Unit :=
  scripted.after interval (3 * ticks.length + 2) (.begin ticks)

end Duty
end ReplicaWatch.Sweeper
