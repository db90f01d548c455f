import Mathlib
import ReplicaWatch.Proofs.Sweeping
import ReplicaWatch.Threads.Program

/-! What a thread does when no other thread acts between its actions, but only within its commands. Main statement: it
takes the step as one that is taken at once, unless the lock is held that the step needs. -/
namespace ReplicaWatch

namespace Session

variable {s : Session} (free : s.cache.locked = false)
include free

end Session

namespace Program

variable {α β : Type}

/-- Runs a program without a break. It does not come to an end where the lock is held that it waits for. -/
def alone (m : Meanwhile) : Program α → Session → Option (α × Session)
  | done a, s => some (a, s)
  | act a next, s => (next (a.perform s).1).alone m (a.perform s).2
  | acquire next, s => if s.cache.locked then none else next.alone m (s.setLocked true)
  | release next, s => next.alone m (s.setLocked false)
  | call pool args next, s =>
    (next (s.run m pool args).1 (s.run m pool args).2.trace.length).alone m (s.run m pool args).2

section
variable {m : Meanwhile} {s : Session}

end

/-! ## Credentials -/

section
variable (m : Meanwhile) (s : Session)

end

section
variable {m : Meanwhile} (hm : Session.Orderly m) (s : Session)
include hm

section
variable {s : Session} (free : s.cache.locked = false)
include free

end

/-! ## Sweeps -/

end

end Program
end ReplicaWatch
