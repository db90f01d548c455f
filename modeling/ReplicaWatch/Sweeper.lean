import ReplicaWatch.Log
import ReplicaWatch.World

/-! Sweeping at intervals on a thread of its own, which is started and told to shut down. -/
namespace ReplicaWatch

structure Sweeper where
  interval : Seconds
  logging : Bool
  /-- Whether its threads are told to shut down. -/
  shutdown : Bool
  /-- The thread that it holds. -/
  thread : Option Nat
  /-- The threads that are alive. -/
  alive : List Nat
  /-- How many threads it has made, which is the number of the next one. -/
  made : Nat
  deriving DecidableEq, Repr

namespace Sweeper

def new (interval : Seconds) (logging : Bool) : Sweeper := ⟨interval, logging, false, none, [], 0⟩

/-- Whether it holds a thread that is alive. -/
def isRunning (s : Sweeper) : Bool := s.thread.any s.alive.contains

/-- The line that a start writes about the thread that it made. -/
def greeting (interval : Seconds) : Log.Line := ⟨.info, s!"Started rbd mirror resync every {interval.text} seconds"⟩

/-- The line that a thread writes at its end. -/
def farewell : Log.Line := ⟨.info, "Stopped rbd mirror resync"⟩

/-- Makes a thread unless one is running. -/
def start (s : Sweeper) : List Log.Line × Sweeper :=
  if s.isRunning then ([], s)
  else
    ((greeting s.interval).when s.logging,
      { s with shutdown := false, thread := some s.made, alive := s.made :: s.alive, made := s.made + 1 })

/-- Tells the threads to shut down and lets go of the one it holds. -/
def stop (s : Sweeper) : List Log.Line × Sweeper :=
  (s.alive.flatMap fun _ => farewell.when s.logging,
    { s with shutdown := true, thread := none, alive := [] })

end Sweeper
end ReplicaWatch
