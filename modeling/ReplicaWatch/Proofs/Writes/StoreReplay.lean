import Mathlib
import ReplicaWatch.Proofs.Writes.Chronicle

/-! The store as the replay of its writes. Main statement: in every reachable session, the records that are stored are
those that the writes of the run tell of, which are the writes of its steps when they end well. -/
namespace ReplicaWatch.Session

/-- The events since the cache was set up tell under which names pools are stored. -/
def Recorded (history : List Event) (s : Session) : Prop :=
  ∃ events, s.trace = history ++ events ∧ s.names = namesAfter (events.filterMap Event.write?)

section
variable {setup : Setup} {history : List Event} {s t : Session}

lemma Recorded.tells (h : Recorded history s) {more : List Event} (tells : Tells s more t) : Recorded history t := by
  obtain ⟨events, htrace, names⟩ := h
  refine ⟨events ++ more, by rw [tells.trace, htrace, List.append_assoc], ?_⟩
  rw [tells.names, names, List.filterMap_append, namesAfter, namesAfter, List.foldl_append]

lemma tells_launch (s : Session) (pool : String) (args : List String) :
    Tells s [.started args s.cache.setup.timeout s.cache.locked] (s.launch pool args) := ⟨rfl, rfl⟩

lemma Reachable.traced (h : Reachable setup history s) : Traced setup history s := h.sound

/-- Steps and the commands that they begin keep the record of the writes. -/
lemma Reachable.recorded (h : Reachable setup history s) : Recorded history s := by
  induction h with
  | start world => exact ⟨[], by simp, rfl⟩
  | took h depth step ih =>
    obtain ⟨_, _, tells, -⟩ := acts_attempt (chronicled_nested setup history depth) h.traced step
    exact ih.tells tells
  | within h depth free begins ih =>
    obtain ⟨_, u, pool, args, rfl, under⟩ := begins.under (chronicled_nested setup history depth) h.traced free
    obtain ⟨_, tells, -⟩ := under.does
    exact (ih.tells tells).tells (tells_launch u pool args)

end

/-- In every reachable session the writes of the run, in the order in which they took effect, tell the store: a pool
is stored exactly if the last write that concerns it put it there, its record has the names of that write, and
records stand in the order in which their entries were created since they were last absent.

What a step writes on its own, besides the steps that others take within its commands, depends on how it ends.
Adding and updating put a pool with mirroring into the store and deleting removes it, each at the end and only if
the step ends well; replacing clears everything at its start and then puts the items up to the first that fails. All
else writes nothing, sweeps among it. Where a step has begun a command, it has written nothing yet, unless it
replaces. -/
theorem store_replays_writes {setup : Setup} {history : List Event} {s : Session}
    (reachable : Reachable setup history s) :
    (∃ events, s.trace = history ++ events ∧ Replays (events.filterMap Event.write?) s.cache.records) ∧
    (∀ (depth : ℕ) (step : Step), ∃ own events, (s.attempt (nested depth) step).2.trace = s.trace ++ events ∧
      Deeds setup.serialize (step.holds setup.serialize) own events ∧
      Wrote step (some (s.attempt (nested depth) step).1) own ∧ Timely step own events) ∧
    ∀ (depth : ℕ) (step : Step) (t : Session), s.cache.locked = false → s.Begins (nested depth) step t →
      ∃ own events args, t.trace = s.trace ++ events ++ [.started args setup.timeout (step.holds setup.serialize)] ∧
        Deeds setup.serialize (step.holds setup.serialize) own events ∧ Wrote step none own := by
  have traced := reachable.traced
  refine ⟨?_, fun depth step => ?_, fun depth step t free begins => ?_⟩
  · obtain ⟨events, htrace, names⟩ := reachable.recorded
    exact ⟨events, htrace, replays_of_names names⟩
  · obtain ⟨own, events, tells, deeds, wrote, timely⟩ :=
      acts_attempt (chronicled_nested setup history depth) traced step
    exact ⟨own, events, tells.trace, deeds, wrote, timely⟩
  · obtain ⟨own, u, pool, args, rfl, under⟩ := begins.under (chronicled_nested setup history depth) traced free
    obtain ⟨events, tells, deeds⟩ := under.does
    have same : u.cache.setup = setup := (reachable.within depth free begins).traced.choose_spec.setup_eq
    refine ⟨own, events, args, ?_, deeds, under.wrote⟩
    rw [(tells_launch u pool args).trace, tells.trace, same, under.locked]

/-- Two pools are stored, and while a sweep fetches the status of the first, that one is deleted and added again. -/
def moved : Session :=
  Sample.run "a2V5" false
    [⟨.finished (Sample.document "OK"), []⟩, ⟨.finished (Sample.document "OK"), []⟩,
      ⟨.finished (Sample.document "OK"),
        [.delete (Sample.pool "u1" "pool1" "ns1"), .add (Sample.pool "u1" "pool1" "ns1")]⟩,
      ⟨.finished (Sample.document "ERROR"), []⟩]
    [.add (Sample.pool "u1" "pool1" "ns1"), .add (Sample.pool "u2" "pool1" "ns1"), .resync]

lemma moved_reachable : Reachable (Sample.setup false) [] moved := Sample.run_reachable _ _ _ _

theorem moved_replays_writes :
    Replays [.put "u1" "pool1" "ns1", .put "u2" "pool1" "ns1", .remove "u1", .put "u1" "pool1" "ns1"]
      moved.cache.records ∧ moved.cache.records.keys = ["u2", "u1"] := by
  obtain ⟨⟨events, htrace, replays⟩, -⟩ := store_replays_writes moved_reachable
  obtain ⟨log, keys⟩ : moved.trace.filterMap Event.write? =
      [.put "u1" "pool1" "ns1", .put "u2" "pool1" "ns1", .remove "u1", .put "u1" "pool1" "ns1"] ∧
      moved.cache.records.keys = ["u2", "u1"] := by decide +kernel
  rw [htrace, List.nil_append] at log
  rw [log] at replays
  exact ⟨replays, keys⟩

end ReplicaWatch.Session
