import Mathlib
import ReplicaWatch.Proofs.Provenance

/-! Sweeps that do not hold the lock. Main statement: a sweep writes to a pool exactly if it fetched the status and
nobody has written to the pool since the snapshot, and otherwise leaves the pool to whoever wrote. -/
namespace ReplicaWatch

/-- How many entries a tally counts. -/
def Tally.total (tally : Tally) : ℕ := tally.refreshed + tally.failed + tally.skipped

namespace Session

/-- A record is still the one of an earlier session exactly if nothing was written to the pool in between, since no
two writes have the same stamp. -/
lemma stillHolds_eq {setup : Setup} {history events since : List Event} {s u : Session} {uid : String}
    {record : Record} (hs : Sound setup history s events) (hu : Sound setup history u (events ++ since))
    (stored : s.cache.records.get? uid = some record) :
    u.cache.stillHolds uid record = !since.any (Event.writes uid) := by
  rw [hs.records_eq] at stored
  rw [Bool.eq_iff_iff, Bool.not_eq_true', List.any_eq_false]
  constructor
  · intro still e he
    obtain ⟨i, change, hi, hr, -⟩ := Cache.last_write stored
    obtain ⟨-, hstamp⟩ := hs.sourced i change uid record hi hr
    have hlt : i < events.length := (List.getElem?_eq_some_iff.1 hi).1
    obtain ⟨r, hget, hsame⟩ : ∃ r, u.cache.records.get? uid = some r ∧ r.stamp = record.stamp := by
      simpa [Cache.stillHolds, Option.any_eq_true] using still
    rw [hu.records_eq] at hget
    obtain ⟨j, change', hj, hr', hlast⟩ := Cache.last_write hget
    obtain ⟨-, hstamp'⟩ := hu.sourced j change' uid r hj hr'
    -- The last write is the one before the snapshot, so that `e`, which comes after it, writes nothing.
    have hji : j = i := by omega
    obtain ⟨k, hk, rfl⟩ := List.mem_iff_getElem.1 he
    rw [Bool.not_eq_true]
    refine hlast (events.length + k) _ (by omega) ?_
    rw [List.getElem?_append_right (by omega), Nat.add_sub_cancel_left, List.getElem?_eq_getElem hk]
  · intro quiet
    have hget : u.cache.records.get? uid = some record := by
      rw [hu.records_eq, Cache.after_append, Cache.get?_after fun e he => Bool.eq_false_iff.2 (quiet e he)]
      exact stored
    simp [Cache.stillHolds, hget]

/-- A sweep comes to an entry by moves. -/
lemma SweepComes.evolves {s t : Session} {depth : ℕ} {uid : String} {record : Record} {tally : Tally}
    (h : s.SweepComes (nested depth) uid record tally t) : Evolves s t := by
  obtain ⟨before, after, -, swept⟩ := h
  have hs := evolves_sweep (evolves_nested depth) s.sweepStart s.cache.setup.serialize ⟨0, 0, 0⟩ before
  rw [swept] at hs
  exact (evolves_sweepStart s).trans hs

lemma SweepComes.stored {s t : Session} {m : Meanwhile} {uid : String} {record : Record} {tally : Tally}
    (h : s.SweepComes m uid record tally t) : s.cache.records.get? uid = some record := by
  obtain ⟨before, after, entries, -⟩ := h
  exact Ledger.get?_eq_some_iff.2 (by simp [entries])

lemma refresh_total {s t : Session} {m : Meanwhile} {held : Bool} {uid : String} {record : Record}
    {tally done : Tally}
    (h : s.refresh m held uid record tally = (.ok done, t)) : done.total = tally.total + 1 := by
  simp only [refresh] at h
  split at h
  · split at h <;> cases h <;> simp only [Tally.total] <;> omega
  · split at h <;> cases h
    simp only [Tally.total]
    omega

/-- A sweep that ends counts every entry once. -/
lemma sweep_total {s t : Session} {m : Meanwhile} {held : Bool} {tally done : Tally}
    {entries : List (String × Record)}
    (h : s.sweep m held tally entries = (.ok done, t)) : done.total = tally.total + entries.length := by
  induction entries generalizing s tally with
  | nil =>
    cases h
    rfl
  | cons entry rest ih =>
    simp only [sweep] at h
    split at h
    · cases h
    · next seen u hr =>
      have hu := refresh_total hr
      have hd := ih h
      rw [List.length_cons]
      omega

/-- After some entries, a sweep goes on with those that are left. -/
lemma sweep_append {s t : Session} {m : Meanwhile} {held : Bool} {tally done : Tally}
    {before : List (String × Record)} (h : s.sweep m held tally before = (.ok done, t))
    (rest : List (String × Record)) : s.sweep m held tally (before ++ rest) = t.sweep m held done rest := by
  induction before generalizing s tally with
  | nil =>
    cases h
    rfl
  | cons entry before ih =>
    simp only [sweep] at h
    simp only [List.cons_append, sweep]
    split at h
    · cases h
    · exact ih h

/-- A sweep ends with the failure that it cannot count. -/
lemma SweepComes.resync_eq_error {s t v : Session} {m : Meanwhile} {uid : String} {record : Record} {tally : Tally}
    {e : Failure} (comes : s.SweepComes m uid record tally t)
    (h : t.refresh m s.cache.setup.serialize uid record tally = (.error e, v)) :
    s.resync m = (.error e, v.setLocked false) := by
  obtain ⟨before, after, entries, swept⟩ := comes
  rw [resync_eq, entries, sweep_append swept]
  simp only [sweep, h]

/-- What a sweep that does not hold the lock makes of an entry, given how its own fetch came out and what happened
since the snapshot. -/
lemma refresh_yields {t u v : Session} {m : Meanwhile} {uid : String} {record : Record} {tally : Tally}
    {since : List Event} {fetched : Except Failure Record} {counted : Except Failure Tally}
    (hr : t.refresh m false uid record tally = (counted, v))
    (holds : u.cache.stillHolds uid record = !since.any (Event.writes uid)) :
    t.fetchRecord m (.ofString record.pool) (.ofString record.ns) = (fetched, u) →
      (match fetched with
      | .ok fresh =>
        if since.any (Event.writes uid) then
          counted = .ok { tally with skipped := tally.skipped + 1 } ∧ v.cache.records = u.cache.records
        else
          counted = .ok { tally with refreshed := tally.refreshed + 1 } ∧
            v.cache.records = u.cache.records.insert uid fresh
      | .error (.cache _) =>
        counted = .ok { tally with failed := tally.failed + 1 } ∧ v.cache.records = u.cache.records
      | .error e => counted = .error e ∧ v.cache.records = u.cache.records) ∧
      (u.cache.records.get? uid = none → v.cache.records.get? uid = none) := by
  intro hf
  simp only [refresh, hf] at hr
  cases fetched with
  | error e => cases e <;> cases hr <;> simp
  | ok fresh =>
    cases written : since.any (Event.writes uid) with
    | true =>
      simp only [holds, written, Bool.not_true, Bool.or_false, Bool.false_eq_true, if_false, Prod.mk.injEq] at hr
      obtain ⟨rfl, rfl⟩ := hr
      simp
    | false =>
      have there : u.cache.records.get? uid ≠ none := by
        intro gone
        simp [Cache.stillHolds, gone, written] at holds
      simp only [holds, written, Bool.not_false, Bool.or_true, if_true, Prod.mk.injEq] at hr
      obtain ⟨rfl, rfl⟩ := hr
      simp [there, Cache.apply]

/-- What a sweep of a cache that serializes no sweeps does about each entry of its snapshot that it comes to.
Between the snapshot and the end of its own fetch, `since` happened, in which other steps may have run. The sweep
writes what it fetched exactly if the fetch succeeded and nothing in `since` wrote to the pool; otherwise it leaves
the store as it is, and so never brings back what is gone. It counts a fetch that failed exactly if the failure is
one of the cache; any other failure ends the sweep. A sweep that ends well has counted each entry of its snapshot
once. -/
theorem sweep_yields_to_writers {setup : Setup} {history : List Event} {s : Session}
    (reachable : Reachable setup history s) (short : setup.serialize = false) (depth : ℕ) :
    (∀ uid record tally t, s.SweepComes (nested depth) uid record tally t →
      ∃ fetched u since counted v,
        t.fetchRecord (nested depth) (.ofString record.pool) (.ofString record.ns) = (fetched, u) ∧
        u.trace = s.trace ++ since ∧
        t.refresh (nested depth) setup.serialize uid record tally = (counted, v) ∧
        (match fetched with
        | .ok fresh =>
          if since.any (Event.writes uid) then
            counted = .ok { tally with skipped := tally.skipped + 1 } ∧ v.cache.records = u.cache.records
          else
            counted = .ok { tally with refreshed := tally.refreshed + 1 } ∧
              v.cache.records = u.cache.records.insert uid fresh
        | .error (.cache _) =>
          counted = .ok { tally with failed := tally.failed + 1 } ∧ v.cache.records = u.cache.records
        | .error e => counted = .error e ∧ v.cache.records = u.cache.records) ∧
        (u.cache.records.get? uid = none → v.cache.records.get? uid = none) ∧
        ∀ e, counted = .error e → s.resync (nested depth) = (.error e, v.setLocked false)) ∧
    ∀ tally t, s.resync (nested depth) = (.ok tally, t) →
      tally.refreshed + tally.failed + tally.skipped = s.cache.records.entries.length := by
  obtain ⟨events, sound⟩ := reachable.sound
  constructor
  · intro uid record tally t comes
    obtain ⟨⟨fetched, u⟩, hf⟩ : ∃ r, t.fetchRecord (nested depth) (.ofString record.pool) (.ofString record.ns) = r :=
      ⟨_, rfl⟩
    have hu : Evolves t u := by
      have h := evolves_fetchRecord (evolves_nested depth) t (.ofString record.pool) (.ofString record.ns)
      rwa [hf] at h
    have moves := comes.evolves.trans hu
    obtain ⟨since, htrace, -, -⟩ := moves.replay
    have holds := stillHolds_eq sound (sound.evolves moves htrace) comes.stored
    obtain ⟨⟨counted, v⟩, hr⟩ : ∃ r, t.refresh (nested depth) setup.serialize uid record tally = r := ⟨_, rfl⟩
    have yields := refresh_yields (short ▸ hr) holds hf
    refine ⟨fetched, u, since, counted, v, hf, htrace, hr, yields.1, yields.2, fun e he => ?_⟩
    refine comes.resync_eq_error ?_
    rw [sound.setup_eq, hr, he]
  · intro tally t h
    rw [resync_eq] at h
    split at h
    · cases h
    · next done u hs =>
      have hd := sweep_total hs
      cases h
      simpa [Tally.total] using hd

/-- A pool is stored, and while its status is fetched again, it is deleted and added with the same status. -/
def readded : Session :=
  Sample.run "a2V5" false [⟨.finished (Sample.document "OK"), []⟩, ⟨.finished (Sample.document "OK"),
    [.delete (Sample.pool "u1" "pool1" "ns1"), .add (Sample.pool "u1" "pool1" "ns1")]⟩]
    [.add (Sample.pool "u1" "pool1" "ns1")]

lemma readded_reachable : Reachable (Sample.setup false) [] readded := Sample.run_reachable _ _ _ _

/-- The record of the pool before the sweep. -/
def firstRecord : Record := ⟨6, "pool1", "ns1", ⟨⟨"OK", "OK", "OK", .zero⟩, [], []⟩⟩

/-- The record of another pool that is stored right after it. -/
def secondRecord : Record := { firstRecord with stamp := 9 }

theorem readded_sweep_yields :
    readded.SweepComes (nested 1) "u1" firstRecord ⟨0, 0, 0⟩ readded.sweepStart ∧
      (readded.sweepStart.refresh (nested 1) false "u1" firstRecord ⟨0, 0, 0⟩).1 = .ok ⟨0, 0, 1⟩ := by
  have comes : readded.SweepComes (nested 1) "u1" firstRecord ⟨0, 0, 0⟩ readded.sweepStart :=
    ⟨[], [], by decide +kernel, rfl⟩
  obtain ⟨fetched, u, since, counted, v, hf, htrace, hr, outcome, -⟩ :=
    (sweep_yields_to_writers readded_reachable rfl 1).1 _ _ _ _ comes
  have hok : (readded.sweepStart.fetchRecord (nested 1) (.ofString firstRecord.pool)
      (.ofString firstRecord.ns)).1.isOk = true := by decide +kernel
  have hwritten : ((readded.sweepStart.fetchRecord (nested 1) (.ofString firstRecord.pool)
      (.ofString firstRecord.ns)).2.trace.drop readded.trace.length).any (Event.writes "u1") = true := by
    decide +kernel
  rw [hf] at hok hwritten
  rw [htrace, List.drop_left] at hwritten
  cases fetched with
  | error e => cases hok
  | ok fresh =>
    simp only [hwritten, if_true] at outcome
    refine ⟨comes, ?_⟩
    have hs : readded.sweepStart.refresh (nested 1) false "u1" firstRecord ⟨0, 0, 0⟩ = (counted, v) := hr
    rw [hs, outcome.1]

/-- A pool is stored, and then the secret of its namespace has a description that is no JSON. -/
def unreadable : Session :=
  Sample.run "a2V5" false [⟨.finished (Sample.document "OK"), []⟩]
    [.add (Sample.pool "u1" "pool1" "ns1"),
      .setObject (.secretOf "ns1") (.body (Utf8.encodeString "<html></html>")), .invalidate .null]

lemma unreadable_reachable : Reachable (Sample.setup false) [] unreadable := Sample.run_reachable _ _ _ _

/-- The sweep comes to the pool and cannot fetch its status, but ends instead of counting it. -/
theorem unreadable_secret_ends_sweep :
    Reachable (Sample.setup false) [] unreadable ∧
      unreadable.SweepComes (nested 1) "u1" firstRecord ⟨0, 0, 0⟩ unreadable.sweepStart ∧
      (unreadable.sweepStart.fetchRecord (nested 1) (.ofString firstRecord.pool)
        (.ofString firstRecord.ns)).1.isOk = false ∧
      (unreadable.sweepStart.refresh (nested 1) false "u1" firstRecord ⟨0, 0, 0⟩).1.isOk = false ∧
      (unreadable.step .resync).2.cache.records.get? "u1" = some firstRecord ∧
      ∀ tally, (unreadable.step .resync).1 ≠ .answer (.swept tally) := by
  obtain ⟨entries, unfetched, uncounted, stored⟩ :
      unreadable.cache.records.entries = [("u1", firstRecord)] ∧
        (unreadable.sweepStart.fetchRecord (nested 1) (.ofString firstRecord.pool)
          (.ofString firstRecord.ns)).1.isOk = false ∧
        (unreadable.sweepStart.refresh (nested 1) false "u1" firstRecord ⟨0, 0, 0⟩).1.isOk = false ∧
        (unreadable.step .resync).2.cache.records.get? "u1" = some firstRecord := by decide +kernel
  have raised : (match (unreadable.step .resync).1 with | .failure _ => true | _ => false) = true := by
    decide +kernel
  refine ⟨unreadable_reachable, ⟨[], [], entries, rfl⟩, unfetched, uncounted, stored, fun tally h => ?_⟩
  rw [h] at raised
  cases raised

end Session
end ReplicaWatch
