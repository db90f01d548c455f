import Mathlib
import ReplicaWatch.Proofs.Prospects
import ReplicaWatch.Proofs.Writes.Chronicle

/-! Sweeping twice. In steady surroundings, where every command for a pool ends alike and nobody takes steps
meanwhile, a sweep brings what it comes to up to date. Main statement: a second sweep right after it comes to the
same, leaves the store and the credentials as they are, and asks for nothing of a namespace whose credentials the
first one used. -/
namespace ReplicaWatch

/-! ## Steady surroundings -/

lemma Outcome.eq_of_idle {o o' : Outcome} (h : o.meanwhile = []) (h' : o'.meanwhile = [])
    (ending : o.ending = o'.ending) :
    o = o' := by
  obtain ⟨e, steps⟩ := o
  obtain ⟨e', steps'⟩ := o'
  cases h
  cases h'
  cases ending
  rfl

namespace World

/-- The commands to come for a pool all end alike, and none leaves time for others. -/
def Steady (w : World) : Prop :=
  ∀ pool outcomes, w.outcomes.get? pool = some outcomes → ∀ o ∈ outcomes,
    o.meanwhile = [] ∧ ∀ other ∈ outcomes, other.ending = o.ending

lemma steady_iff (w : World) :
    w.Steady ↔ ∀ e ∈ w.outcomes.entries, ∀ o ∈ e.2,
      o.meanwhile.isEmpty = true ∧ ∀ other ∈ e.2, other.ending = o.ending := by
  simp only [Steady, Ledger.get?_eq_some_iff, List.isEmpty_iff, Prod.forall]

instance (w : World) : Decidable w.Steady := decidable_of_iff _ w.steady_iff.symm

variable {w : World}

lemma Steady.undisturbed (h : w.Steady) : w.Undisturbed :=
  fun pool outcomes found o ho => (h pool outcomes found o ho).1

lemma Steady.setOutcomes (h : w.Steady) (pool : String) {outcomes : List Outcome}
    (alike : ∀ o ∈ outcomes, o.meanwhile = [] ∧ ∀ other ∈ outcomes, other.ending = o.ending) :
    (w.setOutcomes pool outcomes).Steady := by
  intro k found hk
  simp only [World.setOutcomes, Ledger.get?_insert] at hk
  split at hk
  · cases hk
    exact alike
  · exact h k found hk

/-- Taking an outcome leaves steady surroundings steady, and the outcomes to come are what they were. -/
lemma Steady.takeOutcome (h : w.Steady) (pool : String) :
    (w.takeOutcome pool).2.Steady ∧
      ∀ other, ((w.takeOutcome pool).2.takeOutcome other).1 = (w.takeOutcome other).1 := by
  have apart (other : String) (h : other ≠ pool) :
      ((w.takeOutcome pool).2.takeOutcome other).1 = (w.takeOutcome other).1 :=
    takeOutcome_congr ((w.takeOutcome_frame pool).2 other h)
  suffices own : (w.takeOutcome pool).2.Steady ∧
      ((w.takeOutcome pool).2.takeOutcome pool).1 = (w.takeOutcome pool).1 by
    refine ⟨own.1, fun other => ?_⟩
    by_cases same : other = pool
    · exact same ▸ own.2
    · exact apart other same
  cases found : w.outcomes.get? pool with
  | none => simp [World.takeOutcome, found, h]
  | some outcomes =>
    have alike := h pool outcomes found
    cases outcomes with
    | nil => simp [World.takeOutcome, found, h]
    | cons first rest =>
    cases rest with
    | nil =>
      have still := (alike first List.mem_cons_self).1
      have kept : (⟨first.ending, []⟩ : Outcome) = first := Outcome.eq_of_idle rfl still rfl
      simp only [World.takeOutcome, found, Option.getD_some, kept]
      refine ⟨h.setOutcomes pool alike, ?_⟩
      simp [World.setOutcomes, Ledger.get?_insert]
    | cons next rest =>
      have still := (alike first List.mem_cons_self).1
      have same : next = first :=
        Outcome.eq_of_idle (alike next (by simp)).1 still ((alike first (by simp)).2 next (by simp))
      simp only [World.takeOutcome, found, Option.getD_some]
      refine ⟨h.setOutcomes pool fun o ho => ?_, ?_⟩
      · obtain ⟨still, ends⟩ := alike o (List.mem_cons_of_mem _ ho)
        exact ⟨still, fun other hother => ends other (List.mem_cons_of_mem _ hother)⟩
      · cases rest <;> simp [World.setOutcomes, Ledger.get?_insert, same]

end World

/-! ## Counting -/

/-- What a sweep is to do for one of its entries: refresh the record at an identity, for a pool of a namespace. -/
structure Aim where
  uid : String
  pool : String
  ns : String

namespace Tally

variable {α : Type}

/-- Counts what a fetch gave. A failure that is not foreseen ends the count. -/
def countOne (tally : Tally) : Except Failure α → Except Failure Tally
  | .ok _ => .ok { tally with refreshed := tally.refreshed + 1 }
  | .error (.cache _) => .ok { tally with failed := tally.failed + 1 }
  | .error e => .error e

def count (tally : Tally) : List (Except Failure α) → Except Failure Tally
  | [] => .ok tally
  | result :: rest =>
    match tally.countOne result with
    | .ok tally => tally.count rest
    | .error e => .error e

end Tally

namespace Session

/-- The aims of a sweep that is to come, in its order. -/
def aims (entries : List (String × Record)) : List Aim := entries.map fun e => ⟨e.1, e.2.pool, e.2.ns⟩

def prospect (s : Session) (aim : Aim) : Except Failure (String × String × Status.Pool) :=
  s.forecast (.ofString aim.pool) (.ofString aim.ns)

/-- From one session to another, what is to be expected of a fetch stays as it is. -/
structure Expects (s t : Session) : Prop where
  setup : t.cache.setup = s.cache.setup
  credentials : ∀ ns, t.credentialsOf ns = s.credentialsOf ns
  answers : ∀ pool, (t.world.takeOutcome pool).1 = (s.world.takeOutcome pool).1
  steady : t.world.Steady

/-- What a sweep is to bring about for an aim is so: credentials are held if there are any, and what a fetch would
give is stored. -/
structure UpToDate (s : Session) (aim : Aim) : Prop where
  known : aim.ns ∈ s.cache.setup.allowed → s.cache.known.get? aim.ns = (s.credentialsOf aim.ns).toOption
  stored : ∀ content, s.prospect aim = .ok content → s.stored.get? aim.uid = some content

/-- From one session to another, the store and the credentials stay as they are, and nothing is asked for of a
namespace whose credentials are held. -/
structure Rests (s t : Session) : Prop where
  stored : t.stored = s.stored
  known : t.cache.known = s.cache.known
  events : ∃ events, t.trace = s.trace ++ events ∧ ∀ name, .asked name ∈ events → s.cache.known.get? name.ns = none

section
variable {s t u : Session} {m : Meanwhile} {aim : Aim}

lemma Expects.refl (steady : s.world.Steady) : Expects s s := ⟨rfl, fun _ => rfl, fun _ => rfl, steady⟩

lemma Expects.trans (h : Expects s t) (h' : Expects t u) : Expects s u :=
  ⟨h'.setup.trans h.setup, fun ns => (h'.credentials ns).trans (h.credentials ns),
    fun pool => (h'.answers pool).trans (h.answers pool), h'.steady⟩

lemma Expects.prospect_eq (h : Expects s t) (aim : Aim) : t.prospect aim = s.prospect aim := by
  simp only [prospect, forecast, Json.ofString, h.setup, h.credentials, h.answers]
  simp only [conclude_congr h.setup (Text.asString (Text.ofString aim.pool)) [] []]

/-- A session with the same store, credentials and surroundings. -/
lemma Expects.of_same (steady : s.world.Steady) (setup : t.cache.setup = s.cache.setup)
    (known : t.cache.known = s.cache.known) (world : t.world = s.world) : Expects s t :=
  ⟨setup, fun ns => by rw [credentialsOf, credentialsOf, known, world], fun pool => by rw [world], world ▸ steady⟩

lemma Rests.refl (s : Session) : Rests s s := ⟨rfl, rfl, [], by simp, nofun⟩

lemma Rests.trans (h : Rests s t) (h' : Rests t u) : Rests s u := by
  obtain ⟨events, htrace, asked⟩ := h.events
  obtain ⟨events', htrace', asked'⟩ := h'.events
  refine ⟨h'.stored.trans h.stored, h'.known.trans h.known, events ++ events', ?_, fun name mem => ?_⟩
  · rw [htrace', htrace, List.append_assoc]
  · rcases List.mem_append.1 mem with mem | mem
    · exact asked name mem
    · exact h.known ▸ asked' name mem

lemma rests_withLines (s : Session) (lines : List Log.Line) : Rests s (s.withLines lines) :=
  ⟨rfl, rfl, _, rfl, fun name mem => by simp at mem⟩

lemma rests_log (s : Session) (level : Log.Level) (text : String) : Rests s (s.log level text) := by
  obtain ⟨lines, hlines⟩ := s.log_eq level text
  rw [hlines]
  exact rests_withLines s lines

lemma UpToDate.of_rests (h : UpToDate s aim) (expects : Expects s t) (rests : Rests s t) : UpToDate t aim where
  known allowed := by
    rw [rests.known, expects.credentials]
    exact h.known (expects.setup ▸ allowed)
  stored content given := by
    rw [rests.stored]
    exact h.stored content (expects.prospect_eq aim ▸ given)

lemma permit_ofString_iff {setup : Setup} {ns n : String} :
    setup.permit (.ofString ns) = .ok n ↔ n = ns ∧ ns ∈ setup.allowed := by
  rw [Setup.permit_eq_ok_iff]
  constructor
  · rintro ⟨same, allowed⟩
    obtain rfl : ns = n := Text.ofString_inj.1 (Json.string.inj same)
    exact ⟨rfl, allowed⟩
  · rintro ⟨rfl, allowed⟩
    exact ⟨rfl, allowed⟩

/-! ## Fetching -/

section
variable (hm : Orderly m) (steady : s.world.Steady)
include hm steady

lemma fetchRecord_world (pool ns : Json) :
    (s.fetchRecord m pool ns).2.world = s.world ∨
      ∃ p, (s.fetchRecord m pool ns).2.world = (s.world.takeOutcome p).2 := by
  have resolves {n : String} {result : Except Failure Credentials} {t : Session}
      (h : s.resolvePermitted n false = (result, t)) : t.world = s.world := by
    have world := s.resolvePermitted_world n false
    rwa [h] at world
  have cases := fetchRecord_cases s m pool ns
  generalize s.fetchRecord m pool ns = r at cases ⊢
  cases cases with
  | refused refused => exact .inl rfl
  | unresolved permitted resolved => exact .inl (resolves resolved)
  | misnamed permitted resolved nameless => exact .inl (resolves resolved)
  | @ended n c t p fetched u permitted resolved named ended =>
    have world := resolves resolved
    have still : t.world.Undisturbed := world ▸ steady.undisturbed
    have called := (called_undisturbed hm still (Text.asString p) c).2
    rcases t.fetch_cases m (Text.asString p) c with ⟨e, he⟩ | ⟨e, lines, he⟩ | ⟨status, hs⟩
    · cases ended.symm.trans he
      exact .inl world
    · cases ended.symm.trans he
      exact .inr ⟨Text.asString p, world ▸ called⟩
    · cases ended.symm.trans hs
      exact .inr ⟨Text.asString p, world ▸ called⟩

lemma expects_fetchRecord (pool ns : Json) : Expects s (s.fetchRecord m pool ns).2 := by
  obtain ⟨-, -, others⟩ := fetchRecord_undisturbed hm steady.undisturbed pool ns
  refine ⟨others.setup.symm, fun ns => (others.credentials ns).symm, ?_, ?_⟩
  · rcases fetchRecord_world hm steady pool ns with world | ⟨p, world⟩
    · exact fun _ => by rw [world]
    · exact fun other => by rw [world, (steady.takeOutcome p).2 other]
  · rcases fetchRecord_world hm steady pool ns with world | ⟨p, world⟩
    · exact world ▸ steady
    · exact world ▸ (steady.takeOutcome p).1

omit hm steady in
/-- Where there are no credentials to be found for a namespace but those that are held, a lookup changes nothing. -/
lemma rests_resolvePermitted {ns : String} (held : s.cache.known.get? ns = (s.credentialsOf ns).toOption) :
    Rests s (s.resolvePermitted ns false).2 := by
  cases known : s.cache.known.get? ns with
  | some c =>
    have kept : s.resolvePermitted ns false = (.ok c, s) := by simp [resolvePermitted, known]
    rw [kept]
    exact .refl s
  | none =>
    have learned : s.resolvePermitted ns false = s.learn ns := by simp [resolvePermitted, known]
    have looks := s.looks_resolvePermitted ns false
    rw [learned] at looks ⊢
    obtain ⟨events, htrace, -, requests⟩ := looks.events
    have unchanged : (s.learn ns).2.cache.known = s.cache.known := by
      rw [known, credentialsOf, known] at held
      rw [(s.learn_eq ns).2.2.1]
      simp only [Dealing.apply]
      cases found : s.world.find ns with
      | error e => rfl
      | ok c => simp [found, Except.toOption] at held
    refine ⟨congrArg (Ledger.map · Record.content) looks.records, unchanged, events, htrace, fun name mem => ?_⟩
    have asked : name ∈ [ObjectName.secretOf ns, .configOf ns] :=
      requests.subset (List.mem_filterMap.2 ⟨_, mem, rfl⟩)
    have about : name.ns = ns := by
      simp only [List.mem_cons, List.not_mem_nil, or_false] at asked
      obtain rfl | rfl := asked <;> rfl
    rw [about, known]

lemma rests_called (pool : String) (c : Credentials) : Rests s (s.called m pool c) := by
  have cache := (called_undisturbed hm steady.undisturbed pool c).1
  refine ⟨by rw [stored, stored, cache], by rw [cache], ?_⟩
  rw [called, run_eq, (steady.undisturbed.takeOutcome pool).1, hm.idle]
  exact ⟨[_, _], List.append_assoc _ _ _, fun name mem => by simp at mem⟩

lemma rests_fetchRecord (pool : Json) {ns : Json}
    (held : ∀ n, s.cache.setup.permit ns = .ok n → s.cache.known.get? n = (s.credentialsOf n).toOption) :
    Rests s (s.fetchRecord m pool ns).2 := by
  have resolves {n : String} {result : Except Failure Credentials} {t : Session}
      (permitted : s.cache.setup.permit ns = .ok n) (h : s.resolvePermitted n false = (result, t)) :
      Rests s t ∧ t.world = s.world := by
    have rests := rests_resolvePermitted (held n permitted)
    have world := s.resolvePermitted_world n false
    rw [h] at rests world
    exact ⟨rests, world⟩
  have cases := fetchRecord_cases s m pool ns
  generalize s.fetchRecord m pool ns = r at cases ⊢
  cases cases with
  | refused refused => exact .refl s
  | unresolved permitted resolved => exact (resolves permitted resolved).1
  | misnamed permitted resolved nameless => exact (resolves permitted resolved).1
  | @ended n c t p fetched u permitted resolved named ended =>
    obtain ⟨rests, world⟩ := resolves permitted resolved
    have called := rests_called hm (s := t) (world ▸ steady) (Text.asString p) c
    rcases t.fetch_cases m (Text.asString p) c with ⟨e, he⟩ | ⟨e, lines, he⟩ | ⟨status, hs⟩
    · cases ended.symm.trans he
      exact rests
    · cases ended.symm.trans he
      exact (rests.trans called).trans (rests_withLines _ _)
    · cases ended.symm.trans hs
      exact rests.trans called

end

/-! ## Refreshing -/

section
variable (hm : Orderly m) {start : Session} {held : Bool} {uid : String} {record : Record}
    {rest : List (String × Record)}
variable (steady : s.world.Steady)
include hm steady

/-- What refreshing a record comes to: the count, what is to be expected, and the store. -/
lemma refresh_steady (ahead : Ahead start held s ((uid, record) :: rest)) (calm : Calm held start) (tally : Tally) :
    (s.refresh m held uid record tally).1 = tally.countOne (s.prospect ⟨uid, record.pool, record.ns⟩) ∧
      Expects s (s.refresh m held uid record tally).2 ∧
      (s.refresh m held uid record tally).2.stored =
        (match s.prospect ⟨uid, record.pool, record.ns⟩ with
          | .ok content => s.stored.insert uid content
          | .error _ => s.stored) ∧
      (s.refresh m held uid record tally).2.cache.known =
        (s.fetchRecord m (.ofString record.pool) (.ofString record.ns)).2.cache.known := by
  obtain ⟨result, -, -⟩ := fetchRecord_undisturbed hm steady.undisturbed (.ofString record.pool) (.ofString record.ns)
  have expects := expects_fetchRecord hm steady (.ofString record.pool) (.ofString record.ns)
  have there := ahead.calm_stored hm calm (.ofString record.pool) (.ofString record.ns)
  have records := (undisturbed_fetchRecord hm steady.undisturbed (.ofString record.pool) (.ofString record.ns)).1
  have cases := refresh_cases s m held uid record tally
  have kept : (s.fetchRecord m (.ofString record.pool) (.ofString record.ns)).2.stored = s.stored :=
    congrArg (Ledger.map · Record.content) records
  rw [prospect, ← result]
  generalize s.fetchRecord m (.ofString record.pool) (.ofString record.ns) = r at expects there kept cases ⊢
  generalize s.refresh m held uid record tally = r' at cases ⊢
  obtain ⟨fetched, u⟩ := r
  cases cases with
  | @wrote fresh may =>
    refine ⟨rfl, expects.trans (.of_same expects.steady rfl rfl rfl), ?_, rfl⟩
    exact (Ledger.map_insert _ _ _ _).trans (congrArg (Ledger.insert · uid fresh.content) kept)
  | skipped yields => simp [Cache.stillHolds, there] at yields
  | failed cause =>
    obtain ⟨lines, hlines⟩ := u.log_eq .error (unrefreshedText uid cause)
    rw [hlines]
    exact ⟨rfl, expects.trans (.of_same expects.steady rfl rfl rfl), kept, rfl⟩
  | ended other =>
    refine ⟨?_, expects, kept, rfl⟩
    rename_i e
    cases e with
    | cache cause => exact absurd rfl (other cause)
    | _ => rfl

/-- What a refresh was for is up to date after it. -/
lemma upToDate_refresh (ahead : Ahead start held s ((uid, record) :: rest)) (calm : Calm held start) (tally : Tally) :
    UpToDate (s.refresh m held uid record tally).2 ⟨uid, record.pool, record.ns⟩ := by
  obtain ⟨-, expects, stored, known⟩ := refresh_steady hm steady ahead calm tally
  have held :=
    (fetchRecord_undisturbed hm steady.undisturbed (.ofString record.pool) (.ofString record.ns)).2.1 record.ns
  refine ⟨fun allowed => ?_, fun content h => ?_⟩
  · have permitted : s.cache.setup.permit (.ofString record.ns) = .ok record.ns :=
      permit_ofString_iff.2 ⟨rfl, expects.setup ▸ allowed⟩
    rw [known, held, permitted, expects.credentials]
    simp [Except.toOption]
  · rw [expects.prospect_eq] at h
    rw [stored, h]
    exact (Ledger.get?_insert _ _ _ _).trans (if_pos rfl)

/-- What was up to date and is about another record stays so. -/
lemma UpToDate.refresh {aim : Aim} (h : UpToDate s aim) (other : aim.uid ≠ uid)
    (ahead : Ahead start held s ((uid, record) :: rest)) (calm : Calm held start) (tally : Tally) :
    UpToDate (s.refresh m held uid record tally).2 aim := by
  obtain ⟨-, expects, stored, known⟩ := refresh_steady hm steady ahead calm tally
  have held :=
    (fetchRecord_undisturbed hm steady.undisturbed (.ofString record.pool) (.ofString record.ns)).2.1 aim.ns
  refine ⟨fun allowed => ?_, fun content hcontent => ?_⟩
  · rw [known, held, expects.credentials]
    split
    · rfl
    · exact h.known (expects.setup ▸ allowed)
  · rw [expects.prospect_eq] at hcontent
    have before := h.stored content hcontent
    rw [stored]
    split
    · exact (Ledger.get?_insert _ _ _ _).trans ((if_neg other).trans before)
    · exact before

/-- Refreshing what is up to date changes nothing. -/
lemma rests_refresh (ahead : Ahead start held s ((uid, record) :: rest)) (calm : Calm held start) (tally : Tally)
    (h : UpToDate s ⟨uid, record.pool, record.ns⟩) : Rests s (s.refresh m held uid record tally).2 := by
  have permitted (n : String) (hn : s.cache.setup.permit (.ofString record.ns) = .ok n) :
      s.cache.known.get? n = (s.credentialsOf n).toOption := by
    obtain ⟨rfl, allowed⟩ := permit_ofString_iff.1 hn
    exact h.known allowed
  have rests := rests_fetchRecord hm steady (.ofString record.pool) permitted
  obtain ⟨-, -, stored, known⟩ := refresh_steady hm steady ahead calm tally
  refine ⟨?_, known.trans rests.known, ?_⟩
  · rw [stored]
    split
    · next content given => exact Ledger.insert_eq_self (h.stored content given)
    · rfl
  · obtain ⟨events, htrace, asked⟩ := rests.events
    have cases := refresh_cases s m held uid record tally
    generalize s.fetchRecord m (.ofString record.pool) (.ofString record.ns) = r at htrace cases
    generalize s.refresh m held uid record tally = r' at cases ⊢
    obtain ⟨fetched, u⟩ := r
    cases cases with
    | @wrote fresh may =>
      refine ⟨events ++ [.changed (.refreshed uid fresh)], ?_, fun name mem => asked name (by simpa using mem)⟩
      rw [change_trace, htrace, List.append_assoc]
    | skipped yields => exact ⟨events, htrace, asked⟩
    | failed cause =>
      obtain ⟨lines, hlines⟩ := u.log_eq .error (unrefreshedText uid cause)
      refine ⟨events ++ lines.map Event.logged, ?_, fun name mem => asked name (by simpa using mem)⟩
      rw [hlines, withLines, htrace, List.append_assoc]
    | ended other => exact ⟨events, htrace, asked⟩

end

/-! ## Sweeping -/

section
variable (hm : Orderly m) {start : Session} {held : Bool} (calm : Calm held start)
include hm calm

/-- A sweep counts what is to be expected for its aims, and has up to date what it came to and what was so before. -/
lemma sweep_steady {entries : List (String × Record)} (steady : s.world.Steady) (ahead : Ahead start held s entries)
    (tally : Tally) :
    (s.sweep m held tally entries).1 = tally.count ((aims entries).map s.prospect) ∧
      Expects s (s.sweep m held tally entries).2 ∧
      (∀ aim, UpToDate s aim → aim.uid ∉ entries.map Prod.fst → UpToDate (s.sweep m held tally entries).2 aim) ∧
      ∀ before aim after seen, aims entries = before ++ aim :: after →
        tally.count (before.map s.prospect) = .ok seen →
        UpToDate (s.sweep m held tally entries).2 aim := by
  induction entries generalizing s tally with
  | nil => exact ⟨rfl, .refl steady, fun _ h _ => h, fun before aim after _ h => by simp [aims] at h⟩
  | cons entry rest ih =>
    obtain ⟨uid, record⟩ := entry
    obtain ⟨counted, expects, -, -⟩ := refresh_steady hm steady ahead calm tally
    have now := upToDate_refresh hm steady ahead calm tally
    have later {aim : Aim} (h : UpToDate s aim) (other : aim.uid ≠ uid) := h.refresh hm steady other ahead calm tally
    have next {done : Tally} {t : Session} (hr : s.refresh m held uid record tally = (.ok done, t)) :=
      ahead.next hm hr
    have same : (s.refresh m held uid record tally).2.prospect = s.prospect := funext expects.prospect_eq
    simp only [sweep, aims, List.map_cons, List.mem_cons, not_or, Tally.count]
    generalize s.refresh m held uid record tally = r at counted expects now later next same ⊢
    obtain ⟨result, t⟩ := r
    rw [← counted]
    cases result with
    | error e =>
      refine ⟨rfl, expects, fun aim h apart => later h apart.1, fun before aim after seen split came => ?_⟩
      cases before with
      | nil =>
        rw [List.nil_append, List.cons.injEq] at split
        exact split.1 ▸ now
      | cons first before =>
        rw [List.cons_append, List.cons.injEq] at split
        simp [Tally.count, ← split.1, ← counted] at came
    | ok done =>
      obtain ⟨counts, rests, kept, comes⟩ := ih expects.steady (next rfl) done
      rw [same] at counts comes
      refine ⟨counts, expects.trans rests, fun aim h apart => kept aim (later h apart.1) apart.2,
        fun before aim after seen split came => ?_⟩
      cases before with
      | nil =>
        rw [List.nil_append, List.cons.injEq] at split
        exact split.1 ▸ kept _ now (List.nodup_cons.1 ahead.nodup).1
      | cons first before =>
        rw [List.cons_append, List.cons.injEq] at split
        rw [List.map_cons, Tally.count, ← split.1, ← counted] at came
        exact comes before aim after seen split.2 came

/-- A sweep that comes to nothing but what is up to date changes nothing. -/
lemma rests_sweep {entries : List (String × Record)} (steady : s.world.Steady) (ahead : Ahead start held s entries)
    (tally : Tally)
    (ready : ∀ before aim after seen, aims entries = before ++ aim :: after →
      tally.count (before.map s.prospect) = .ok seen → UpToDate s aim) :
    Rests s (s.sweep m held tally entries).2 := by
  induction entries generalizing s tally with
  | nil => exact .refl s
  | cons entry rest ih =>
    obtain ⟨uid, record⟩ := entry
    obtain ⟨counted, expects, -, -⟩ := refresh_steady hm steady ahead calm tally
    have now : UpToDate s ⟨uid, record.pool, record.ns⟩ := ready [] _ _ tally rfl rfl
    have rests := rests_refresh hm steady ahead calm tally now
    have next {done : Tally} {t : Session} (hr : s.refresh m held uid record tally = (.ok done, t)) :=
      ahead.next hm hr
    have same : (s.refresh m held uid record tally).2.prospect = s.prospect := funext expects.prospect_eq
    simp only [sweep]
    generalize s.refresh m held uid record tally = r at counted expects rests next same ⊢
    obtain ⟨result, t⟩ := r
    cases result with
    | error e => exact rests
    | ok done =>
      refine rests.trans (ih expects.steady (next rfl) done fun before aim after seen split came => ?_)
      have ready : UpToDate s aim := by
        refine ready (⟨uid, record.pool, record.ns⟩ :: before) aim after seen ?_ ?_
        · rw [aims, List.map_cons, List.cons_append, ← split]
          rfl
        · rw [List.map_cons, Tally.count, ← counted, ← came, same]
      exact ready.of_rests expects rests

/-- A sweep leaves the names under which pools are stored. -/
lemma names_sweep {entries : List (String × Record)} (ahead : Ahead start held s entries) (tally : Tally) :
    (s.sweep m held tally entries).2.names = s.names := by
  induction entries generalizing s tally with
  | nil => rfl
  | cons entry rest ih =>
    obtain ⟨uid, record⟩ := entry
    have there := ahead.calm_stored hm calm (.ofString record.pool) (.ofString record.ns)
    have records := (calm_fetchRecord hm ahead.locked (ahead.there calm).1 (.ofString record.pool)
      (.ofString record.ns)).1
    have next {done : Tally} {t : Session} (hr : s.refresh m held uid record tally = (.ok done, t)) :=
      ahead.next hm hr
    have first : (s.refresh m held uid record tally).2.names = s.names := by
      have kept : (s.fetchRecord m (.ofString record.pool) (.ofString record.ns)).2.names = s.names :=
        congrArg (Ledger.map · Record.names) records
      have cases := refresh_cases s m held uid record tally
      generalize hf : s.fetchRecord m (.ofString record.pool) (.ofString record.ns) = r at there kept cases
      generalize s.refresh m held uid record tally = r' at cases ⊢
      obtain ⟨fetched, u⟩ := r
      cases cases with
      | @wrote fresh may =>
        obtain ⟨pool, ns⟩ := names_of_fetchRecord hf
        have same : u.names.get? uid = some fresh.names := by
          rw [names, Ledger.get?_map, there, Option.map_some, Record.names, Record.names, pool, ns]
        exact ((Ledger.map_insert _ _ _ _).trans (Ledger.insert_eq_self same)).trans kept
      | skipped yields => exact kept
      | failed cause => exact (congrArg (Ledger.map · Record.names) (by rw [log_cache])).trans kept
      | ended other => exact kept
    simp only [sweep]
    generalize s.refresh m held uid record tally = r at first next ⊢
    obtain ⟨result, t⟩ := r
    cases result with
    | error e => exact first
    | ok done => exact (ih (next rfl) done).trans first

end

/-! ## Sweeping twice -/

/-- What a sweep is to do in a session. -/
def plan (s : Session) : List Aim := aims s.cache.records.entries

lemma plan_eq (h : t.names = s.names) : t.plan = s.plan := by
  have of_names (s : Session) : s.plan = s.names.entries.map fun e => ⟨e.1, e.2.1, e.2.2⟩ := by
    simp [plan, aims, names, Ledger.map, Record.names]
  rw [of_names, of_names, h]

lemma resync_end (s : Session) (m : Meanwhile) : ∃ lines : List Log.Line,
    s.resync m =
      ((s.sweepStart.sweep m s.cache.setup.serialize ⟨0, 0, 0⟩ s.cache.records.entries).1,
        ((s.sweepStart.sweep m s.cache.setup.serialize ⟨0, 0, 0⟩ s.cache.records.entries).2.setLocked false).withLines
          lines) := by
  rw [resync_eq]
  generalize s.sweepStart.sweep m s.cache.setup.serialize ⟨0, 0, 0⟩ s.cache.records.entries = r
  obtain ⟨result, t⟩ := r
  cases result with
  | error e => exact ⟨[], by simp only [withLines_nil]⟩
  | ok tally =>
    obtain ⟨lines, hlines⟩ := (t.setLocked false).log_eq .info (sweepEndedText tally)
    exact ⟨lines, by simp only [hlines]⟩

lemma rests_setLocked (s : Session) (locked : Bool) : Rests s (s.setLocked locked) :=
  ⟨rfl, rfl, [], (List.append_nil _).symm, nofun⟩

lemma rests_sweepStart (s : Session) : Rests s s.sweepStart := (rests_log s .info _).trans (rests_setLocked _ _)

lemma expects_sweepStart (steady : s.world.Steady) : Expects s s.sweepStart :=
  .of_same steady (by simp [sweepStart]) (by simp [sweepStart]) (by simp [sweepStart])

section
variable (hm : Orderly m) (steady : s.world.Steady)
include hm steady

/-- A sweep counts what is to be expected of its plan, keeps the plan, and has up to date what it came to. -/
lemma resync_steady :
    (s.resync m).1 = Tally.count ⟨0, 0, 0⟩ (s.plan.map s.prospect) ∧ Expects s (s.resync m).2 ∧
      (s.resync m).2.plan = s.plan ∧
      ∀ before aim after seen, s.plan = before ++ aim :: after →
        Tally.count ⟨0, 0, 0⟩ (before.map s.prospect) = .ok seen → UpToDate (s.resync m).2 aim := by
  have calm : Calm s.cache.setup.serialize s := .inr steady.undisturbed
  have start := expects_sweepStart steady
  have same : s.sweepStart.prospect = s.prospect := funext start.prospect_eq
  obtain ⟨counts, expects, -, comes⟩ := sweep_steady hm calm start.steady s.sweepStart_ahead ⟨0, 0, 0⟩
  have names := names_sweep hm calm s.sweepStart_ahead ⟨0, 0, 0⟩
  have began : s.sweepStart.names = s.names := by simp [Session.names, sweepStart]
  obtain ⟨lines, ended⟩ := s.resync_end m
  rw [ended]
  generalize s.sweepStart.sweep m s.cache.setup.serialize ⟨0, 0, 0⟩ s.cache.records.entries = r
    at counts expects names comes ⊢
  obtain ⟨result, t⟩ := r
  have unlocked : Expects t ((t.setLocked false).withLines lines) := .of_same expects.steady rfl rfl rfl
  have rests : Rests t ((t.setLocked false).withLines lines) :=
    (rests_setLocked t false).trans (rests_withLines _ lines)
  rw [same] at counts comes
  exact ⟨counts, (start.trans expects).trans unlocked, plan_eq (names.trans began),
    fun before aim after seen split came => (comes before aim after seen split came).of_rests unlocked rests⟩

/-- A sweep for which everything is up to date that it comes to changes nothing. -/
lemma rests_resync (ready : ∀ before aim after seen, s.plan = before ++ aim :: after →
    Tally.count ⟨0, 0, 0⟩ (before.map s.prospect) = .ok seen → UpToDate s aim) : Rests s (s.resync m).2 := by
  have calm : Calm s.cache.setup.serialize s := .inr steady.undisturbed
  have start := expects_sweepStart steady
  have same : s.sweepStart.prospect = s.prospect := funext start.prospect_eq
  have swept := rests_sweep hm calm start.steady s.sweepStart_ahead ⟨0, 0, 0⟩ fun before aim after seen split came =>
    (ready before aim after seen split (same ▸ came)).of_rests start s.rests_sweepStart
  obtain ⟨lines, ended⟩ := s.resync_end m
  rw [ended]
  exact ((s.rests_sweepStart.trans swept).trans (rests_setLocked _ false)).trans (rests_withLines _ lines)

end

/-- A sweep uses the credentials of a namespace: it comes to an entry for which they are found or held. -/
def SweepUses (s : Session) (m : Meanwhile) (ns : String) : Prop :=
  ∃ uid record tally t c, s.SweepComes m uid record tally t ∧ record.ns = ns ∧
    (t.resolve (.ofString ns) false).1 = .ok c

lemma Ahead.front {start : Session} {held : Bool} {before rest : List (String × Record)}
    (h : Ahead start held s (before ++ rest)) : Ahead start held s before where
  moves := h.moves
  locked := h.locked
  nodup := (List.nodup_append.1 (List.map_append ▸ h.nodup)).1
  snapshot e he := h.snapshot e (List.mem_append_left _ he)
  there calm := (h.there calm).imp_right fun there e he => there e (List.mem_append_left _ he)

/-- Credentials that a sweep used are held after it. -/
lemma SweepUses.held {ns : String} (uses : s.SweepUses m ns) (hm : Orderly m) (steady : s.world.Steady) :
    ∃ c, (s.resync m).2.cache.known.get? ns = some c := by
  obtain ⟨uid, record, tally, t, c, ⟨before, after, entries, swept⟩, rfl, resolved⟩ := uses
  have start := expects_sweepStart steady
  have reached : Expects s t ∧ Tally.count ⟨0, 0, 0⟩ ((aims before).map s.prospect) = .ok tally := by
    have ahead := s.sweepStart_ahead
    rw [entries] at ahead
    obtain ⟨counts, expects, -⟩ := sweep_steady hm (.inr steady.undisturbed) start.steady ahead.front ⟨0, 0, 0⟩
    rw [swept] at counts expects
    rw [show s.sweepStart.prospect = s.prospect from funext start.prospect_eq] at counts
    exact ⟨start.trans expects, counts.symm⟩
  have split : s.plan = aims before ++ ⟨uid, record.pool, record.ns⟩ :: aims after := by
    rw [plan, entries, aims, List.map_append]
    rfl
  obtain ⟨-, expects, -, comes⟩ := resync_steady hm steady
  have upToDate := comes _ _ _ _ split reached.2
  cases permitted : t.cache.setup.permit (.ofString record.ns) with
  | error e => simp [resolve, permitted] at resolved
  | ok n =>
    obtain ⟨rfl, allowed⟩ := permit_ofString_iff.1 permitted
    rw [resolve, permitted] at resolved
    have found : s.credentialsOf record.ns = .ok c := by
      rw [← reached.1.credentials, ← resolvePermitted_eq]
      exact resolved
    refine ⟨c, ?_⟩
    rw [upToDate.known (by rw [expects.setup, ← reached.1.setup]; exact allowed), expects.credentials, found]
    rfl

/-- Two sweeps, one after the other, in steady surroundings: the second replies as the first did, it leaves the
store as the first left it, apart from the moments at which the records came in, and the credentials too, and it
asks for nothing of a namespace whose credentials the first used. -/
theorem resync_idempotent (s : Session) (steady : s.world.Steady) (depth depth' : ℕ) :
    let first := s.attempt (nested depth) .resync
    let second := first.2.attempt (nested depth') .resync
    second.1 = first.1 ∧ second.2.stored = first.2.stored ∧ second.2.cache.known = first.2.cache.known ∧
      ∃ events, second.2.trace = first.2.trace ++ events ∧
        ∀ ns, s.SweepUses (nested depth) ns → ∀ name, .asked name ∈ events → name.ns ≠ ns := by
  cases free : s.cache.locked with
  | true =>
    have blocked (depth : ℕ) : s.attempt (nested depth) .resync = (.blocked, s) := attempt_of_locked free _ _
    simp only [blocked, true_and]
    exact ⟨[], (List.append_nil _).symm, fun _ _ _ => nofun⟩
  | false =>
    have hm := orderly_nested depth
    have hm' := orderly_nested depth'
    obtain ⟨counts, expects, plan, comes⟩ := resync_steady hm steady
    have held {ns : String} (uses : s.SweepUses (nested depth) ns) := uses.held hm steady
    have unlocked := s.resync_free (nested depth)
    simp only [attempt_of_free free, perform, Reply.ofResult_snd, attempt_of_free unlocked]
    generalize s.resync (nested depth) = first at counts expects plan comes held unlocked ⊢
    obtain ⟨reply, t⟩ := first
    have same : t.prospect = s.prospect := funext expects.prospect_eq
    obtain ⟨counts', -⟩ := resync_steady hm' expects.steady
    have rests := rests_resync hm' expects.steady fun before aim after seen split came =>
      comes before aim after seen (plan ▸ split) (same ▸ came)
    rw [plan, same, ← counts] at counts'
    obtain ⟨events, htrace, asked⟩ := rests.events
    refine ⟨?_, rests.stored, rests.known, events, htrace, fun ns uses name mem about => ?_⟩
    · generalize t.resync (nested depth') = second at counts'
      obtain ⟨reply', u⟩ := second
      cases counts'
      cases reply <;> rfl
    · obtain ⟨c, there⟩ := held uses
      cases (asked name mem).symm.trans (about ▸ there)

end

/-- A pool is stored whose status is read again and again, and credentials were forgotten. -/
def unlearned : Session :=
  Sample.run "a2V5" false [⟨.finished (Sample.document "OK"), []⟩]
    [.add (Sample.pool "u1" "pool1" "ns1"), .invalidate .null]

theorem unlearned_resync_idempotent :
    let first := unlearned.attempt (nested 1) .resync
    let second := first.2.attempt (nested 1) .resync
    unlearned.world.Steady ∧ unlearned.cache.known.entries.length = 0 ∧ second.1 = first.1 ∧
      ∃ events, second.2.trace = first.2.trace ++ events ∧ ∀ name, .asked name ∈ events → name.ns ≠ "ns1" := by
  obtain ⟨steady, known, entries⟩ : unlearned.world.Steady ∧ unlearned.cache.known.entries.length = 0 ∧
      unlearned.cache.records.entries = [("u1", firstRecord)] := by
    decide +kernel
  have resolved : (unlearned.sweepStart.resolve (.ofString "ns1") false).1.toOption =
      some ⟨"10.0.0.1", "admin", "key"⟩ := by
    decide +kernel
  have uses : unlearned.SweepUses (nested 1) "ns1" :=
    ⟨"u1", firstRecord, ⟨0, 0, 0⟩, unlearned.sweepStart, _, ⟨[], [], entries, rfl⟩, rfl,
      Sample.eq_ok_of_toOption resolved⟩
  obtain ⟨replies, -, -, events, htrace, asked⟩ := resync_idempotent unlearned steady 1 1
  exact ⟨steady, known, replies, events, htrace, asked "ns1" uses⟩

end Session
end ReplicaWatch
