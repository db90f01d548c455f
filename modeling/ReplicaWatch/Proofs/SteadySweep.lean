import Mathlib
import ReplicaWatch.Proofs.Sweeping

/-! Sweeps that go on. A sweep counts the failures that callers of the cache expect and ends with any other; in a
sweep the others are those of credentials whose objects have illegible descriptions and those of commands that
cannot be called. Main statement: a sweep returns, and has come to every record of its snapshot, exactly if for
every record that it comes to, what it looks up is legible and its command can be called. -/
namespace ReplicaWatch

/-- An operation succeeds or fails as callers of the cache expect. -/
def Foreseen {α : Type} (result : Except Failure α) : Prop := ∀ e, result = .error e → ∃ cause, e = .cache cause

lemma foreseen_ok {α : Type} (a : α) : Foreseen (.ok a : Except Failure α) := fun e h => by cases h

lemma foreseen_cache {α : Type} (cause : CacheFailure) : Foreseen (.error (.cache cause) : Except Failure α) := by
  rintro e ⟨⟩
  exact ⟨cause, rfl⟩

lemma not_foreseen {α : Type} {e : Failure} (other : ∀ cause, e ≠ .cache cause) :
    ¬Foreseen (.error e : Except Failure α) := by
  intro h
  obtain ⟨cause, he⟩ := h e rfl
  exact other cause he

/-- Whether a failure is foreseen is no matter of what the operation is to return. -/
lemma foreseen_error_iff {α β : Type} {e : Failure} :
    Foreseen (.error e : Except Failure α) ↔ Foreseen (.error e : Except Failure β) := by
  simp [Foreseen]

lemma foreseen_map_iff {α β : Type} {result : Except Failure α} (f : α → β) :
    Foreseen (result.map f) ↔ Foreseen result := by
  cases result with
  | ok a => exact iff_of_true (foreseen_ok _) (foreseen_ok _)
  | error e => exact foreseen_error_iff

/-! ## Descriptions -/

namespace Credentials

def dataOf (description : Json) : Json := (description.member? "data").getD .null

/-- The data of a description are not set, or they are an object whose field is readable if it is there. -/
def HasReadable (key : String) (readable : Json → Prop) (description : Json) : Prop :=
  (dataOf description).isSet = true → ∃ fields, dataOf description = .object fields ∧
    ∀ v, (Json.object fields).member? key = some v → v = .null ∨ readable v

/-- The answer to a request is a refusal, or describes an object whose data can be read. -/
def Legible (key : String) (readable : Json → Prop) : Response → Prop
  | .refused _ _ => True
  | .body bytes => ∃ members, readBody bytes = .ok (.object members) ∧ HasReadable key readable (.object members)

/-- What the field of a secret has to be: a text in ASCII, whether it spells a key or not. -/
def IsAscii (v : Json) : Prop := ∃ t, v = .string t ∧ ∀ c ∈ t, c.code < 128

/-- What the field of a configuration has to be: a text, whether it lists clusters or not. -/
def IsText (v : Json) : Prop := ∃ t, v = .string t

lemma readBody_error {α : Type} {bytes : List UInt8} {e : Failure} (h : readBody bytes = .error e) :
    ¬Foreseen (.error e : Except Failure α) := by
  unfold readBody at h
  split at h
  · cases h
    exact not_foreseen fun _ => by simp
  · split at h
    · cases h
    · cases h
      exact not_foreseen fun _ => by simp

lemma dataField_error {α : Type} {description : Json} {key : String} {e : Failure}
    (h : dataField description key = .error e) : ¬Foreseen (.error e : Except Failure α) := by
  have other : ¬Foreseen (.error .noMembers : Except Failure α) := not_foreseen fun _ => by simp
  unfold dataField at h
  split at h
  · simp only at h
    split at h
    · split at h
      · split at h <;> cases h
      · cases h
        exact other
    · cases h
  · cases h
    exact other

lemma hasReadable_iff {key : String} {readable : Json → Prop} {members : List (Text × Json)} :
    HasReadable key readable (.object members) ↔
      ∃ field, dataField (.object members) key = .ok field ∧ ∀ v, field = some v → readable v := by
  simp only [HasReadable, dataOf, dataField]
  generalize ((Json.object members).member? "data").getD .null = data
  cases set : data.isSet with
  | false => simp
  | true =>
    cases data with
    | object fields =>
      cases found : (Json.object fields).member? key with
      | none => simp [found]
      | some v => cases v <;> simp [found]
    | _ => simp

/-- Reading a field of an answer goes on with what is to be made of the field, and is foreseen if that is. -/
lemma foreseen_read_iff {α : Type} {key : String} {readable : Json → Prop} {bytes : List UInt8}
    {make : Option Json → Except Failure α} (absent : Foreseen (make none))
    (present : ∀ v, Foreseen (make (some v)) ↔ readable v) :
    Foreseen (do make (← dataField (← readBody bytes) key)) ↔ Legible key readable (.body bytes) := by
  simp only [Legible]
  cases hb : readBody bytes with
  | error e =>
    have failed : ¬Foreseen (.error e : Except Failure α) := readBody_error hb
    simpa [hb, bind, Except.bind] using failed
  | ok description =>
    cases description with
    | object members =>
      simp only [Except.ok.injEq, Json.object.injEq, exists_eq_left', hasReadable_iff]
      cases hd : dataField (.object members) key with
      | error e =>
        have failed : ¬Foreseen (.error e : Except Failure α) := dataField_error hd
        simpa [hd, bind, Except.bind] using failed
      | ok field =>
        cases field with
        | none => simpa [hd, bind, Except.bind] using absent
        | some v => simpa [hd, bind, Except.bind] using present v
    | _ => 
      have failed : ¬Foreseen (.error .noMembers : Except Failure α) := not_foreseen fun _ => by simp
      simpa [hb, bind, Except.bind, dataField] using failed

/-- Reading base 64 that is ASCII fails only for its digits and its padding. -/
lemma decodeFrom_ne_foreign (state : Base64.State) (t : List Char) : Base64.decodeFrom state t ≠ .error .foreign := by
  fun_induction Base64.decodeFrom state t <;> simp_all

lemma decode_eq_foreign_iff {t : Text} : Base64.decode t = .error .foreign ↔ ¬∀ c ∈ t, c.code < 128 := by
  unfold Base64.decode
  split
  · next ascii =>
    simp only [decodeFrom_ne_foreign, false_iff, not_not]
    simpa using ascii
  · next other =>
    simp only [true_iff]
    simpa using other

/-- A secret is read as foreseen exactly if it is legible. -/
lemma foreseen_keyOf_iff (ns : String) (response : Response) :
    Foreseen (keyOf ns response) ↔ Legible secretKey IsAscii response := by
  cases response with
  | refused status reason => exact iff_of_true (foreseen_cache _) trivial
  | body bytes =>
    refine foreseen_read_iff (foreseen_cache _) fun v => ?_
    cases v with
    | string t =>
      have ascii : IsAscii (.string t) ↔ ¬Base64.decode t = .error .foreign := by
        simp [IsAscii, decode_eq_foreign_iff]
      rw [ascii]
      simp only [decodeField]
      cases hd : Base64.decode t with
      | error fault => cases fault <;> simp [isUndecodable, Foreseen, Failure.ofCredential]
      | ok bytes =>
        cases hu : Utf8.decode false bytes <;> simp [isUndecodable, Foreseen, Failure.ofCredential, hu]
    | _ => simp [decodeField, isUndecodable, Foreseen, IsAscii]

/-- A configuration is read as foreseen exactly if it is legible. -/
lemma foreseen_monitorOf_iff (ns : String) (response : Response) :
    Foreseen (monitorOf ns response) ↔ Legible configKey IsText response := by
  cases response with
  | refused status reason => exact iff_of_true (foreseen_cache _) trivial
  | body bytes =>
    refine foreseen_read_iff (foreseen_cache _) fun v => ?_
    have chosen (clusters : List Cluster) : Foreseen (monitorIn ns clusters) := by
      cases clusters with
      | nil => exact foreseen_cache _
      | cons c rest =>
        simp only [monitorIn]
        split
        · exact foreseen_cache _
        · exact foreseen_ok _
    cases v with
    | string t =>
      refine iff_of_true ?_ ⟨t, rfl⟩
      simp only
      split
      · exact chosen _
      · exact foreseen_cache _
    | _ => simp [Foreseen, IsText]

end Credentials

namespace Session

/-- What is looked up to fetch the status of a pool of a namespace is legible: nothing if the namespace is not allowed
or its credentials are known, else its secret and, if that holds a key, its configuration. -/
def Legible (s : Session) (ns : String) : Prop :=
  ns ∈ s.cache.setup.allowed → s.cache.known.get? ns = none →
    Credentials.Legible Credentials.secretKey Credentials.IsAscii (s.world.respond (.secretOf ns)) ∧
      ∀ key, Credentials.keyOf ns (s.world.respond (.secretOf ns)) = .ok key →
        Credentials.Legible Credentials.configKey Credentials.IsText (s.world.respond (.configOf ns))

/-- Fetching the status of a pool comes to a command that cannot be called. -/
inductive Uncallable (s : Session) (pool ns : Json) (fault : CallFault) : Prop
  | command {t p} (begins : s.FetchBegins pool ns t) (named : pool = .string p)
      (ending : (s.world.takeOutcome (Text.asString p)).1.ending = .uncallable fault) : Uncallable s pool ns fault

/-- If the status of a pool cannot be fetched, then for a reason that callers of the cache expect. -/
structure Foreseeable (s : Session) (pool ns : Json) : Prop where
  legible : ∀ n, ns = .ofString n → s.Legible n
  callable : ∀ fault, ¬s.Uncallable pool ns fault

/-! ## Fetching -/

lemma foreseen_lookup_iff (s : Session) (ns : String) :
    Foreseen (s.lookup ns).1 ↔
      Credentials.Legible Credentials.secretKey Credentials.IsAscii (s.world.respond (.secretOf ns)) ∧
        ∀ key, Credentials.keyOf ns (s.world.respond (.secretOf ns)) = .ok key →
          Credentials.Legible Credentials.configKey Credentials.IsText (s.world.respond (.configOf ns)) := by
  rw [← Credentials.foreseen_keyOf_iff ns, ← Credentials.foreseen_monitorOf_iff ns]
  simp only [lookup, ask, note_world, ObjectName.secretOf, ObjectName.configOf]
  cases hk : Credentials.keyOf ns (s.world.respond ⟨.secret, ns, Credentials.secretName⟩) with
  | error e => simp [Foreseen]
  | ok key =>
    cases hm : Credentials.monitorOf ns (s.world.respond ⟨.configuration, ns, Credentials.configName⟩) with
    | error e => simp [Foreseen]
    | ok monitor => simp [foreseen_ok]

lemma foreseen_resolvePermitted_iff {s : Session} {ns : String} (permitted : ns ∈ s.cache.setup.allowed) :
    Foreseen (s.resolvePermitted ns false).1 ↔ s.Legible ns := by
  have learned : (s.learn ns).1 = (s.lookup ns).1 := by
    simp only [learn]
    split
    · next h => rw [h]
    · next h =>
      rw [h]
      split <;> rfl
  cases known : s.cache.known.get? ns with
  | some c => simp [resolvePermitted, Legible, known, foreseen_ok]
  | none => simp [resolvePermitted, Legible, known, permitted, learned, foreseen_lookup_iff]

lemma foreseen_conclude_iff (s : Session) (pool : String) (args : List String) (ending : Ending) :
    Foreseen (s.conclude pool args ending).1 ↔ ∀ fault, ending ≠ .uncallable fault := by
  cases ending with
  | finished output =>
    refine iff_of_true ?_ (by simp)
    simp only [conclude]
    split
    · exact foreseen_ok _
    · exact foreseen_cache _
  | uncallable fault => exact iff_of_false (not_foreseen (by simp)) fun callable => callable fault rfl
  | _ => exact iff_of_true (foreseen_cache _) (by simp)

/-- Once there are credentials, whatever goes wrong is foreseen, unless the command cannot be called. -/
lemma foreseen_fetch_iff (s : Session) (m : Meanwhile) (pool : String) (c : Credentials) :
    Foreseen (s.fetch m pool c).1 ↔
      (c.isEmpty = false → ∀ fault, (s.world.takeOutcome pool).1.ending ≠ .uncallable fault) := by
  simp only [fetch]
  split
  · next empty => exact iff_of_true (foreseen_cache _) fun given => absurd empty (by simp [given])
  · next given =>
    rw [foreseen_conclude_iff]
    exact ⟨fun callable _ => callable, fun callable => callable (by simpa using given)⟩

section
variable {s t : Session} {ns : Json} {n : String} {c : Credentials} {p : Text} {fault : CallFault}

/-- Where there are credentials, it is for them and for the next outcome of the pool to tell whether its command can
be called. -/
lemma uncallable_iff (permitted : s.cache.setup.permit ns = .ok n)
    (resolved : s.resolvePermitted n false = (.ok c, t)) :
    s.Uncallable (.string p) ns fault ↔
      c.isEmpty = false ∧ (s.world.takeOutcome (Text.asString p)).1.ending = .uncallable fault := by
  constructor
  · rintro ⟨⟨permitted', resolved', -, given⟩, named, ending⟩
    cases permitted.symm.trans permitted'
    cases resolved.symm.trans resolved'
    cases named
    exact ⟨given, ending⟩
  · rintro ⟨given, ending⟩
    exact .command (.command permitted resolved rfl given) rfl ending

/-- A command that cannot be called fails the fetch in its own way. -/
lemma Uncallable.fetchRecord {pool : Json} (h : s.Uncallable pool ns fault) (m : Meanwhile) :
    (s.fetchRecord m pool ns).1 = .error (.call fault) := by
  obtain @⟨_, p, @⟨n, c, t, q, permitted, resolved, named, given⟩, rfl, ending⟩ := h
  obtain rfl : p = q := Json.string.inj named
  have world : t.world = s.world := by
    have same := s.resolvePermitted_world n false
    rwa [resolved] at same
  have failed : ∃ u, t.fetch m (Text.asString p) c = (.error (.call fault), u) := by
    simp only [fetch, given, run_eq, world, ending]
    exact ⟨_, rfl⟩
  obtain ⟨u, hu⟩ := failed
  simp only [Session.fetchRecord, permitted, resolved, hu]

lemma foreseen_fetchRecord_iff (s : Session) (m : Meanwhile) (pool ns : Text) :
    Foreseen (s.fetchRecord m (.string pool) (.string ns)).1 ↔ s.Foreseeable (.string pool) (.string ns) := by
  -- For a namespace that is permitted, what has to be legible is what its name leads to.
  have legible_iff {n : String} {result : Except Failure Credentials} {t : Session}
      (permitted : s.cache.setup.permit (.string ns) = .ok n) (resolved : s.resolvePermitted n false = (result, t)) :
      Foreseen result ↔ ∀ n, Json.string ns = .ofString n → s.Legible n := by
    obtain ⟨same, allowed⟩ := Setup.permit_eq_ok_iff.1 permitted
    have legible := foreseen_resolvePermitted_iff allowed
    rw [resolved] at legible
    refine legible.trans ⟨fun looked other same' => ?_, fun looked => looked n same⟩
    obtain rfl : n = other := Text.ofString_inj.1 (Json.string.inj (same.symm.trans same'))
    exact looked
  have cases := fetchRecord_cases s m (.string pool) (.string ns)
  generalize s.fetchRecord m (.string pool) (.string ns) = r at cases ⊢
  cases cases with
  | @refused e refused =>
    have foreseen : Foreseen (.error e : Except Failure Record) := by
      simp only [Setup.permit] at refused
      split at refused
      · cases refused
      · cases refused
        exact foreseen_cache _
    refine iff_of_true foreseen ⟨fun n same allowed => ?_, ?_⟩
    · cases refused.symm.trans (Setup.permit_eq_ok_iff.2 ⟨same, allowed⟩)
    · rintro fault ⟨⟨permitted, -, -, -⟩, -, -⟩
      cases refused.symm.trans permitted
  | @unresolved n e _ permitted resolved =>
    refine foreseen_error_iff.trans ((legible_iff permitted resolved).trans ⟨fun looked => ⟨looked, ?_⟩,
      Foreseeable.legible⟩)
    rintro fault ⟨⟨permitted', resolved', -, -⟩, -, -⟩
    cases permitted.symm.trans permitted'
    cases resolved.symm.trans resolved'
  | misnamed _ _ nameless => exact absurd rfl (nameless _)
  | @ended n c t p _ _ permitted resolved same fetched =>
    cases same
    have world := s.resolvePermitted_world n false
    have hf := foreseen_fetch_iff t m (Text.asString pool) c
    rw [resolved] at world
    rw [fetched, world] at hf
    refine (foreseen_map_iff _).trans (hf.trans ⟨fun callable => ⟨?_, ?_⟩, fun h given fault ending => ?_⟩)
    · exact (legible_iff permitted resolved).1 (foreseen_ok c)
    · intro fault uncallable
      obtain ⟨given, ending⟩ := (uncallable_iff permitted resolved).1 uncallable
      exact callable given fault ending
    · exact h.callable fault ((uncallable_iff permitted resolved).2 ⟨given, ending⟩)

end

/-! ## Sweeping -/

section
variable {s t u : Session} {m : Meanwhile} {held : Bool} {uid : String} {record : Record} {tally done : Tally}

/-- A sweep goes on after an entry exactly if the fetch of its status came out as foreseen. -/
lemma refresh_goes_on_iff (s : Session) (m : Meanwhile) (held : Bool) (uid : String) (record : Record)
    (tally : Tally) :
    (∃ done, (s.refresh m held uid record tally).1 = .ok done) ↔
      Foreseen (s.fetchRecord m (.ofString record.pool) (.ofString record.ns)).1 := by
  have cases := refresh_cases s m held uid record tally
  generalize s.fetchRecord m (.ofString record.pool) (.ofString record.ns) = r at cases ⊢
  generalize s.refresh m held uid record tally = r' at cases ⊢
  obtain ⟨fetched, u⟩ := r
  cases cases with
  | wrote may => exact iff_of_true ⟨_, rfl⟩ (foreseen_ok _)
  | skipped yields => exact iff_of_true ⟨_, rfl⟩ (foreseen_ok _)
  | failed cause => exact iff_of_true ⟨_, rfl⟩ (foreseen_cache cause)
  | ended other => exact iff_of_false (by simp) (not_foreseen other)

/-- A sweep that returns has returned from each part of its snapshot. -/
lemma sweep_of_append {before rest : List (String × Record)}
    (h : s.sweep m held tally (before ++ rest) = (.ok done, t)) :
    ∃ seen u, s.sweep m held tally before = (.ok seen, u) := by
  induction before generalizing s tally with
  | nil => exact ⟨tally, s, rfl⟩
  | cons entry before ih =>
    simp only [List.cons_append, sweep] at h ⊢
    split at h
    · cases h
    · exact ih h

/-- A sweep returns exactly if the fetch of the status comes out as foreseen for every entry that it comes to. -/
lemma sweep_returns_iff {entries : List (String × Record)} :
    (∃ done t, s.sweep m held tally entries = (.ok done, t)) ↔
      ∀ before entry after, entries = before ++ entry :: after → ∀ seen u,
        s.sweep m held tally before = (.ok seen, u) →
        Foreseen (u.fetchRecord m (.ofString entry.2.pool) (.ofString entry.2.ns)).1 := by
  constructor
  · rintro ⟨done, t, h⟩ before entry after rfl seen u hb
    rw [sweep_append hb, sweep] at h
    split at h
    · cases h
    · next hr => exact (refresh_goes_on_iff u m held entry.1 entry.2 seen).1 ⟨_, by rw [hr]⟩
  · intro foreseen
    induction entries generalizing s tally with
    | nil => exact ⟨tally, s, rfl⟩
    | cons first rest ih =>
      have now := foreseen [] first rest rfl tally s rfl
      obtain ⟨counted, hc⟩ := (refresh_goes_on_iff s m held first.1 first.2 tally).2 now
      have hr : s.refresh m held first.1 first.2 tally =
          (.ok counted, (s.refresh m held first.1 first.2 tally).2) := by rw [← hc]
      simp only [sweep]
      rw [hr]
      refine ih fun before entry after hrest seen u hb => ?_
      refine foreseen (first :: before) entry after (by rw [hrest]; rfl) seen u ?_
      simp only [sweep]
      rw [hr]
      exact hb

lemma resync_records (s : Session) (m : Meanwhile) :
    (s.resync m).2.cache.records =
      (s.sweepStart.sweep m s.cache.setup.serialize ⟨0, 0, 0⟩ s.cache.records.entries).2.cache.records := by
  rw [resync_eq]
  split
  · next h => rw [h, setLocked_records]
  · next h => rw [h, log_cache, setLocked_records]

/-- However a calm sweep ends, an entry that it came to and whose status it could not fetch is as it was. -/
lemma SweepComes.kept (hm : Orderly m) (calm : Calm s.cache.setup.serialize s)
    (comes : s.SweepComes m uid record tally t) {e : Failure}
    (failed : (t.fetchRecord m (.ofString record.pool) (.ofString record.ns)).1 = .error e) :
    (s.resync m).2.cache.records.get? uid = some record := by
  obtain ⟨before, after, entries, swept, ahead⟩ := comes.ahead hm
  have calm' := (ahead.there calm).1
  have gone : uid ∉ after.map Prod.fst := (List.nodup_cons.1 ahead.nodup).1
  have kept : (t.refresh m s.cache.setup.serialize uid record tally).2.cache.records.get? uid = some record := by
    have stored := ahead.calm_stored hm calm (.ofString record.pool) (.ofString record.ns)
    have cases := refresh_cases t m s.cache.setup.serialize uid record tally
    generalize t.fetchRecord m (.ofString record.pool) (.ofString record.ns) = r at cases failed stored
    generalize t.refresh m s.cache.setup.serialize uid record tally = r' at cases ⊢
    obtain ⟨fetched, u⟩ := r
    obtain rfl : fetched = .error e := failed
    cases cases with
    | failed cause => rwa [log_cache]
    | ended other => exact stored
  have left := (calm_refresh hm ahead.locked calm' uid record tally).1
  have locked := (refresh_locked hm.keeps t s.cache.setup.serialize uid record tally).trans ahead.locked
  rw [resync_records, entries, sweep_append swept, sweep]
  generalize t.refresh m s.cache.setup.serialize uid record tally = r at kept left locked ⊢
  obtain ⟨counted, v⟩ := r
  cases counted with
  | error e => exact kept
  | ok done => exact ((calm_sweep hm locked left done after).2 uid gone).trans kept

lemma resync_returns_iff (s : Session) (m : Meanwhile) :
    (∃ tally t, s.resync m = (.ok tally, t)) ↔
      ∃ tally t, s.sweepStart.sweep m s.cache.setup.serialize ⟨0, 0, 0⟩ s.cache.records.entries = (.ok tally, t) := by
  constructor
  · rintro ⟨tally, t, h⟩
    exact ⟨tally, resync_swept h⟩
  · rintro ⟨tally, t, swept⟩
    rw [resync_eq, swept]
    exact ⟨_, _, rfl⟩

end

/-- What a sweep does about an entry whose status it cannot fetch. If what it looked up is legible and the command
can be called, it counts the entry as failed, leaves the store as it is and goes on; else it ends with the failure.
Either way, the entry is as it was in the end, provided that nobody else writes while the sweep runs.

A sweep returns exactly if for every entry that it comes to, what it looks up is legible and the command can be
called. Then it has counted each entry of its snapshot once and has come to every one. -/
theorem sweep_goes_on {setup : Setup} {history : List Event} {s : Session} (reachable : Reachable setup history s)
    (depth : ℕ) :
    (∀ uid record tally t, s.SweepComes (nested depth) uid record tally t →
      ∀ e u, t.fetchRecord (nested depth) (.ofString record.pool) (.ofString record.ns) = (.error e, u) →
        (t.Foreseeable (.ofString record.pool) (.ofString record.ns) →
          ∃ v, t.refresh (nested depth) setup.serialize uid record tally =
            (.ok { tally with failed := tally.failed + 1 }, v) ∧ v.cache.records = u.cache.records) ∧
        (¬t.Foreseeable (.ofString record.pool) (.ofString record.ns) →
          ∃ v, s.resync (nested depth) = (.error e, v)) ∧
        (Calm setup.serialize s → (s.resync (nested depth)).2.cache.records.get? uid = some record)) ∧
    ((∃ tally t, s.resync (nested depth) = (.ok tally, t)) ↔
      ∀ uid record tally t, s.SweepComes (nested depth) uid record tally t →
        t.Foreseeable (.ofString record.pool) (.ofString record.ns)) ∧
    ∀ tally t, s.resync (nested depth) = (.ok tally, t) → tally.total = s.cache.records.entries.length ∧
      ∀ entry ∈ s.cache.records.entries, ∃ seen u, s.SweepComes (nested depth) entry.1 entry.2 seen u := by
  obtain ⟨_, sound⟩ := reachable.sound
  have fetched (t : Session) (record : Record) :
      Foreseen (t.fetchRecord (nested depth) (.ofString record.pool) (.ofString record.ns)).1 ↔
        t.Foreseeable (.ofString record.pool) (.ofString record.ns) :=
    foreseen_fetchRecord_iff t (nested depth) _ _
  refine ⟨fun uid record tally t comes e u hf =>
    ⟨fun foreseeable => ?_, fun unforeseeable => ?_, fun calm => ?_⟩, ?_, ?_⟩
  · obtain ⟨cause, rfl⟩ := (fetched t record).2 foreseeable e (by rw [hf])
    have cases := refresh_cases t (nested depth) setup.serialize uid record tally
    rw [hf] at cases
    generalize t.refresh (nested depth) setup.serialize uid record tally = r at cases ⊢
    cases cases with
    | failed cause => exact ⟨_, rfl, by rw [log_cache]⟩
    | ended other => exact absurd rfl (other cause)
  · have other : ∀ cause, e ≠ .cache cause := by
      rintro cause rfl
      refine unforeseeable ((fetched t record).1 ?_)
      rw [hf]
      exact foreseen_cache cause
    have cases := refresh_cases t (nested depth) setup.serialize uid record tally
    rw [hf] at cases
    have ended : t.refresh (nested depth) setup.serialize uid record tally = (.error e, u) := by
      generalize t.refresh (nested depth) setup.serialize uid record tally = r at cases ⊢
      cases cases with
      | failed cause => exact absurd rfl (other cause)
      | ended _ => rfl
    rw [← sound.setup_eq] at ended
    exact ⟨_, comes.resync_eq_error ended⟩
  · rw [← sound.setup_eq] at calm
    exact comes.kept (orderly_nested depth) calm (by rw [hf])
  · rw [resync_returns_iff, sweep_returns_iff]
    constructor
    · rintro foreseen uid record tally t ⟨before, after, entries, swept⟩
      exact (fetched t record).1 (foreseen before (uid, record) after entries tally t swept)
    · intro foreseeable before entry after entries seen u swept
      exact (fetched u entry.2).2 (foreseeable _ _ _ _ ⟨before, after, entries, swept⟩)
  · intro tally t h
    obtain ⟨u, swept⟩ := resync_swept h
    refine ⟨?_, fun entry mem => ?_⟩
    · have total := sweep_total swept
      simpa [Tally.total] using total
    · obtain ⟨before, after, entries⟩ := List.append_of_mem mem
      rw [entries] at swept
      obtain ⟨seen, v, hb⟩ := sweep_of_append swept
      exact ⟨seen, v, before, after, entries, hb⟩

/-- Two pools are stored, and the next command for the first fails. -/
def ailing : Session :=
  Sample.run "a2V5" true
    [⟨.finished (Sample.document "OK"), []⟩, ⟨.finished (Sample.document "OK"), []⟩, ⟨.exited 1 [], []⟩,
      ⟨.finished (Sample.document "ERROR"), []⟩]
    [.add (Sample.pool "u1" "pool1" "ns1"), .add (Sample.pool "u2" "pool1" "ns1")]

lemma ailing_reachable : Reachable (Sample.setup true) [] ailing := Sample.run_reachable _ _ _ _

theorem ailing_sweep_goes_on :
    ∃ tally t, ailing.resync (nested 1) = (.ok tally, t) ∧ tally.total = 2 ∧
      (ailing.resync (nested 1)).2.cache.records.get? "u1" = some firstRecord ∧
      ∃ seen u, ailing.SweepComes (nested 1) "u2" secondRecord seen u := by
  obtain ⟨entry, -, whole⟩ := sweep_goes_on ailing_reachable 1
  obtain ⟨entries, returns, unfetched⟩ :
      ailing.cache.records.entries = [("u1", firstRecord), ("u2", secondRecord)] ∧
        (ailing.resync (nested 1)).1.isOk = true ∧
        (ailing.sweepStart.fetchRecord (nested 1) (.ofString firstRecord.pool) (.ofString firstRecord.ns)).1.isOk =
          false := by
    decide +kernel
  have comes : ailing.SweepComes (nested 1) "u1" firstRecord ⟨0, 0, 0⟩ ailing.sweepStart :=
    ⟨[], [("u2", secondRecord)], entries, rfl⟩
  obtain ⟨⟨result, t⟩, hr⟩ : ∃ r, ailing.resync (nested 1) = r := ⟨_, rfl⟩
  obtain ⟨⟨fetched, u⟩, hf⟩ : ∃ r, ailing.sweepStart.fetchRecord (nested 1) (.ofString firstRecord.pool)
      (.ofString firstRecord.ns) = r := ⟨_, rfl⟩
  rw [hr] at returns
  rw [hf] at unfetched
  cases result with
  | error e => cases returns
  | ok tally =>
    cases fetched with
    | ok record => cases unfetched
    | error e =>
      obtain ⟨total, all⟩ := whole tally t hr
      rw [entries] at total all
      exact ⟨tally, t, hr, total, (entry _ _ _ _ comes e u hf).2.2 (.inl rfl), all ("u2", secondRecord) (by simp)⟩

/-- Pools of two namespaces are stored. Then the secret of the first has a description that is no JSON, and
credentials are forgotten. -/
def halting : Session :=
  ((Session.mk (Cache.new { Sample.setup true with allowed := ["ns1", "ns2"] })
      (Sample.world "a2V5" [⟨.finished (Sample.document "OK"), []⟩]) []).takeAll
    [.setObject (.secretOf "ns2") (Sample.secret "a2V5"), .setObject (.configOf "ns2") Sample.configuration,
      .add (Sample.pool "u1" "pool1" "ns1"), .add (Sample.pool "u2" "pool1" "ns2"),
      .setObject (.secretOf "ns1") (.body (Utf8.encodeString "<html></html>")), .invalidate .null]).2

/-- The sweep ends with the first pool: it returns no tally, asks for nothing of the second namespace and runs no
command. -/
theorem illegible_secret_halts_sweep :
    Reachable { Sample.setup true with allowed := ["ns1", "ns2"] } [] halting ∧
      halting.cache.records.keys = ["u1", "u2"] ∧
      (∀ tally, (halting.step .resync).1 ≠ .answer (.swept tally)) ∧
      (∀ e ∈ (halting.step .resync).2.trace.drop halting.trace.length,
        (match e with
        | .asked name => name.ns == "ns1"
        | .started _ _ _ => false
        | _ => true) = true) := by
  obtain ⟨keys, raised, events⟩ : halting.cache.records.keys = ["u1", "u2"] ∧
      (match (halting.step .resync).1 with | .failure _ => true | _ => false) = true ∧
      ∀ e ∈ (halting.step .resync).2.trace.drop halting.trace.length,
        (match e with
        | .asked name => name.ns == "ns1"
        | .started _ _ _ => false
        | _ => true) = true := by
    decide +kernel
  refine ⟨(Reachable.start _).takeAll _, keys, fun tally h => ?_, events⟩
  rw [h] at raised
  cases raised

end Session
end ReplicaWatch
