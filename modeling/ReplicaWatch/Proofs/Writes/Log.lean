import Mathlib
import ReplicaWatch.Cache.Session

/-! Logs of writes. A log tells which pools were put into the store, removed from it, or all cleared away, in the
order in which that took effect. Main statement: from a log alone it can be told which pools are stored, under which
names, and in which order, where a pool keeps the place that it got when it was last absent. -/
namespace ReplicaWatch

namespace Ledger

variable {κ α β : Type}

/-- The same keys in the same order with other values. -/
def map (m : Ledger κ α) (f : α → β) : Ledger κ β :=
  ⟨m.entries.map fun e => (e.1, f e.2), by simpa [Function.comp_def] using m.nodup⟩

@[simp] lemma keys_map (m : Ledger κ α) (f : α → β) : (m.map f).keys = m.keys := by
  simp [map, keys, Function.comp_def]

variable [DecidableEq κ]

lemma get?_map (m : Ledger κ α) (f : α → β) (k : κ) : (m.map f).get? k = (m.get? k).map f := by
  simp only [get?, map]
  induction m.entries with
  | nil => rfl
  | cons e rest ih =>
    simp only [List.map_cons, find?, ih]
    split <;> rfl

lemma map_insert (m : Ledger κ α) (f : α → β) (k : κ) (v : α) : (m.insert k v).map f = (m.map f).insert k (f v) := by
  apply ext
  simp only [map, insert]
  induction m.entries with
  | nil => rfl
  | cons e rest ih =>
    simp only [write, List.map_cons]
    split
    · rfl
    · rw [List.map_cons, ih]

lemma map_erase (m : Ledger κ α) (f : α → β) (k : κ) : (m.erase k).map f = (m.map f).erase k := by
  apply ext
  simp [map, erase, List.filter_map, Function.comp_def]

/-- Writing what is there changes nothing. -/
lemma insert_eq_self {m : Ledger κ α} {k : κ} {v : α} (h : m.get? k = some v) : m.insert k v = m := by
  apply ext
  unfold get? at h
  change write k v m.entries = m.entries
  generalize m.entries = entries at h ⊢
  induction entries with
  | nil => cases h
  | cons e rest ih =>
    obtain ⟨j, w⟩ := e
    by_cases hj : j = k
    · simp only [find?, hj, if_true] at h
      cases h
      simp [write, hj]
    · simp only [find?, hj, if_false] at h
      simp [write, hj, ih h]

end Ledger

/-- A write to the store: a pool is put there under its names, or removed, or everything is cleared away. -/
inductive Write where
  | put (uid pool ns : String)
  | remove (uid : String)
  | clear
  deriving DecidableEq

namespace Write

/-- Whether a write is about a pool. -/
def concerns (uid : String) : Write → Bool
  | put u _ _ => u == uid
  | remove u => u == uid
  | clear => true

/-- Whether a write takes a pool away. -/
def takes (uid : String) : Write → Bool
  | put _ _ _ => false
  | remove u => u == uid
  | clear => true

/-- What a write makes of the names under which pools are stored. -/
def apply (names : Ledger String (String × String)) : Write → Ledger String (String × String)
  | put uid pool ns => names.insert uid (pool, ns)
  | remove uid => names.erase uid
  | clear => ∅

lemma put_of_concerns {w : Write} {uid : String} (h : w.concerns uid = true) (kept : w.takes uid = false) :
    ∃ pool ns, w = put uid pool ns := by
  cases w with
  | put u pool ns =>
    obtain rfl : u = uid := by simpa [concerns] using h
    exact ⟨pool, ns, rfl⟩
  | remove u => exact absurd h (by simpa [takes, concerns] using kept)
  | clear => cases kept

lemma takes_of_concerns {w : Write} {uid : String} (h : w.concerns uid = false) : w.takes uid = false := by
  cases w with
  | put u pool ns => rfl
  | remove u => exact h
  | clear => cases h

end Write

/-- A write is the last one of a log that concerns a pool. -/
def LastWrite (log : List Write) (uid : String) (w : Write) : Prop :=
  ∃ before after, log = before ++ w :: after ∧ w.concerns uid = true ∧ ∀ v ∈ after, v.concerns uid = false

/-- A pool is stored if the last write that concerns it put it there. -/
def Stored (log : List Write) (uid : String) : Prop := ∃ pool ns, LastWrite log uid (.put uid pool ns)

/-- The write at a place of a log created the entry of a pool: it put the pool there when it was absent, and nothing
has taken the pool away since. -/
def Created (log : List Write) (uid : String) (i : ℕ) : Prop :=
  (∃ pool ns, log[i]? = some (.put uid pool ns)) ∧ ¬Stored (log.take i) uid ∧
    ∀ v ∈ log.drop (i + 1), v.takes uid = false

/-- The records that are stored are those that a log tells of. -/
structure Replays (log : List Write) (records : Ledger String Record) : Prop where
  stored : ∀ uid, uid ∈ records.keys ↔ Stored log uid
  named : ∀ uid record, records.get? uid = some record → LastWrite log uid (.put uid record.pool record.ns)
  created : ∀ uid ∈ records.keys, ∃ i, Created log uid i
  ordered : records.keys.Pairwise fun a b => ∀ i j, Created log a i → Created log b j → i < j

/-! ## Logs that grow -/

section
variable {log : List Write} {v w : Write} {uid : String} {i : ℕ}

lemma not_lastWrite_nil : ¬LastWrite [] uid w := by
  rintro ⟨before, after, h, -⟩
  simp at h

lemma lastWrite_append_of_concerns (h : v.concerns uid = true) : LastWrite (log ++ [v]) uid w ↔ w = v := by
  constructor
  · rintro ⟨before, after, hlog, -, quiet⟩
    rcases List.eq_nil_or_concat after with rfl | ⟨front, last, rfl⟩
    · exact (List.append_inj_right' hlog rfl |> List.singleton_inj.1).symm
    · have hq := quiet last (by simp)
      rw [List.concat_eq_append, ← List.cons_append, ← List.append_assoc] at hlog
      rw [← List.singleton_inj.1 (List.append_inj_right' hlog rfl), h] at hq
      cases hq
  · rintro rfl
    exact ⟨log, [], rfl, h, by simp⟩

lemma lastWrite_append_of_not (h : v.concerns uid = false) : LastWrite (log ++ [v]) uid w ↔ LastWrite log uid w := by
  constructor
  · rintro ⟨before, after, hlog, hw, quiet⟩
    rcases List.eq_nil_or_concat after with rfl | ⟨front, last, rfl⟩
    · have hv := List.append_inj_right' hlog rfl |> List.singleton_inj.1
      rw [hv, hw] at h
      cases h
    · refine ⟨before, front, ?_, hw, fun x hx => quiet x (by simp [hx])⟩
      rw [List.concat_eq_append, ← List.cons_append, ← List.append_assoc] at hlog
      exact List.append_inj_left' hlog rfl
  · rintro ⟨before, after, rfl, hw, quiet⟩
    refine ⟨before, after ++ [v], by simp, hw, fun x hx => ?_⟩
    rcases List.mem_append.1 hx with hx | hx
    · exact quiet x hx
    · rwa [List.mem_singleton.1 hx]

lemma not_stored_nil : ¬Stored [] uid := fun ⟨_, _, h⟩ => not_lastWrite_nil h

lemma stored_append_of_concerns (h : v.concerns uid = true) :
    Stored (log ++ [v]) uid ↔ ∃ pool ns, v = .put uid pool ns := by
  simp only [Stored, lastWrite_append_of_concerns h, eq_comm]

lemma stored_append_of_not (h : v.concerns uid = false) : Stored (log ++ [v]) uid ↔ Stored log uid := by
  simp only [Stored, lastWrite_append_of_not h]

/-- The entry of a pool is created by the last write, or was created before it and is kept by it. -/
lemma created_append : Created (log ++ [v]) uid i ↔
    i = log.length ∧ (∃ pool ns, v = .put uid pool ns) ∧ ¬Stored log uid ∨
      i < log.length ∧ Created log uid i ∧ v.takes uid = false := by
  constructor
  · rintro ⟨⟨pool, ns, hput⟩, absent, kept⟩
    rcases Nat.lt_trichotomy i log.length with hlt | rfl | hgt
    · rw [List.getElem?_append_left hlt] at hput
      rw [List.take_append_of_le_length hlt.le] at absent
      rw [List.drop_append_of_le_length (by omega)] at kept
      exact .inr ⟨hlt, ⟨⟨pool, ns, hput⟩, absent, fun x hx => kept x (by simp [hx])⟩, kept v (by simp)⟩
    · rw [List.take_left] at absent
      simp only [List.getElem?_concat_length, Option.some.injEq] at hput
      exact .inl ⟨rfl, ⟨pool, ns, hput⟩, absent⟩
    · rw [List.getElem?_eq_none (by simp; omega)] at hput
      cases hput
  · rintro (⟨rfl, ⟨pool, ns, rfl⟩, absent⟩ | ⟨hlt, ⟨⟨pool, ns, hput⟩, absent, kept⟩, hv⟩)
    · exact ⟨⟨pool, ns, by simp⟩, by rwa [List.take_left], by simp⟩
    · refine ⟨⟨pool, ns, by rwa [List.getElem?_append_left hlt]⟩, ?_, fun x hx => ?_⟩
      · rwa [List.take_append_of_le_length hlt.le]
      · rw [List.drop_append_of_le_length (by omega), List.mem_append] at hx
        rcases hx with hx | hx
        · exact kept x hx
        · rwa [List.mem_singleton.1 hx]

lemma Created.stored (h : Created log uid i) : Stored log uid := by
  induction log using List.reverseRecOn generalizing i with
  | nil =>
    obtain ⟨⟨pool, ns, hput⟩, -⟩ := h
    simp at hput
  | append_singleton log v ih =>
    rcases created_append.1 h with ⟨-, ⟨pool, ns, rfl⟩, -⟩ | ⟨-, created, kept⟩
    · exact (stored_append_of_concerns (by simp [Write.concerns])).2 ⟨pool, ns, rfl⟩
    · cases hv : v.concerns uid with
      | false => exact (stored_append_of_not hv).2 (ih created)
      | true => exact (stored_append_of_concerns hv).2 (Write.put_of_concerns hv kept)

/-- A write that is about another pool, or puts a pool where it is, leaves the place where the entry was created. -/
lemma created_append_of_stored (hs : Stored log uid) (kept : v.takes uid = false) :
    Created (log ++ [v]) uid i ↔ Created log uid i := by
  rw [created_append]
  constructor
  · rintro (⟨-, -, absent⟩ | ⟨-, created, -⟩)
    · exact absurd hs absent
    · exact created
  · intro created
    obtain ⟨⟨pool, ns, hput⟩, -⟩ := id created
    exact .inr ⟨(List.getElem?_eq_some_iff.1 hput).1, created, kept⟩

end

/-! ## What a log leaves -/

/-- The names under which pools are stored, as a log leaves them. -/
def namesAfter (log : List Write) : Ledger String (String × String) := log.foldl Write.apply ∅

lemma namesAfter_append (log : List Write) (v : Write) : namesAfter (log ++ [v]) = v.apply (namesAfter log) := by
  simp [namesAfter]

lemma mem_keys_apply_of_concerns {names : Ledger String (String × String)} {v : Write} {uid : String}
    (h : v.concerns uid = true) : uid ∈ (v.apply names).keys ↔ ∃ pool ns, v = .put uid pool ns := by
  cases v with
  | put u pool ns =>
    obtain rfl : u = uid := by simpa [Write.concerns] using h
    simp [Write.apply, Ledger.mem_keys_iff, Ledger.get?_insert]
  | remove u =>
    obtain rfl : u = uid := by simpa [Write.concerns] using h
    simp [Write.apply, Ledger.mem_keys_iff, Ledger.get?_erase]
  | clear => simp [Write.apply]

lemma get?_apply_of_not {names : Ledger String (String × String)} {v : Write} {uid : String}
    (h : v.concerns uid = false) : (v.apply names).get? uid = names.get? uid := by
  have ne {u : String} (hu : (u == uid) = false) : ¬uid = u := fun e => by simp [e] at hu
  cases v with
  | put u pool ns => exact (Ledger.get?_insert _ _ _ _).trans (if_neg (ne h))
  | remove u => exact (Ledger.get?_erase _ _ _).trans (if_neg (ne h))
  | clear => cases h

lemma mem_keys_namesAfter (log : List Write) (uid : String) : uid ∈ (namesAfter log).keys ↔ Stored log uid := by
  induction log using List.reverseRecOn with
  | nil => simp [namesAfter, not_stored_nil]
  | append_singleton log v ih =>
    rw [namesAfter_append]
    cases hv : v.concerns uid with
    | true => rw [mem_keys_apply_of_concerns hv, stored_append_of_concerns hv]
    | false => rw [stored_append_of_not hv, Ledger.mem_keys_iff, get?_apply_of_not hv, ← Ledger.mem_keys_iff, ih]

lemma lastWrite_of_get?_namesAfter {log : List Write} {uid pool ns : String}
    (h : (namesAfter log).get? uid = some (pool, ns)) : LastWrite log uid (.put uid pool ns) := by
  induction log using List.reverseRecOn with
  | nil => cases h
  | append_singleton log v ih =>
    rw [namesAfter_append] at h
    cases hv : v.concerns uid with
    | false => exact (lastWrite_append_of_not hv).2 (ih (by rwa [get?_apply_of_not hv] at h))
    | true =>
      have there : uid ∈ (v.apply (namesAfter log)).keys := by simp [Ledger.mem_keys_iff, h]
      obtain ⟨pool', ns', rfl⟩ := (mem_keys_apply_of_concerns hv).1 there
      simp only [Write.apply, Ledger.get?_insert, if_true, Option.some.injEq, Prod.mk.injEq] at h
      obtain ⟨rfl, rfl⟩ := h
      exact (lastWrite_append_of_concerns hv).2 rfl

lemma exists_created {log : List Write} {uid : String} (h : Stored log uid) : ∃ i, Created log uid i := by
  induction log using List.reverseRecOn with
  | nil => exact absurd h not_stored_nil
  | append_singleton log v ih =>
    by_cases before : Stored log uid
    · have kept : v.takes uid = false := by
        cases hv : v.concerns uid with
        | false => exact Write.takes_of_concerns hv
        | true =>
          obtain ⟨pool, ns, rfl⟩ := (stored_append_of_concerns hv).1 h
          rfl
      obtain ⟨i, hi⟩ := ih before
      exact ⟨i, (created_append_of_stored before kept).2 hi⟩
    · cases hv : v.concerns uid with
      | false => exact absurd ((stored_append_of_not hv).1 h) before
      | true => exact ⟨log.length, created_append.2 (.inl ⟨rfl, (stored_append_of_concerns hv).1 h, before⟩)⟩

/-- The keys stand in the order in which their entries were created. -/
lemma keys_namesAfter_pairwise (log : List Write) :
    (namesAfter log).keys.Pairwise fun a b => ∀ i j, Created log a i → Created log b j → i < j := by
  induction log using List.reverseRecOn with
  | nil => exact .nil
  | append_singleton log v ih =>
    rw [namesAfter_append]
    -- Of keys that were there before and are kept, nothing has changed.
    have still {l : List String} (hsub : l.Sublist (namesAfter log).keys) (kept : ∀ uid ∈ l, v.takes uid = false) :
        l.Pairwise fun a b => ∀ i j, Created (log ++ [v]) a i → Created (log ++ [v]) b j → i < j := by
      refine (ih.sublist hsub).imp_of_mem fun {a b} ha hb hab i j hi hj => ?_
      have stored {uid : String} (hu : uid ∈ l) : Stored log uid := (mem_keys_namesAfter log uid).1 (hsub.subset hu)
      exact hab i j ((created_append_of_stored (stored ha) (kept a ha)).1 hi)
        ((created_append_of_stored (stored hb) (kept b hb)).1 hj)
    cases v with
    | put uid pool ns =>
      simp only [Write.apply, Ledger.keys_insert]
      split
      · exact still (List.Sublist.refl _) fun _ _ => rfl
      · next absent =>
        refine List.pairwise_append.2 ⟨still (List.Sublist.refl _) fun _ _ => rfl, List.pairwise_singleton _ _, ?_⟩
        intro a ha b hb i j hi hj
        obtain rfl := List.mem_singleton.1 hb
        rw [created_append_of_stored ((mem_keys_namesAfter log a).1 ha) rfl] at hi
        obtain ⟨⟨_, _, hput⟩, -⟩ := hi
        rcases created_append.1 hj with ⟨rfl, -⟩ | ⟨-, created, -⟩
        · exact (List.getElem?_eq_some_iff.1 hput).1
        · exact absurd ((mem_keys_namesAfter log b).2 created.stored) absent
    | remove uid =>
      simp only [Write.apply, Ledger.keys_erase]
      refine still List.filter_sublist fun u hu => ?_
      have hne : u ≠ uid := by simpa using (List.mem_filter.1 hu).2
      simp [Write.takes, hne.symm]
    | clear => exact .nil

/-- The names under which a record is stored. -/
def Record.names (record : Record) : String × String := (record.pool, record.ns)

/-- Records whose names are those that a log leaves are told by the log. -/
theorem replays_of_names {log : List Write} {records : Ledger String Record}
    (h : records.map Record.names = namesAfter log) : Replays log records := by
  have keys : records.keys = (namesAfter log).keys := by rw [← h, Ledger.keys_map]
  refine ⟨fun uid => ?_, fun uid record hr => ?_, fun uid hu => ?_, ?_⟩
  · rw [keys, mem_keys_namesAfter]
  · refine lastWrite_of_get?_namesAfter ?_
    rw [← h, Ledger.get?_map, hr]
    rfl
  · rw [keys, mem_keys_namesAfter] at hu
    exact exists_created hu
  · rw [keys]
    exact keys_namesAfter_pairwise log

end ReplicaWatch
