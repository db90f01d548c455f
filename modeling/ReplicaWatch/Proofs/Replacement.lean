import Mathlib
import ReplicaWatch.Proofs.Adding

/-! Replacing everything that is stored. Items are added to an empty store one after the other, up to the first
whose addition fails. Main statement: where no command leaves time for others, the pools that are stored then are
those with mirroring among the items before that one, in the order of their first occurrence, each with the record
that was fetched for its last. -/
namespace ReplicaWatch

/-- Without duplicates, an item at the end of a list is left out if it came before. -/
lemma eraseDups_concat (l : List String) (a : String) :
    (l ++ [a]).eraseDups = if a ∈ l.eraseDups then l.eraseDups else l.eraseDups ++ [a] := by
  rw [List.eraseDups_append]
  by_cases again : a ∈ l
  · simp [again, List.removeAll]
  · simp [again, List.removeAll, List.eraseDups_cons]

/-- The identity of the pool with mirroring that an object describes. -/
def BlockPool.mirroredUid? (obj : Json) : Option String :=
  match ofJson obj with
  | .ok pool => if pool.mirrored then some pool.uid else none
  | .error _ => none

lemma BlockPool.mirroredUid?_eq {obj : Json} {pool : BlockPool} (described : ofJson obj = .ok pool)
    (mirrored : pool.mirrored = true) : mirroredUid? obj = some pool.uid := by
  simp [mirroredUid?, described, mirrored]

namespace Session

/-- How the addition of items ends that came to `u` when some were added: there are no more, or the next one fails. -/
inductive Halts (m : Meanwhile) (items added : List Json) (u : Session) : Except Failure Unit × Session → Prop
  | done (all : items = added) : Halts m items added u (.ok (), u)
  | failed {item after e t} (next : items = added ++ item :: after) (fails : u.add m item = (.error e, t)) :
      Halts m items added u (.error e, t)

/-- What an addition makes of the store: without mirroring or without success nothing, and otherwise the record that
was fetched is stored. -/
inductive Lands (s : Session) (m : Meanwhile) (obj : Json) : Except Failure Unit × Session → Prop
  | failed {e t} (same : t.cache.records = s.cache.records) : Lands s m obj (.error e, t)
  | skipped {t} (unmirrored : BlockPool.mirroredUid? obj = none) (same : t.cache.records = s.cache.records) :
      Lands s m obj (.ok (), t)
  | stored {pool record u t} (described : BlockPool.ofJson obj = .ok pool) (mirrored : pool.mirrored = true)
      (fetched : s.fetchRecord m pool.name pool.ns = (.ok record, u))
      (written : t.cache.records = s.cache.records.insert pool.uid record) : Lands s m obj (.ok (), t)

section
variable {s t u : Session} {m : Meanwhile}

lemma addAll_append {added : List Json} (h : s.addAll m added = (.ok (), t)) (rest : List Json) :
    s.addAll m (added ++ rest) = t.addAll m rest := by
  induction added generalizing s with
  | nil =>
    cases h
    rfl
  | cons item added ih =>
    simp only [List.cons_append, addAll] at h ⊢
    split at h
    · cases h
    · exact ih h

/-- Items of which all were added were added one part after the other. -/
lemma addAll_parts {before rest : List Json} (h : s.addAll m (before ++ rest) = (.ok (), t)) :
    ∃ v, s.addAll m before = (.ok (), v) ∧ v.addAll m rest = (.ok (), t) := by
  induction before generalizing s with
  | nil => exact ⟨s, rfl, h⟩
  | cons item before ih =>
    simp only [List.cons_append, addAll] at h ⊢
    split at h
    · cases h
    · exact ih h

lemma addAll_halts (s : Session) (m : Meanwhile) (items : List Json) :
    ∃ added u, s.addAll m added = (.ok (), u) ∧ Halts m items added u (s.addAll m items) := by
  induction items generalizing s with
  | nil => exact ⟨[], s, rfl, .done rfl⟩
  | cons item rest ih =>
    cases first : s.add m item with
    | mk result t =>
      cases result with
      | error e =>
        refine ⟨[], s, rfl, ?_⟩
        rw [addAll, first]
        exact .failed rfl first
      | ok _ =>
        obtain ⟨added, u, all, halts⟩ := ih t
        refine ⟨item :: added, u, by rw [addAll, first]; exact all, ?_⟩
        rw [addAll, first]
        change Halts m _ _ u (t.addAll m rest)
        generalize t.addAll m rest = r at halts ⊢
        cases halts with
        | done all => exact .done (congrArg _ all)
        | failed next fails => exact .failed (congrArg _ next) fails

/-- The items after one whose addition fails make no difference. -/
lemma Halts.others {items added after : List Json} {item : Json} {r : Except Failure Unit × Session}
    (h : Halts m items added u r) (more : items = added ++ item :: after) (others : List Json) :
    u.addAll m (item :: others) = r := by
  cases h with
  | done all => simp [all] at more
  | failed next fails =>
    obtain ⟨rfl, -⟩ := List.cons.inj (List.append_cancel_left (next.symm.trans more))
    rw [addAll, fails]

lemma Lands.frame {obj : Json} {r : Except Failure Unit × Session} (h : s.Lands m obj r) {uid : String}
    (other : BlockPool.mirroredUid? obj ≠ some uid) : r.2.cache.records.get? uid = s.cache.records.get? uid := by
  cases h with
  | failed same => rw [same]
  | skipped _ same => rw [same]
  | stored described mirrored _ written =>
    rw [written, Ledger.get?_insert, if_neg]
    rintro rfl
    exact other (BlockPool.mirroredUid?_eq described mirrored)

/-! ## In a world without disturbance -/

section
variable (hm : Orderly m)
include hm

lemma add_lands (still : s.world.Undisturbed) (obj : Json) :
    (s.add m obj).2.world.Undisturbed ∧ s.Lands m obj (s.add m obj) := by
  unfold add
  cases described : BlockPool.ofJson obj with
  | error e => exact ⟨still, .failed rfl⟩
  | ok pool =>
    cases mirrored : pool.mirrored with
    | false =>
      have unmirrored : BlockPool.mirroredUid? obj = none := by simp [BlockPool.mirroredUid?, described, mirrored]
      simp only [mirrored, Bool.false_eq_true, if_false]
      exact ⟨by rwa [log_world], .skipped unmirrored (by rw [log_cache])⟩
    | true =>
      obtain ⟨same, left⟩ := undisturbed_fetchRecord hm still pool.name pool.ns
      simp only [mirrored, if_true]
      cases fetched : s.fetchRecord m pool.name pool.ns with
      | mk result v =>
        rw [fetched] at same left
        cases result with
        | error e => exact ⟨left, .failed same⟩
        | ok record =>
          exact ⟨left, .stored described mirrored fetched (congrArg (Ledger.insert · pool.uid record) same)⟩

/-- Adding items touches no pool that is not among them. -/
lemma addAll_frame (still : s.world.Undisturbed) (items : List Json) :
    (s.addAll m items).2.world.Undisturbed ∧
      ∀ uid, (∀ item ∈ items, BlockPool.mirroredUid? item ≠ some uid) →
        (s.addAll m items).2.cache.records.get? uid = s.cache.records.get? uid := by
  induction items generalizing s with
  | nil => exact ⟨still, fun _ _ => rfl⟩
  | cons item rest ih =>
    obtain ⟨left, lands⟩ := add_lands hm still item
    have frame (uid : String) (other : BlockPool.mirroredUid? item ≠ some uid) := lands.frame other
    rw [addAll]
    generalize s.add m item = r at left frame ⊢
    obtain ⟨result, t⟩ := r
    cases result with
    | error e => exact ⟨left, fun uid others => frame uid (others item List.mem_cons_self)⟩
    | ok _ =>
      obtain ⟨left', frame'⟩ := ih left
      refine ⟨left', fun uid others => ?_⟩
      obtain ⟨now, later⟩ := List.forall_mem_cons.1 others
      exact (frame' uid later).trans (frame uid now)

lemma addAll_single (still : s.world.Undisturbed) {item : Json} (h : s.addAll m [item] = (.ok (), t)) :
    s.Lands m item (.ok (), t) := by
  have lands := (add_lands hm still item).2
  rw [addAll] at h
  generalize s.add m item = r at h lands
  obtain ⟨result, v⟩ := r
  cases result with
  | error e => cases h
  | ok _ =>
    cases h
    exact lands

/-- Items that were all added to an empty store are there in the order of their first occurrence. -/
lemma keys_addAll (still : s.world.Undisturbed) (empty : s.cache.records = ∅) {items : List Json}
    (h : s.addAll m items = (.ok (), t)) :
    t.cache.records.keys = (items.filterMap BlockPool.mirroredUid?).eraseDups := by
  -- From the end: the last item is a duplicate and keeps its place, or comes last.
  induction items using List.reverseRecOn generalizing t with
  | nil =>
    cases h
    rw [empty]
    rfl
  | append_singleton items item ih =>
    obtain ⟨v, before, last⟩ := addAll_parts h
    have left := (addAll_frame hm still items).1
    rw [before] at left
    have keys := ih before
    have lands := addAll_single hm left last
    rw [List.filterMap_append]
    cases lands with
    | skipped unmirrored same =>
      rw [same, keys, List.filterMap_cons_none unmirrored, List.filterMap_nil, List.append_nil]
    | stored described mirrored _ written =>
      rw [written, Ledger.keys_insert, keys, List.filterMap_cons_some (BlockPool.mirroredUid?_eq described mirrored),
        List.filterMap_nil, eraseDups_concat]

/-- An item after which there is none of its pool leaves the record that was fetched for it. -/
lemma get?_addAll_last (still : s.world.Undisturbed) {before after : List Json} {item : Json} {pool : BlockPool}
    (h : s.addAll m (before ++ item :: after) = (.ok (), t)) (described : BlockPool.ofJson item = .ok pool)
    (mirrored : pool.mirrored = true) (last : ∀ later ∈ after, BlockPool.mirroredUid? later ≠ some pool.uid) :
    ∃ v record w, s.addAll m before = (.ok (), v) ∧ v.fetchRecord m pool.name pool.ns = (.ok record, w) ∧
      t.cache.records.get? pool.uid = some record := by
  obtain ⟨v, first, rest⟩ := addAll_parts h
  rw [← List.singleton_append] at rest
  obtain ⟨u, now, others⟩ := addAll_parts rest
  have left := (addAll_frame hm still before).1
  rw [first] at left
  have left' := (addAll_frame hm left [item]).1
  rw [now] at left'
  have kept := (addAll_frame hm left' after).2 pool.uid last
  rw [others] at kept
  have lands := addAll_single hm left now
  cases lands with
  | skipped unmirrored _ => cases unmirrored.symm.trans (BlockPool.mirroredUid?_eq described mirrored)
  | stored described' _ fetched written =>
    cases described.symm.trans described'
    refine ⟨v, _, _, first, fetched, kept.trans ?_⟩
    rw [written, Ledger.get?_insert, if_pos rfl]

/-- An item whose addition fails leaves the store as it was before it. -/
lemma Halts.records {items added : List Json} {r : Except Failure Unit × Session} (still : s.world.Undisturbed)
    (h : Halts m items added s r) : r.2.cache.records = s.cache.records := by
  cases h with
  | done all => rfl
  | @failed item after e t next fails =>
    have lands := (add_lands hm still item).2
    rw [fails] at lands
    cases lands with
    | failed same => exact same

end

end

/-- Everything that is stored is replaced, in a world in which no command leaves time for others.

Whatever was stored before, it is gone and makes no difference, also where there are no items to be had. Otherwise
items are added in their order until there are no more or the addition of one fails. In that case the replacement
fails as that addition does, and where that addition ends it ends too: whichever items come after it, nothing is
asked for or run on their account. The pools that are stored then are those with mirroring among the items that were
added, in the order in which they first occur, and the record of each is the one that was fetched for it where it
last occurs. -/
theorem replace_until_failure (s : Session) (depth : ℕ) (value : Json) (still : s.world.Undisturbed) :
    let r := s.replace (nested depth) value
    (∀ records, Session.replace { s with cache := { s.cache with records := records } } (nested depth) value = r) ∧
    (itemsOf? value = none → r = (.error .wrongKind, s.change .cleared) ∧ r.2.cache.records = ∅) ∧
    ∀ items, itemsOf? value = some items →
      ∃ added u, (s.change .cleared).addAll (nested depth) added = (.ok (), u) ∧
        Halts (nested depth) items added u r ∧
        (∀ item after, items = added ++ item :: after → ∀ others,
          s.replace (nested depth) (.array (added ++ item :: others)) = r) ∧
        r.2.cache.records.keys = (added.filterMap BlockPool.mirroredUid?).eraseDups ∧
        ∀ before item after pool, added = before ++ item :: after → BlockPool.ofJson item = .ok pool →
          pool.mirrored = true → (∀ later ∈ after, BlockPool.mirroredUid? later ≠ some pool.uid) →
          ∃ v record w, (s.change .cleared).addAll (nested depth) before = (.ok (), v) ∧
            v.fetchRecord (nested depth) pool.name pool.ns = (.ok record, w) ∧
            r.2.cache.records.get? pool.uid = some record := by
  intro r
  have hm := orderly_nested depth
  have start : (s.change .cleared).world.Undisturbed := still
  refine ⟨fun records => rfl, fun none => ?_, fun items some => ?_⟩
  · have hr : r = (.error .wrongKind, s.change .cleared) := by simp only [r, replace, none]
    exact ⟨hr, by rw [hr]; rfl⟩
  have hr : r = (s.change .cleared).addAll (nested depth) items := by simp only [r, replace, some]
  obtain ⟨added, u, all, halts⟩ := addAll_halts (s.change .cleared) (nested depth) items
  have left := (addAll_frame hm start added).1
  rw [all] at left
  rw [← hr] at halts
  have records := halts.records hm left
  refine ⟨added, u, all, halts, fun item after next others => ?_, ?_, ?_⟩
  · rw [← halts.others next others, ← addAll_append all]
    rfl
  · rw [records]
    exact keys_addAll hm start rfl all
  · rintro before item after pool rfl described mirrored last
    rw [records]
    exact get?_addAll_last hm start all described mirrored last

/-- A pool is stored, and the next commands in its name end well, the third with another state of health. -/
def supplied : Session :=
  Sample.run "a2V5" true
    [⟨.finished (Sample.document "OK"), []⟩, ⟨.finished (Sample.document "OK"), []⟩,
      ⟨.finished (Sample.document "OK"), []⟩, ⟨.finished (Sample.document "ERROR"), []⟩]
    [.add (Sample.pool "u0" "pool1" "ns1")]

/-- One pool comes twice, and what is no pool at all comes before the last. -/
def delivery : List Json :=
  [Sample.pool "u1" "pool1" "ns1", Sample.pool "u2" "pool1" "ns1", Sample.pool "u1" "pool1" "ns1", .null,
    Sample.pool "u3" "pool1" "ns1"]

theorem delivery_replaces :
    let r := supplied.replace (nested 1) (.array delivery)
    supplied.world.Undisturbed ∧ supplied.cache.records.keys = ["u0"] ∧ r.2.cache.records.keys = ["u1", "u2"] ∧
      ∃ added u, (supplied.change .cleared).addAll (nested 1) added = (.ok (), u) ∧
        Halts (nested 1) delivery added u r ∧ (added.filterMap BlockPool.mirroredUid?).eraseDups = ["u1", "u2"] := by
  obtain ⟨still, before, after⟩ : supplied.world.Undisturbed ∧ supplied.cache.records.keys = ["u0"] ∧
      (supplied.replace (nested 1) (.array delivery)).2.cache.records.keys = ["u1", "u2"] := by decide +kernel
  obtain ⟨-, -, replaced⟩ := replace_until_failure supplied 1 (.array delivery) still
  obtain ⟨added, u, all, halts, -, keys, -⟩ := replaced delivery rfl
  exact ⟨still, before, after, added, u, all, halts, keys.symm.trans after⟩

end Session
end ReplicaWatch
