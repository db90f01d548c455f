import Mathlib
import ReplicaWatch.Json.Value

/-! Members of objects by their keys. Main statements: what stands under a key after a member was set, after one was
removed, and after members with one key were merged. -/
namespace ReplicaWatch.Json

lemma lookup_append (k : Text) (ms ms' : List (Text × Json)) :
    lookup k (ms ++ ms') = (lookup k ms).or (lookup k ms') := by
  induction ms with
  | nil => rfl
  | cons m ms ih =>
    obtain ⟨k', v⟩ := m
    by_cases h : k' = k <;> simp [lookup, h, ih]

lemma lookup_eq_none_iff {k : Text} {ms : List (Text × Json)} : lookup k ms = none ↔ k ∉ ms.map Prod.fst := by
  induction ms with
  | nil => simp [lookup]
  | cons m ms ih =>
    obtain ⟨k', v⟩ := m
    by_cases h : k' = k
    · simp [lookup, h]
    · simp [lookup, h, Ne.symm h, ih]

lemma lookup_insert (k k' : Text) (w : Json) (ms : List (Text × Json)) :
    lookup k (insert k' w ms) = if k' = k then some w else lookup k ms := by
  induction ms with
  | nil => rfl
  | cons m ms ih =>
    obtain ⟨k₀, u⟩ := m
    by_cases h : k₀ = k'
    · subst h
      by_cases h' : k₀ = k <;> simp [insert, lookup, h']
    · by_cases h' : k₀ = k
      · subst h'
        simp [insert, lookup, h, Ne.symm h]
      · simp [insert, lookup, h, h', ih]

/-- Merging leaves the last value of each key. -/
lemma lookup_merge (k : Text) (ms : List (Text × Json)) : lookup k (merge ms) = lookup k ms.reverse := by
  have fold (ms : List (Text × Json)) : ∀ done, lookup k (ms.foldl (fun done m => insert m.1 m.2 done) done) =
      (lookup k ms.reverse).or (lookup k done) := by
    induction ms with
    | nil => simp [lookup]
    | cons m ms ih =>
      obtain ⟨k', v⟩ := m
      intro done
      rw [List.foldl_cons, ih, lookup_insert, List.reverse_cons, lookup_append]
      by_cases h : k' = k <;> simp [lookup, h]
  exact (fold ms []).trans (by simp [lookup])

lemma lookup_filter (k k' : Text) (ms : List (Text × Json)) :
    lookup k (ms.filter fun m => m.1 ≠ k') = if k' = k then none else lookup k ms := by
  induction ms with
  | nil => simp [lookup]
  | cons m ms ih =>
    obtain ⟨k₀, u⟩ := m
    by_cases h : k₀ = k'
    · subst h
      by_cases h' : k₀ = k <;> simp_all [lookup]
    · by_cases h' : k₀ = k
      · subst h'
        simp [lookup, h, Ne.symm h]
      · simp_all [lookup]

end ReplicaWatch.Json
