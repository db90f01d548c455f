/-! Ledgers: entries by key, in the order in which their keys came. Writing to a key that is there keeps its place,
and a key that was erased and comes again goes to the end. No key has two entries. Main statements: what is at a key,
and which keys there are in which order, after writing and after erasing. -/
namespace ReplicaWatch

structure Ledger (κ α : Type) where
  entries : List (κ × α)
  nodup : (entries.map Prod.fst).Nodup

namespace Ledger

variable {κ α : Type}

def empty : Ledger κ α := ⟨[], List.nodup_nil⟩

instance : EmptyCollection (Ledger κ α) := ⟨empty⟩

def keys (m : Ledger κ α) : List κ := m.entries.map Prod.fst

@[ext] theorem ext {m n : Ledger κ α} (h : m.entries = n.entries) : m = n := by
  cases m; cases n; cases h; rfl

@[simp] theorem entries_empty : (∅ : Ledger κ α).entries = [] := rfl

@[simp] theorem keys_empty : (∅ : Ledger κ α).keys = [] := rfl

variable [DecidableEq κ]

/-- The value at a key of a list of entries. -/
def find? (key : κ) : List (κ × α) → Option α
  | [] => none
  | (k, v) :: rest => if k = key then some v else find? key rest

/-- Writes to a key of a list of entries. -/
def write (key : κ) (value : α) : List (κ × α) → List (κ × α)
  | [] => [(key, value)]
  | (k, v) :: rest => if k = key then (k, value) :: rest else (k, v) :: write key value rest

theorem map_fst_write (key : κ) (value : α) (entries : List (κ × α)) :
    (write key value entries).map Prod.fst =
      if key ∈ entries.map Prod.fst then entries.map Prod.fst else entries.map Prod.fst ++ [key] := by
  induction entries with
  | nil => simp [write]
  | cons e rest ih =>
    obtain ⟨j, v⟩ := e
    by_cases hj : j = key
    · subst hj; simp [write]
    · have hk : ¬key = j := fun h => hj h.symm
      simp only [write, hj, if_false, List.map_cons, ih, List.mem_cons, hk, false_or]
      split <;> simp

theorem nodup_write {key : κ} {value : α} {entries : List (κ × α)} (h : (entries.map Prod.fst).Nodup) :
    ((write key value entries).map Prod.fst).Nodup := by
  rw [map_fst_write]
  split
  · exact h
  · next hk =>
    rw [List.nodup_append]
    exact ⟨h, by simp, fun k hm j hj => by
      rw [List.mem_singleton] at hj
      subst hj
      exact fun e => hk (e ▸ hm)⟩

theorem find?_write (key k : κ) (value : α) (entries : List (κ × α)) :
    find? k (write key value entries) = if k = key then some value else find? k entries := by
  induction entries with
  | nil =>
    by_cases h : key = k
    · simp [write, find?, h]
    · have hk : ¬k = key := fun e => h e.symm
      simp [write, find?, h, hk]
  | cons e rest ih =>
    obtain ⟨j, v⟩ := e
    by_cases hj : j = key
    · subst hj
      by_cases h : j = k
      · simp [write, find?, h]
      · have hk : ¬k = j := fun e => h e.symm
        simp [write, find?, h, hk]
    · by_cases h : j = k
      · subst h; simp [write, find?, hj]
      · simp [write, find?, hj, h, ih]

theorem find?_filter_ne (key k : κ) (entries : List (κ × α)) :
    find? k (entries.filter fun e => e.1 != key) = if k = key then none else find? k entries := by
  induction entries with
  | nil => simp [find?]
  | cons e rest ih =>
    obtain ⟨j, v⟩ := e
    by_cases hj : j = key
    · subst hj
      by_cases h : j = k
      · subst h; simp [ih]
      · simp [find?, h, ih]
    · by_cases h : j = k
      · subst h; simp [find?, hj]
      · simp [find?, hj, h, ih]

/-- The value at a key. -/
def get? (m : Ledger κ α) (key : κ) : Option α := find? key m.entries

/-- Writes to a key. -/
def insert (m : Ledger κ α) (key : κ) (value : α) : Ledger κ α :=
  ⟨write key value m.entries, nodup_write m.nodup⟩

/-- Leaves out a key. -/
def erase (m : Ledger κ α) (key : κ) : Ledger κ α :=
  ⟨m.entries.filter fun e => e.1 != key, m.nodup.sublist (List.filter_sublist.map Prod.fst)⟩

@[simp] theorem get?_empty (k : κ) : (∅ : Ledger κ α).get? k = none := rfl

theorem get?_insert (m : Ledger κ α) (key k : κ) (value : α) :
    (m.insert key value).get? k = if k = key then some value else m.get? k :=
  find?_write key k value m.entries

theorem get?_erase (m : Ledger κ α) (key k : κ) :
    (m.erase key).get? k = if k = key then none else m.get? k :=
  find?_filter_ne key k m.entries

theorem keys_insert (m : Ledger κ α) (key : κ) (value : α) :
    (m.insert key value).keys = if key ∈ m.keys then m.keys else m.keys ++ [key] :=
  map_fst_write key value m.entries

theorem keys_erase (m : Ledger κ α) (key : κ) : (m.erase key).keys = m.keys.filter fun k => k != key := by
  simp [keys, erase, List.filter_map, Function.comp_def]

theorem get?_eq_some_iff {m : Ledger κ α} {k : κ} {v : α} : m.get? k = some v ↔ (k, v) ∈ m.entries := by
  obtain ⟨entries, nodup⟩ := m
  simp only [get?]
  induction entries with
  | nil => simp [find?]
  | cons e rest ih =>
    obtain ⟨j, w⟩ := e
    rw [List.map_cons, List.nodup_cons] at nodup
    by_cases h : j = k
    · subst h
      have hrest : (j, v) ∉ rest := fun hm => nodup.1 (List.mem_map.2 ⟨(j, v), hm, rfl⟩)
      simp [find?, hrest, eq_comm]
    · have hk : ¬k = j := fun e => h e.symm
      simp [find?, h, hk, ih nodup.2]

theorem mem_keys_iff (m : Ledger κ α) (k : κ) : k ∈ m.keys ↔ (m.get? k).isSome := by
  simp only [keys, get?]
  induction m.entries with
  | nil => simp [find?]
  | cons e rest ih =>
    obtain ⟨j, v⟩ := e
    by_cases h : j = k
    · simp [find?, h]
    · have hk : ¬k = j := fun e => h e.symm
      simp [find?, h, hk, ← ih]

end Ledger
end ReplicaWatch
