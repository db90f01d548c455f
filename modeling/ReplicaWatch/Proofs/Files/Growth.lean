import Mathlib
import ReplicaWatch.Files.Operations

/-! Trees that grow. Main statements: an entry put where there is none keeps what there was, and a tree whose
entries lie in directories stays such a tree. -/
namespace ReplicaWatch.Files.Tree

/-- A tree has what another has, and perhaps more. -/
def Extends (old new : Tree) : Prop := ∀ l node, old.node? l = some node → new.node? l = some node

/-- Every entry lies in a directory. -/
def Rooted (t : Tree) : Prop := ∀ l name, t.node? (l ++ [name]) ≠ none → t.isDirectory l = true

variable {t t' t'' : Tree} {l here : Location} {name text : String} {node : Node} {mode : ℕ}

lemma isDirectory_iff : t.isDirectory l = true ↔ ∃ mode, t.node? l = some (.directory mode) := by
  unfold isDirectory
  split <;> simp_all

@[simp] lemma node?_nil (t : Tree) : t.node? [] = some (.directory directoryMode) := rfl

lemma ne_nil_of_free (free : t.node? l = none) : l ≠ [] := by
  rintro rfl
  simp at free

@[refl] lemma Extends.refl (t : Tree) : t.Extends t := fun _ _ there => there

lemma Extends.trans (h : t.Extends t') (h' : t'.Extends t'') : t.Extends t'' :=
  fun l node there => h' l node (h l node there)

lemma Extends.free (h : t.Extends t') (free : t'.node? l = none) : t.node? l = none := by
  cases there : t.node? l with
  | none => rfl
  | some node => exact absurd (h l node there) (by simp [free])

lemma Extends.isDirectory (h : t.Extends t') (directory : t.isDirectory l = true) : t'.isDirectory l = true := by
  obtain ⟨mode, there⟩ := isDirectory_iff.mp directory
  exact isDirectory_iff.mpr ⟨mode, h l _ there⟩

lemma node?_add (free : t.node? l = none) (k : Location) (node : Node) :
    (t.add l node).node? k = if k = l then some node else t.node? k := by
  have hl := ne_nil_of_free free
  have absent : t.entries.lookup l = none := by simpa [node?, hl] using free
  by_cases hk : k = []
  · simp [node?, hk, hl.symm]
  · by_cases same : k = l
    · subst same
      simp [node?, add, hk, List.lookup_append, absent, List.lookup]
    · simp [node?, add, hk, same, List.lookup_append, List.lookup, beq_false_of_ne same]

@[simp] lemma node?_add_self (free : t.node? l = none) (node : Node) : (t.add l node).node? l = some node := by
  simp [node?_add free]

lemma extends_add (free : t.node? l = none) (node : Node) : t.Extends (t.add l node) := by
  intro k other there
  rw [node?_add free, if_neg, there]
  rintro rfl
  simp [free] at there

/-- It is enough to look where each entry lies. -/
lemma rooted_of_entries (h : ∀ e ∈ t.entries, t.isDirectory e.1.dropLast = true) : t.Rooted := by
  intro l name there
  obtain ⟨node, there⟩ := Option.ne_none_iff_exists'.mp there
  obtain ⟨before, behind, entries, -⟩ := List.lookup_eq_some_iff.mp ((if_neg (by simp)).symm.trans there)
  simpa using h (l ++ [name], node) (by simp [entries])

/-- Nothing lies in an entry that is not there. -/
lemma Rooted.free_below (h : t.Rooted) (free : t.node? l = none) (name : String) : t.node? (l ++ [name]) = none := by
  by_contra there
  obtain ⟨mode, directory⟩ := isDirectory_iff.mp (h l name there)
  simp [free] at directory

lemma Rooted.add (h : t.Rooted) (free : t.node? (here ++ [name]) = none) (directory : t.isDirectory here = true)
    (node : Node) : (t.add (here ++ [name]) node).Rooted := by
  intro k other there
  apply (extends_add free node).isDirectory
  rw [node?_add free] at there
  split at there
  case isTrue same => rwa [(List.append_inj' same rfl).1]
  case isFalse => exact h k other there

lemma setText_add (free : t.node? l = none) (mode : ℕ) (text : String) :
    (t.add l (.file mode "")).setText l text = t.add l (.file mode text) := by
  have hl := ne_nil_of_free free
  have absent : t.entries.lookup l = none := by simpa [node?, hl] using free
  have others : ∀ e ∈ t.entries, e.1 ≠ l := by
    rintro ⟨k, node⟩ he rfl
    simpa using List.lookup_eq_none_iff.mp absent _ he
  simp only [setText, add, List.map_append, List.map_cons, List.map_nil, if_true]
  congr 2
  refine (List.map_congr_left fun e he => ?_).trans (List.map_id _)
  rcases e with ⟨k, _ | _ | _⟩ <;> simp [others _ he]

end ReplicaWatch.Files.Tree
