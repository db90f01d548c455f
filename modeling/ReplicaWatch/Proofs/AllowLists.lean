import Mathlib
import ReplicaWatch.Settings

/-! Lists in settings, such as the list of allowed namespaces. Main statement: a comma parts what is in front of it
from what is behind it, the items that are read are in normal form, and they are read back however blanks are put
around and between them. -/
namespace ReplicaWatch

/-! ## Trimming -/

namespace Blank

section
variable {drop : Char → Bool} {cs before item after : List Char}

lemma trim_eq_rdropWhile (drop : Char → Bool) (cs : List Char) :
    trim drop cs = (cs.dropWhile drop).rdropWhile drop := rfl

/-- What is left begins as the text does behind its blanks. -/
lemma trim_begins (drop : Char → Bool) (cs : List Char) : trim drop cs <+: cs.dropWhile drop :=
  List.rdropWhile_prefix drop _

lemma trim_subset (drop : Char → Bool) (cs : List Char) : trim drop cs ⊆ cs :=
  List.Subset.trans (trim_begins drop cs).subset (List.dropWhile_suffix drop).subset

lemma head_trim : ∀ c ∈ (trim drop cs).head?, drop c = false := by
  intro c first
  obtain ⟨rest, trimmed⟩ := List.head?_eq_some_iff.mp first
  obtain ⟨behind, same⟩ := trim_begins drop cs
  have kept := List.head?_dropWhile_not drop cs
  rwa [← same, trimmed, List.cons_append, List.head?_cons] at kept

lemma getLast_trim : ∀ c ∈ (trim drop cs).getLast?, drop c = false := by
  intro c last
  obtain ⟨front, trimmed⟩ := List.getLast?_eq_some_iff.mp last
  have given : (cs.dropWhile drop).rdropWhile drop ≠ [] := by
    rw [← trim_eq_rdropWhile, trimmed]
    exact List.append_ne_nil_of_right_ne_nil _ (List.cons_ne_nil c [])
  have kept := List.rdropWhile_last_not drop (cs.dropWhile drop) given
  simpa [← trim_eq_rdropWhile, trimmed] using kept

lemma trim_blank (blank : ∀ c ∈ cs, drop c = true) : trim drop cs = [] := by
  rw [trim_eq_rdropWhile, List.dropWhile_eq_nil_iff.mpr blank, List.rdropWhile_nil]

lemma trim_surrounded (hbefore : ∀ c ∈ before, drop c = true) (hafter : ∀ c ∈ after, drop c = true)
    (given : item ≠ []) (first : ∀ c ∈ item.head?, drop c = false) (last : ∀ c ∈ item.getLast?, drop c = false) :
    trim drop (before ++ item ++ after) = item := by
  have front : (before ++ item ++ after).dropWhile drop = item ++ after := by
    rw [List.append_assoc, List.dropWhile_append_of_pos hbefore]
    obtain ⟨c, rest, rfl⟩ := List.exists_cons_of_ne_nil given
    exact List.dropWhile_cons_of_neg (Bool.not_eq_true _ ▸ first c rfl)
  have back : (item ++ after).rdropWhile drop = item.rdropWhile drop := by
    rw [List.rdropWhile, List.reverse_append, List.dropWhile_append_of_pos fun c h =>
      hafter c (List.mem_reverse.mp h),
      ← List.rdropWhile]
  rw [trim_eq_rdropWhile, front, back, List.rdropWhile_eq_self_iff]
  intro given
  simpa using last _ (List.getLast?_eq_some_getLast given)

/-- An item in normal form. -/
structure IsItem (item : List Char) : Prop where
  given : item ≠ []
  whole : ',' ∉ item
  first : ∀ c ∈ item.head?, isSpacing c = false
  last : ∀ c ∈ item.getLast?, isSpacing c = false

lemma isItem_of_mem_items (h : item ∈ items cs) : IsItem item := by
  obtain ⟨trimmed, given⟩ := List.mem_filter.mp h
  obtain ⟨piece, cut, rfl⟩ := List.mem_map.mp trimmed
  exact ⟨by simpa using given, fun comma => absent_of_mem_split cut (trim_subset _ _ comma), head_trim, getLast_trim⟩

end
end Blank

/-! ## Items -/

namespace Settings

/-- A text of blanks, or the empty one. -/
def IsBlank (text : String) : Prop := text.toList.all Blank.isSpacing = true

instance (text : String) : Decidable (IsBlank text) := inferInstanceAs (Decidable (_ = true))

/-- Texts between commas that write items: each item with blanks around it, and blank texts anywhere. -/
inductive Writes : List String → List String → Prop
  | nil : Writes [] []
  | blank {b items texts} (blank : IsBlank b) (rest : Writes items texts) : Writes items (b :: texts)
  | item (i) {before after items texts} (hbefore : IsBlank before) (hafter : IsBlank after)
      (rest : Writes items texts) :
    Writes (i :: items) ((before ++ i ++ after) :: texts)

lemma isItem_of_mem_list {text item : String} (h : item ∈ list text) : Blank.IsItem item.toList := by
  obtain ⟨cs, read, rfl⟩ := List.mem_map.mp h
  rw [String.toList_ofList]
  exact Blank.isItem_of_mem_items read

/-- A comma parts a list in two. -/
lemma list_append (a b : String) : list (a ++ "," ++ b) = list a ++ list b := by
  have comma : (a ++ "," ++ b).toList = a.toList ++ ',' :: b.toList := by simp
  rw [list, comma, Blank.items, split_append]
  simp [list, Blank.items]

lemma list_of_whole {text : String} (whole : ',' ∉ text.toList) :
    list text = if Blank.trim Blank.isSpacing text.toList = [] then []
      else [String.ofList (Blank.trim Blank.isSpacing text.toList)] := by
  rw [list, Blank.items, split_of_absent whole]
  split <;> simp_all

lemma IsBlank.blank {text : String} (h : IsBlank text) : ∀ c ∈ text.toList, Blank.isSpacing c = true :=
  List.all_eq_true.mp h

lemma IsBlank.whole {text : String} (h : IsBlank text) : ',' ∉ text.toList := fun comma =>
  absurd (h.blank ',' comma) (by decide)

lemma list_blank {text : String} (h : IsBlank text) : list text = [] := by
  rw [list_of_whole h.whole, if_pos (Blank.trim_blank h.blank)]

lemma list_item {before item after : String} (hbefore : IsBlank before) (h : Blank.IsItem item.toList)
    (hafter : IsBlank after) :
    list (before ++ item ++ after) = [item] := by
  have trimmed : Blank.trim Blank.isSpacing (before ++ item ++ after).toList = item.toList := by
    rw [String.toList_append, String.toList_append]
    exact Blank.trim_surrounded hbefore.blank hafter.blank h.given h.first h.last
  have whole : ',' ∉ (before ++ item ++ after).toList := by
    simp [hbefore.whole, h.whole, hafter.whole]
  rw [list_of_whole whole, trimmed, if_neg h.given, String.ofList_toList]

/-- Joined by commas, texts are read one after another. -/
lemma list_intercalate (texts : List String) : list (",".intercalate texts) = texts.flatMap list := by
  induction texts with
  | nil => exact list_blank rfl
  | cons text texts ih =>
    cases texts with
    | nil => simp
    | cons next texts =>
      rw [String.intercalate_cons_cons, list_append, ih]
      exact List.flatMap_cons.symm

lemma Writes.list_eq {items texts : List String} (h : Writes items texts)
    (normal : ∀ i ∈ items, Blank.IsItem i.toList) :
    texts.flatMap list = items := by
  induction h with
  | nil => rfl
  | blank blank _ ih => rw [List.flatMap_cons, list_blank blank, List.nil_append, ih normal]
  | item i hbefore hafter _ ih =>
    rw [List.forall_mem_cons] at normal
    rw [List.flatMap_cons, list_item hbefore normal.1 hafter, List.singleton_append, ih normal.2]

/-- What is written in front of a comma is read apart from what is written behind it. Every item that is read is in
normal form: it is not empty, holds no comma and has no blank at its ends. Items that are read from a text are read
back, in order and with repetitions, from any texts that write them and are joined by commas. -/
theorem list_normal_form :
    (∀ a b : String, list (a ++ "," ++ b) = list a ++ list b) ∧
      ∀ text : String, (∀ item ∈ list text, Blank.IsItem item.toList) ∧
        ∀ texts, Writes (list text) texts → list (",".intercalate texts) = list text := by
  refine ⟨list_append, fun text => ⟨fun item => isItem_of_mem_list, fun texts writes => ?_⟩⟩
  rw [list_intercalate, writes.list_eq fun item => isItem_of_mem_list]

/-- A name twice and a name with a blank in it, with blanks and blank texts of many kinds. -/
theorem spaced_list_normal_form :
    let texts := ["\u2003" ++ "ns1" ++ "", " \t", "" ++ "a b" ++ "\n", "", " " ++ "ns1" ++ " "]
    list "ns1,a b,ns1" = ["ns1", "a b", "ns1"] ∧ Writes (list "ns1,a b,ns1") texts ∧
      list (",".intercalate texts) = list "ns1,a b,ns1" := by
  have read : list "ns1,a b,ns1" = ["ns1", "a b", "ns1"] := by decide +kernel
  have writes : Writes ["ns1", "a b", "ns1"]
      ["\u2003" ++ "ns1" ++ "", " \t", "" ++ "a b" ++ "\n", "", " " ++ "ns1" ++ " "] :=
    .item "ns1" (by decide +kernel) (by decide +kernel) <| .blank (by decide +kernel) <|
      .item "a b" (by decide +kernel) (by decide +kernel) <| .blank (by decide +kernel) <|
      .item "ns1" (by decide +kernel) (by decide +kernel) .nil
  rw [← read] at writes
  exact ⟨read, writes, (list_normal_form.2 "ns1,a b,ns1").2 _ writes⟩

end Settings
end ReplicaWatch
