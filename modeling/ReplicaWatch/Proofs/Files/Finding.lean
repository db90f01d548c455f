import Mathlib
import ReplicaWatch.Proofs.Files.Walking

/-! Where paths lead. Main statements: a path that leads somewhere leads there in every tree that has more, and what
a name behind a path comes to is decided where the path leads. -/
namespace ReplicaWatch.Files

namespace Path

/-- The way at the beginning of a path. -/
def way (p : Path) : Way := ⟨linkLimit, [], p.parts⟩

/-- A path that is not too long to be followed. -/
def Fits (p : Path) : Prop := p.text.utf8ByteSize ≤ pathLimit

lemma text_size_le_child (p : Path) {name : String} (hname : name ≠ "") :
    p.text.utf8ByteSize ≤ (p.child name).text.utf8ByteSize := by
  have size : 0 < name.utf8ByteSize := by
    rw [Nat.pos_iff_ne_zero]
    simpa using hname
  obtain ⟨lead, parts⟩ := p
  cases parts with
  | nil =>
    by_cases h : lead = ""
    · subst h
      have dot : ".".utf8ByteSize = 1 := rfl
      simpa [text, child, dot] using Nat.succ_le_of_lt size
    · simp [text, child, h]
  | cons first parts =>
    have split := String.intercalate_append_of_ne_nil (s := "/") (List.cons_ne_nil first parts)
      (List.cons_ne_nil name [])
    simp only [text, child, split]
    simp
    omega

lemma Fits.of_child {p : Path} {name : String} (hname : name ≠ "") (h : (p.child name).Fits) : p.Fits :=
  (p.text_size_le_child hname).trans h

/-- A path that is read from a text has no part that leads nowhere. -/
lemma named_ofString (text : String) : ∀ name ∈ (ofString text).parts, name ≠ "" ∧ name ≠ "." := by
  intro name h
  simpa using (List.mem_filter.mp h).2

end Path

namespace Tree

variable {t t' : Tree} {purpose : Purpose} {p : Path} {spot : Spot} {l here : Location} {name : String} {node : Node}

lemma find_of_fits (fits : p.Fits) : t.find purpose p = t.outcome purpose p.way := if_neg (Nat.not_lt.mpr fits)

lemma find_iff : t.find purpose p = .ok spot ↔ p.Fits ∧ t.Leads purpose spot p.way := by
  by_cases fits : p.Fits
  · simp [find_of_fits fits, fits, outcome_iff_leads]
  · simp [find, fits, not_le.mp fits]

lemma locate_iff : t.locate p = .ok l ↔ p.Fits ∧ t.Leads .inspect (.found l) p.way := by
  rw [← find_iff, locate]
  split <;> simp_all

lemma leadsToDirectory_iff : t.leadsToDirectory p = .ok true ↔ ∃ l, t.locate p = .ok l ∧ t.isDirectory l = true := by
  unfold leadsToDirectory
  split
  · simp_all
  · split <;> simp_all

lemma leadsSomewhere_iff : t.leadsSomewhere p = .ok true ↔ ∃ l, t.locate p = .ok l := by
  unfold leadsSomewhere
  split
  · simp_all
  · split <;> simp_all

lemma locate_of_extends (grown : t.Extends t') (h : t.locate p = .ok l) : t'.locate p = .ok l := by
  obtain ⟨fits, leads⟩ := locate_iff.mp h
  exact locate_iff.mpr ⟨fits, leads.found_of_extends grown (by decide)⟩

lemma leadsToDirectory_of_extends (grown : t.Extends t') (h : t.leadsToDirectory p = .ok true) :
    t'.leadsToDirectory p = .ok true := by
  obtain ⟨l, located, directory⟩ := leadsToDirectory_iff.mp h
  exact leadsToDirectory_iff.mpr ⟨l, locate_of_extends grown located, grown.isDirectory directory⟩

/-- A file that could be opened for writing can be seen. -/
lemma locate_of_find_makeFile (h : t.find .makeFile p = .ok (.found l)) : t.locate p = .ok l := by
  obtain ⟨fits, leads⟩ := find_iff.mp h
  exact locate_iff.mpr ⟨fits, leads.found_of_extends (.refl t) (by decide)⟩

lemma find_makeDirectory_of_locate (h : t.locate p = .ok l) : ∃ l, t.find .makeDirectory p = .ok (.found l) := by
  obtain ⟨fits, leads⟩ := locate_iff.mp h
  obtain ⟨l, leads⟩ := leads.makeDirectory
  exact ⟨l, find_iff.mpr ⟨fits, leads⟩⟩

/-- A path with a name behind that leads somewhere leads through a directory. -/
lemma leadsToDirectory_of_find_child (hname : name ≠ "") (h : t.find purpose (p.child name) = .ok spot) :
    t.leadsToDirectory p = .ok true := by
  obtain ⟨fits, leads⟩ := find_iff.mp h
  obtain ⟨l, leads, directory⟩ := Leads.of_before (c := p.way) hname leads
  exact leadsToDirectory_iff.mpr ⟨l, locate_iff.mpr ⟨fits.of_child hname, leads⟩, directory⟩

/-- In an empty directory no name leads anywhere. -/
lemma not_locate_child (located : t.locate p = .ok here) (bare : ∀ name, t.node? (here ++ [name]) = none)
    (hname : name ≠ "" ∧ name ≠ "." ∧ name ≠ "..") : t.locate (p.child name) ≠ .ok l := by
  intro h
  obtain ⟨_, leads⟩ := locate_iff.mp located
  obtain ⟨links, behind⟩ := leads.outcome_before
  have reached := outcome_iff_leads.mpr (locate_iff.mp h).2
  change t.outcome .inspect (p.way.before name) = _ at reached
  rw [behind _ _ hname.1, outcome, walk] at reached
  simp only [hname, bare] at reached
  split_ifs at reached <;> simp_all

lemma node?_of_locate (rooted : t.Rooted) (h : t.locate p = .ok l) : ∃ node, t.node? l = some node := by
  have there := (locate_iff.mp h).2.there rooted (by simp [Path.way])
  exact Option.ne_none_iff_exists'.mp there

end Tree
end ReplicaWatch.Files
