import Mathlib
import ReplicaWatch.Proofs.Files.Finding

/-! Making directories and files. Main statements: what is made lies where its path leads and nothing else changes;
directories that were made once are found the next time, and where making them failed, it fails again and makes no
more. -/
namespace ReplicaWatch.Files.Tree

variable {t t' t'' : Tree} {p : Path} {l : Location} {node : Node} {name lead : String} {above : List String}
  {mode : ℕ} {e : SystemFault}

/-- A tree is another with one entry more, to which a path leads. -/
structure Puts (t t' : Tree) (p : Path) (l : Location) (node : Node) : Prop where
  free : t.node? l = none
  added : t' = t.add l node
  reached : t'.locate p = .ok l
  within : t.Rooted → t'.Rooted

lemma Puts.extends (h : t.Puts t' p l node) : t.Extends t' := h.added ▸ extends_add h.free node

lemma Puts.there (h : t.Puts t' p l node) : t'.node? l = some node := by rw [h.added, node?_add_self h.free]

lemma Puts.only (h : t.Puts t' p l node) {k : Location} {other : Node} (there : t'.node? k = some other) :
    t.node? k = some other ∨ k = l ∧ other = node := by
  rw [h.added, node?_add h.free] at there
  split at there
  case isTrue same => exact .inr ⟨same, by simpa using there.symm⟩
  case isFalse => exact .inl there

/-- A node that is put in a free place is what the path to the place leads to. -/
lemma puts_of_vacant {purpose : Purpose} {parent : Location} (solid : ∀ target, node ≠ .link target)
    (place : purpose = .makeFile ∨ ∃ mode, node = .directory mode)
    (h : t.find purpose p = .ok (.vacant parent name)) :
    t.Puts (t.add (parent ++ [name]) node) p (parent ++ [name]) node := by
  obtain ⟨fits, leads⟩ := find_iff.mp h
  obtain ⟨directory, free⟩ := leads.free
  have there := node?_add_self free node
  have opens : purpose = .makeFile ∨ (t.add (parent ++ [name]) node).isDirectory (parent ++ [name]) = true :=
    place.imp_right fun ⟨mode, same⟩ => isDirectory_iff.mpr ⟨mode, there.trans (congrArg some same)⟩
  exact {
    free
    added := rfl
    reached := locate_iff.mpr ⟨fits, leads.found_of_vacant (extends_add free node) there solid opens⟩
    within := fun rooted => rooted.add free directory node }

/-- A directory is made in a free place. -/
lemma makeDirectory_ok (h : t.makeDirectory p = .ok t') :
    ∃ parent name, t.find .makeDirectory p = .ok (.vacant parent name) ∧
      t' = t.add (parent ++ [name]) (.directory directoryMode) := by
  unfold makeDirectory at h
  split at h
  case h_1 | h_3 => cases h
  case h_2 parent name found =>
    cases h
    exact ⟨parent, name, found, rfl⟩

lemma puts_of_makeDirectory (h : t.makeDirectory p = .ok t') : ∃ l, t.Puts t' p l (.directory directoryMode) := by
  obtain ⟨parent, name, found, rfl⟩ := makeDirectory_ok h
  exact ⟨_, puts_of_vacant nofun (.inr ⟨_, rfl⟩) found⟩

/-! ### One directory -/

lemma acceptDirectory_ok {obstacle : Obstacle} (h : t.acceptDirectory p obstacle = (.ok (), t')) :
    t' = t ∧ t.leadsToDirectory p = .ok true := by
  unfold acceptDirectory at h
  split at h <;> simp_all

lemma acceptDirectory_error {obstacle : Obstacle} (h : t.acceptDirectory p obstacle = (.error e, t')) : t' = t := by
  unfold acceptDirectory at h
  split at h <;> simp_all

/-- A directory is made where there is nothing, or it was there. -/
lemma ensureDirectory_ok (h : t.ensureDirectory p = (.ok (), t')) :
    t' = t ∧ t.leadsToDirectory p = .ok true ∨ ∃ l, t.Puts t' p l (.directory directoryMode) := by
  unfold ensureDirectory at h
  split at h
  case h_1 made =>
    cases h
    exact .inr (puts_of_makeDirectory made)
  case h_2 => cases h
  case h_3 => exact .inl (acceptDirectory_ok h)

/-- A directory that can be made, or is there, is at the end of a path that leads somewhere. -/
lemma find_of_ensureDirectory (h : t.ensureDirectory p = (.ok (), t')) :
    ∃ purpose spot, t.find purpose p = .ok spot := by
  unfold ensureDirectory at h
  split at h
  case h_1 made =>
    obtain ⟨parent, name, found, -⟩ := makeDirectory_ok made
    exact ⟨_, _, found⟩
  case h_2 => cases h
  case h_3 =>
    obtain ⟨l, located, -⟩ := leadsToDirectory_iff.mp (acceptDirectory_ok h).2
    exact ⟨_, _, find_iff.mpr (locate_iff.mp located)⟩

lemma ensureDirectory_error (h : t.ensureDirectory p = (.error e, t')) : t' = t := by
  unfold ensureDirectory at h
  split at h
  case h_1 => cases h
  case h_2 => cases h; rfl
  case h_3 => exact acceptDirectory_error h

lemma makeDirectory_of_directory (h : t.leadsToDirectory p = .ok true) : t.makeDirectory p = .error .occupied := by
  obtain ⟨l, located, -⟩ := leadsToDirectory_iff.mp h
  obtain ⟨l, found⟩ := find_makeDirectory_of_locate located
  simp [makeDirectory, found]

lemma ensureDirectory_of_directory (h : t.leadsToDirectory p = .ok true) : t.ensureDirectory p = (.ok (), t) := by
  simp [ensureDirectory, makeDirectory_of_directory h, acceptDirectory, h]

lemma leadsToDirectory_of_ensureDirectory (h : t.ensureDirectory p = (.ok (), t')) :
    t'.leadsToDirectory p = .ok true := by
  obtain ⟨rfl, directory⟩ | ⟨l, puts⟩ := ensureDirectory_ok h
  · exact directory
  · exact leadsToDirectory_iff.mpr ⟨l, puts.reached, isDirectory_iff.mpr ⟨_, puts.there⟩⟩

/-! ### A directory with those above it -/

/-- The path of a directory from the parts of its name, the last one first. -/
def pathUp (lead : String) (up : List String) : Path := ⟨lead, up.reverse⟩

lemma pathUp_cons (lead name : String) (above : List String) :
    pathUp lead (name :: above) = (pathUp lead above).child name := by
  simp [pathUp, Path.child]

/-- The directories above are made only where they are missing. -/
lemma ensureDirectoriesUp_of_missing (h : t.makeDirectory (pathUp lead (name :: above)) = .error .missing) :
    t.ensureDirectoriesUp lead (name :: above) =
      match t.ensureDirectoriesUp lead above with
      | (.ok _, t) => t.ensureDirectory (pathUp lead (name :: above))
      | (.error e, t) => (.error e, t) := by
  simp only [pathUp] at h
  simp only [ensureDirectoriesUp, h]
  rfl

lemma ensureDirectoriesUp_of_not_missing (h : t.makeDirectory (pathUp lead (name :: above)) ≠ .error .missing) :
    t.ensureDirectoriesUp lead (name :: above) = t.ensureDirectory (pathUp lead (name :: above)) := by
  simp only [pathUp] at h ⊢
  simp only [ensureDirectoriesUp, ensureDirectory]
  split <;> simp_all

/-- What making a directory with those above it can come to: it is made or found at once, those above cannot be
made, or it is made after them. -/
lemma ensureDirectoriesUp_cases {r : Except SystemFault Unit}
    (h : t.ensureDirectoriesUp lead (name :: above) = (r, t')) :
    t.makeDirectory (pathUp lead (name :: above)) ≠ .error .missing ∧
        t.ensureDirectory (pathUp lead (name :: above)) = (r, t') ∨
      t.makeDirectory (pathUp lead (name :: above)) = .error .missing ∧
        ((∃ e, r = .error e ∧ t.ensureDirectoriesUp lead above = (.error e, t')) ∨
          ∃ t'', t.ensureDirectoriesUp lead above = (.ok (), t'') ∧
            t''.ensureDirectory (pathUp lead (name :: above)) = (r, t')) := by
  by_cases missing : t.makeDirectory (pathUp lead (name :: above)) = .error .missing
  · rw [ensureDirectoriesUp_of_missing missing] at h
    split at h
    case h_1 t'' made => exact .inr ⟨missing, .inr ⟨t'', made, h⟩⟩
    case h_2 e t'' failed => cases h; exact .inr ⟨missing, .inl ⟨e, rfl, failed⟩⟩
  · exact .inl ⟨missing, ensureDirectoriesUp_of_not_missing missing ▸ h⟩

lemma leadsToDirectory_of_ensureDirectoriesUp {up : List String} (h : t.ensureDirectoriesUp lead up = (.ok (), t')) :
    t'.leadsToDirectory (pathUp lead up) = .ok true := by
  cases up with
  | nil => exact leadsToDirectory_of_ensureDirectory h
  | cons name above =>
    obtain ⟨-, made⟩ | ⟨-, ⟨e, ⟨⟩, -⟩ | ⟨t'', -, made⟩⟩ := ensureDirectoriesUp_cases h <;>
      exact leadsToDirectory_of_ensureDirectory made

/-- A directory that is there stays as it is. -/
lemma ensureDirectoriesUp_of_directory {up : List String} (h : t.leadsToDirectory (pathUp lead up) = .ok true) :
    t.ensureDirectoriesUp lead up = (.ok (), t) := by
  cases up with
  | nil => exact ensureDirectory_of_directory h
  | cons name above =>
    rw [ensureDirectoriesUp_of_not_missing (by simp [makeDirectory_of_directory h])]
    exact ensureDirectory_of_directory h

lemma leadsToDirectory_above (named : name ≠ "")
    (h : t.ensureDirectory (pathUp lead (name :: above)) = (.ok (), t')) :
    t.leadsToDirectory (pathUp lead above) = .ok true := by
  rw [pathUp_cons] at h
  obtain ⟨purpose, spot, found⟩ := find_of_ensureDirectory h
  exact leadsToDirectory_of_find_child named found

/-- Where directories could not all be made, a second attempt fails too and makes no more of them. -/
lemma ensureDirectoriesUp_error {up : List String} (named : ∀ name ∈ up, name ≠ "")
    (h : t.ensureDirectoriesUp lead up = (.error e, t')) : ∃ e, t'.ensureDirectoriesUp lead up = (.error e, t') := by
  induction up generalizing t t' e with
  | nil =>
    obtain rfl := ensureDirectory_error h
    exact ⟨e, h⟩
  | cons name above ih =>
    obtain ⟨-, failed⟩ | ⟨-, ⟨_, ⟨⟩, failed⟩ | ⟨t'', made, failed⟩⟩ := ensureDirectoriesUp_cases h
    · obtain rfl := ensureDirectory_error failed
      exact ⟨e, h⟩
    · obtain ⟨again, failed⟩ := ih (fun name h => named name (by simp [h])) failed
      by_cases missing : t'.makeDirectory (pathUp lead (name :: above)) = .error .missing
      · exact ⟨again, by rw [ensureDirectoriesUp_of_missing missing, failed]⟩
      · rw [ensureDirectoriesUp_of_not_missing missing]
        rcases hr : t'.ensureDirectory (pathUp lead (name :: above)) with ⟨⟨e⟩ | ⟨⟩, last⟩
        · obtain rfl := ensureDirectory_error hr
          exact ⟨e, rfl⟩
        -- the directory above would be there, and making it would not have failed
        · have directory := leadsToDirectory_above (named name (by simp)) hr
          simp [ensureDirectoriesUp_of_directory directory] at failed
    · obtain rfl := ensureDirectory_error failed
      have again := ensureDirectoriesUp_of_directory (leadsToDirectory_of_ensureDirectoriesUp made)
      by_cases missing : t'.makeDirectory (pathUp lead (name :: above)) = .error .missing
      · exact ⟨e, by rw [ensureDirectoriesUp_of_missing missing, again]; exact failed⟩
      · exact ⟨e, (ensureDirectoriesUp_of_not_missing missing).trans failed⟩

/-- A tree is another with directories more, each of which a path leads to or a path above it. -/
structure Raised (t t' : Tree) (p : Path) : Prop where
  grown : t.Extends t'
  within : t.Rooted → t'.Rooted
  only : ∀ l node, t'.node? l = some node → t.node? l = some node ∨
    node = .directory directoryMode ∧ ∃ parts, parts <+: p.parts ∧ t'.locate ⟨p.lead, parts⟩ = .ok l

lemma Raised.refl (t : Tree) (p : Path) : t.Raised t p := ⟨.refl t, id, fun _ _ there => .inl there⟩

lemma Raised.trans (h : t.Raised t' p) (h' : t'.Raised t'' p) : t.Raised t'' p where
  grown := h.grown.trans h'.grown
  within := h'.within ∘ h.within
  only l node there := by
    rcases h'.only l node there with there | fresh
    · rcases h.only l node there with old | ⟨directory, parts, above, located⟩
      · exact .inl old
      · exact .inr ⟨directory, parts, above, locate_of_extends h'.grown located⟩
    · exact .inr fresh

lemma Raised.child (h : t.Raised t' p) (name : String) : t.Raised t' (p.child name) where
  grown := h.grown
  within := h.within
  only l node there := (h.only l node there).imp_right fun ⟨directory, parts, above, located⟩ =>
    ⟨directory, parts, above.trans (List.prefix_append _ _), located⟩

lemma Puts.raised (h : t.Puts t' p l (.directory directoryMode)) : t.Raised t' p where
  grown := h.extends
  within := h.within
  only _ _ there := (h.only there).imp_right fun ⟨same, directory⟩ =>
    ⟨directory, p.parts, List.prefix_refl _, same ▸ h.reached⟩

lemma ensureDirectory_raised {r : Except SystemFault Unit} (h : t.ensureDirectory p = (r, t')) : t.Raised t' p := by
  cases r with
  | error e => exact ensureDirectory_error h ▸ .refl t p
  | ok =>
    obtain ⟨rfl, -⟩ | ⟨l, puts⟩ := ensureDirectory_ok h
    · exact .refl t' p
    · exact puts.raised

/-- Whether or not all of them can be made, only directories on the way are made. -/
lemma ensureDirectoriesUp_raised {up : List String} {r : Except SystemFault Unit}
    (h : t.ensureDirectoriesUp lead up = (r, t')) : t.Raised t' (pathUp lead up) := by
  induction up generalizing t' r with
  | nil => exact ensureDirectory_raised h
  | cons name above ih =>
    obtain ⟨-, made⟩ | ⟨-, ⟨e, -, failed⟩ | ⟨t'', made, last⟩⟩ := ensureDirectoriesUp_cases h
    · exact ensureDirectory_raised made
    · exact pathUp_cons lead name above ▸ (ih failed).child name
    · exact (pathUp_cons lead name above ▸ (ih made).child name).trans (ensureDirectory_raised last)

/-- A path leads to a directory that was not there before and has nothing in it. -/
def Bare (t t' : Tree) (p : Path) : Prop :=
  ∃ l, t'.locate p = .ok l ∧ t.node? l = none ∧ ∀ name, t'.node? (l ++ [name]) = none

lemma Puts.bare (rooted : t.Rooted) (h : t.Puts t' p l node) : Bare t t' p := by
  refine ⟨l, h.reached, h.free, fun name => ?_⟩
  rw [h.added, node?_add h.free, if_neg (by simp), rooted.free_below h.free]

/-- A path that does not lead upwards leads to a directory that was there, when nothing was made, or to a new one. -/
lemma ensureDirectoriesUp_bare {up : List String} (rooted : t.Rooted)
    (named : ∀ name ∈ up, name ≠ "" ∧ name ≠ "." ∧ name ≠ "..") (h : t.ensureDirectoriesUp lead up = (.ok (), t')) :
    t' = t ∨ Bare t t' (pathUp lead up) := by
  induction up generalizing t' with
  | nil =>
    obtain ⟨rfl, -⟩ | ⟨l, puts⟩ := ensureDirectory_ok h
    · exact .inl rfl
    · exact .inr (puts.bare rooted)
  | cons name above ih =>
    obtain ⟨-, made⟩ | ⟨missing, ⟨_, ⟨⟩, -⟩ | ⟨t'', made, last⟩⟩ := ensureDirectoriesUp_cases h
    · obtain ⟨rfl, -⟩ | ⟨l, puts⟩ := ensureDirectory_ok made
      · exact .inl rfl
      · exact .inr (puts.bare rooted)
    · right
      have raised := ensureDirectoriesUp_raised made
      obtain rfl | ⟨k, located, -, empty⟩ := ih (fun name h => named name (by simp [h])) made
      · simp [ensureDirectory, missing] at last
      obtain ⟨rfl, directory⟩ | ⟨l, puts⟩ := ensureDirectory_ok last
      -- the directory above is new and has nothing in it, so the last one cannot have been there
      · obtain ⟨l, through, -⟩ := leadsToDirectory_iff.mp directory
        rw [pathUp_cons] at through
        exact absurd through (not_locate_child located empty (named name (by simp)))
      · obtain ⟨l, reached, free, empty⟩ := puts.bare (raised.within rooted)
        exact ⟨l, reached, raised.grown.free free, empty⟩

/-! ### The directories of a path -/

lemma pathUp_reverse (p : Path) : pathUp p.lead p.parts.reverse = p := by simp [pathUp]

lemma leadsToDirectory_of_ensureDirectories (h : t.ensureDirectories p = (.ok (), t')) :
    t'.leadsToDirectory p = .ok true := by
  simpa only [pathUp_reverse] using leadsToDirectory_of_ensureDirectoriesUp h

lemma ensureDirectories_of_directory (h : t.leadsToDirectory p = .ok true) : t.ensureDirectories p = (.ok (), t) :=
  ensureDirectoriesUp_of_directory (by rwa [pathUp_reverse])

lemma ensureDirectories_error (named : ∀ name ∈ p.parts, name ≠ "") (h : t.ensureDirectories p = (.error e, t')) :
    ∃ e, t'.ensureDirectories p = (.error e, t') :=
  ensureDirectoriesUp_error (fun name h => named name (List.mem_reverse.mp h)) h

lemma ensureDirectories_raised {r : Except SystemFault Unit} (h : t.ensureDirectories p = (r, t')) :
    t.Raised t' p := by
  simpa only [pathUp_reverse] using ensureDirectoriesUp_raised h

lemma ensureDirectories_bare (rooted : t.Rooted) (named : ∀ name ∈ p.parts, name ≠ "" ∧ name ≠ "." ∧ name ≠ "..")
    (h : t.ensureDirectories p = (.ok (), t')) : t' = t ∨ Bare t t' p := by
  simpa only [pathUp_reverse] using
    ensureDirectoriesUp_bare rooted (fun name h => named name (List.mem_reverse.mp h)) h

/-! ### Files -/

lemma touch_of_located (h : t.locate p = .ok l) : t.touch p mode = (.ok (), t) := by simp [touch, h]

/-- A file cannot be made, or the path leads to something, or the file is made in a free place. -/
lemma touch_cases (t : Tree) (p : Path) (mode : ℕ) :
    (∃ e, t.touch p mode = (.error e, t)) ∨ (∃ l, t.locate p = .ok l ∧ t.touch p mode = (.ok (), t)) ∨
      ∃ parent name, t.find .makeFile p = .ok (.vacant parent name) ∧
        t.touch p mode = (.ok (), t.add (parent ++ [name]) (.file mode "")) := by
  cases located : t.locate p with
  | ok l => exact .inr (.inl ⟨l, rfl, touch_of_located located⟩)
  | error obstacle =>
    rcases found : t.find .makeFile p with e | l | ⟨parent, name⟩
    · exact .inl ⟨fault e p, by simp only [touch, located, found]⟩
    · simp [locate_of_find_makeFile found] at located
    · exact .inr (.inr ⟨parent, name, rfl, by simp only [touch, located, found]⟩)

lemma puts_file {parent : Location} (h : t.find .makeFile p = .ok (.vacant parent name)) (mode : ℕ) (text : String) :
    t.Puts (t.add (parent ++ [name]) (.file mode text)) p (parent ++ [name]) (.file mode text) :=
  puts_of_vacant nofun (.inl rfl) h

/-- Writing a file that was just made does not fail. -/
lemma write_added {parent : Location} (h : t.find .makeFile p = .ok (.vacant parent name)) (mode : ℕ)
    (text : String) :
    (t.add (parent ++ [name]) (.file mode "")).write p text =
      (.ok (), t.add (parent ++ [name]) (.file mode text)) := by
  have puts := puts_file h mode ""
  have file : (t.add (parent ++ [name]) (.file mode "")).isDirectory (parent ++ [name]) = false := by
    simp [isDirectory, puts.there]
  simp [write, puts.reached, file, setText_add puts.free]

end ReplicaWatch.Files.Tree
