import Mathlib
import ReplicaWatch.Proofs.Files.Growth

/-! Following a path step by step. A way says where one is and what is left to follow; a step takes one name or one
link. Main statements: steps do not change what following a path comes to, a path that leads somewhere has steps to
it, and what is followed in a tree is followed in every tree that has its entries and more. -/
namespace ReplicaWatch.Files

/-- Where one is on a path: the links that may still be followed, the location, and the names that are left. -/
structure Way where
  links : ℕ
  here : Location
  names : List String

/-- The same with one name more behind those that are left. -/
def Way.before (c : Way) (name : String) : Way := { c with names := c.names ++ [name] }

/-- A name that an entry of a directory may have. -/
structure Proper (name : String) : Prop where
  nonempty : name ≠ ""
  moves : name ≠ "."
  downward : name ≠ ".."
  short : name.utf8ByteSize ≤ nameLimit

/-- Nothing but slashes behind a name that a file is to have. -/
def Slashed (purpose : Purpose) (rest : List String) : Prop :=
  purpose = .makeFile ∧ rest ≠ [] ∧ ∀ name ∈ rest, name = ""

namespace Tree

/-- A step on a way. The last link is not followed where a directory is to be made. -/
inductive Step (t : Tree) (purpose : Purpose) : Way → Way → Prop
  | stay {links : ℕ} {here : Location} {name : String} {rest : List String} (directory : t.isDirectory here = true)
      (still : name = "" ∨ name = ".") : Step t purpose ⟨links, here, name :: rest⟩ ⟨links, here, rest⟩
  | up {links : ℕ} {here : Location} {rest : List String} (directory : t.isDirectory here = true) :
      Step t purpose ⟨links, here, ".." :: rest⟩ ⟨links, here.dropLast, rest⟩
  | enter {links : ℕ} {here : Location} {name : String} {rest : List String} {node : Node}
      (directory : t.isDirectory here = true) (proper : Proper name) (slashless : ¬Slashed purpose rest)
      (there : t.node? (here ++ [name]) = some node) (solid : ∀ target, node ≠ .link target) :
      Step t purpose ⟨links, here, name :: rest⟩ ⟨links, here ++ [name], rest⟩
  | follow {links : ℕ} {here : Location} {name target : String} {rest : List String}
      (directory : t.isDirectory here = true) (proper : Proper name) (slashless : ¬Slashed purpose rest)
      (there : t.node? (here ++ [name]) = some (.link target)) (followed : purpose = .makeDirectory → rest ≠ []) :
      Step t purpose ⟨links + 1, here, name :: rest⟩ ⟨links, startOf target here, names target ++ rest⟩

/-- Where no step is left on a way that leads somewhere. -/
inductive Ends (t : Tree) (purpose : Purpose) : Way → Spot → Prop
  | arrived {links : ℕ} {here : Location} : Ends t purpose ⟨links, here, []⟩ (.found here)
  | vacant {links : ℕ} {here : Location} {name : String} {rest : List String} (directory : t.isDirectory here = true)
      (proper : Proper name) (slashless : ¬Slashed purpose rest) (free : t.node? (here ++ [name]) = none)
      (blank : ∀ name ∈ rest, name = "") : Ends t purpose ⟨links, here, name :: rest⟩ (.vacant here name)
  | link {links : ℕ} {here : Location} {name target : String} (directory : t.isDirectory here = true)
      (proper : Proper name) (there : t.node? (here ++ [name]) = some (.link target))
        (stopped : purpose = .makeDirectory) :
      Ends t purpose ⟨links, here, [name]⟩ (.found (here ++ [name]))

/-- A way that leads to a spot: steps, and then its end. -/
inductive Leads (t : Tree) (purpose : Purpose) (spot : Spot) : Way → Prop
  | ends {c : Way} (ends : t.Ends purpose c spot) : Leads t purpose spot c
  | head {c c' : Way} (step : t.Step purpose c c') (rest : Leads t purpose spot c') : Leads t purpose spot c

/-- What following the rest of a way comes to. -/
def outcome (t : Tree) (purpose : Purpose) (c : Way) : Except Obstacle Spot := t.walk purpose c.links c.here c.names

section
variable {t t' : Tree} {purpose : Purpose} {c c' : Way} {spot : Spot} {links : ℕ} {here l : Location} {name : String}
  {names : List String} {node : Node}

lemma proper_of_checks (moves : ¬(name = "" || name = ".") = true) (downward : name ≠ "..")
    (short : ¬nameLimit < name.utf8ByteSize) : Proper name := by
  rw [Bool.or_eq_true, decide_eq_true_eq, decide_eq_true_eq, not_or] at moves
  exact ⟨moves.1, moves.2, downward, not_lt.mp short⟩

lemma slashed_iff (purpose : Purpose) (rest : List String) :
    (purpose = .makeFile && !rest.isEmpty && rest.all String.isEmpty) = true ↔ Slashed purpose rest := by
  simp [Slashed, and_assoc]

/-- Only where a file is to be made does a slash behind its name matter. -/
lemma not_slashed_inspect (rest : List String) : ¬Slashed .inspect rest := fun h => absurd h.1 (by decide)

/-- What following a path comes to at a name that an entry may have. -/
def atName (t : Tree) (purpose : Purpose) (links : ℕ) (here : Location) (name : String) (rest : List String) :
    Option Node → Except Obstacle Spot
  | none => if rest.all String.isEmpty then .ok (.vacant here name) else .error .missing
  | some (.link target) =>
    if purpose = .makeDirectory && rest.isEmpty then .ok (.found (here ++ [name]))
    else
      match links with
      | 0 => .error .tooManyLinks
      | links + 1 => t.walk purpose links (startOf target here) (Files.names target ++ rest)
  | some _ => t.walk purpose links (here ++ [name]) rest

lemma walk_proper (directory : t.isDirectory here = true) (proper : Proper name)
    (slashless : ¬Slashed purpose names) :
    t.walk purpose links here (name :: names) =
      t.atName purpose links here name names (t.node? (here ++ [name])) := by
  rw [← slashed_iff] at slashless
  rw [walk]
  simp only [directory, proper.nonempty, proper.moves, proper.downward, slashless, proper.short.not_gt, Bool.not_true,
    Bool.false_eq_true, decide_false, Bool.or_false, if_false]
  rcases t.node? (here ++ [name]) with _ | _ | _ | _ <;> rfl

lemma outcome_step (h : t.Step purpose c c') : t.outcome purpose c = t.outcome purpose c' := by
  cases h with
  | stay directory still =>
    simp only [outcome]
    rw [walk]
    simp [directory, still]
  | up directory =>
    simp only [outcome]
    rw [walk]
    simp [directory]
  | @enter links here name rest node directory proper slashless there solid =>
    simp only [outcome, walk_proper directory proper slashless, there]
    cases node with
    | link target => exact absurd rfl (solid target)
    | _ => rfl
  | follow directory proper slashless there followed =>
    simp only [outcome, walk_proper directory proper slashless, there, atName, List.isEmpty_iff, Bool.and_eq_true,
      decide_eq_true_eq]
    rw [if_neg fun stop => followed stop.1 stop.2]

lemma outcome_of_ends (h : t.Ends purpose c spot) : t.outcome purpose c = .ok spot := by
  cases h with
  | arrived => simp [outcome, walk]
  | vacant directory proper slashless free blank =>
    simp only [outcome, walk_proper directory proper slashless, free, atName]
    rw [if_pos (by simpa using blank)]
  | link directory proper there stopped =>
    have slashless : ¬Slashed purpose [] := fun h => h.2.1 rfl
    simp only [outcome, walk_proper directory proper slashless, there, atName]
    simp [stopped]

/-- Following a path comes to a spot exactly when there are steps to it. -/
lemma outcome_iff_leads : t.outcome purpose c = .ok spot ↔ t.Leads purpose spot c := by
  constructor
  case mpr =>
    intro h
    induction h with
    | ends ends => exact outcome_of_ends ends
    | head step _ ih => exact (outcome_step step).trans ih
  intro h
  obtain ⟨links, here, names⟩ := c
  simp only [outcome] at h
  fun_induction walk t purpose links here names with
  | case1 links here => cases h; exact .ends .arrived
  | case2 | case5 | case6 | case8 | case10 => cases h
  | case3 links here name rest directory still ih =>
    exact .head (.stay (by simpa using directory) (by simpa using still)) (ih h)
  | case4 links here rest directory moves ih => exact .head (.up (by simpa using directory)) (ih h)
  | case7 links here name rest directory moves downward slashless short free blank =>
    cases h
    exact .ends (.vacant (by simpa using directory) (proper_of_checks moves downward short)
      (mt (slashed_iff purpose rest).mpr slashless) free (by simpa using blank))
  | case9 links here name rest directory moves downward slashless short target there stop =>
    cases h
    rw [Bool.and_eq_true, decide_eq_true_eq, List.isEmpty_iff] at stop
    obtain ⟨stopped, rfl⟩ := stop
    exact .ends (.link (by simpa using directory) (proper_of_checks moves downward short) there stopped)
  | case11 here name rest directory moves downward slashless short target there follow links ih =>
    rw [Bool.and_eq_true, decide_eq_true_eq, List.isEmpty_iff] at follow
    exact .head (.follow (by simpa using directory) (proper_of_checks moves downward short)
      (mt (slashed_iff purpose rest).mpr slashless) there fun stopped last => follow ⟨stopped, last⟩) (ih h)
  | case12 links here name rest directory moves downward slashless short node solid there ih =>
    exact .head (.enter (by simpa using directory) (proper_of_checks moves downward short)
      (mt (slashed_iff purpose rest).mpr slashless) there solid) (ih h)

lemma Step.inspect (h : t.Step purpose c c') : t.Step .inspect c c' := by
  cases h with
  | stay directory still => exact .stay directory still
  | up directory => exact .up directory
  | enter directory proper _ there solid => exact .enter directory proper (not_slashed_inspect _) there solid
  | follow directory proper _ there _ => exact .follow directory proper (not_slashed_inspect _) there (by simp)

lemma Step.mono (grown : t.Extends t') (h : t.Step purpose c c') : t'.Step purpose c c' := by
  cases h with
  | stay directory still => exact .stay (grown.isDirectory directory) still
  | up directory => exact .up (grown.isDirectory directory)
  | enter directory proper slashless there solid =>
    exact .enter (grown.isDirectory directory) proper slashless (grown _ _ there) solid
  | follow directory proper slashless there followed =>
    exact .follow (grown.isDirectory directory) proper slashless (grown _ _ there) followed

/-- With a name behind, a link is never the last and a file's name has no slash at its end. -/
lemma Step.before (h : t.Step .inspect c c') (hname : name ≠ "") :
    t.Step purpose (c.before name) (c'.before name) := by
  have slashless (rest : List String) : ¬Slashed purpose (rest ++ [name]) := fun h => hname (h.2.2 name (by simp))
  cases h with
  | stay directory still => exact .stay directory still
  | up directory => exact .up directory
  | enter directory proper _ there solid => exact .enter directory proper (slashless _) there solid
  | @follow _ _ _ target rest directory proper _ there _ =>
    simp only [Way.before, List.append_assoc]
    exact .follow directory proper (slashless _) there fun _ => by simp

/-- A step before a name is a step without it, unless only the name was left. -/
lemma Step.of_before (h : t.Step purpose (c.before name) c') :
    t.isDirectory c.here = true ∧ c.names = [] ∨ ∃ d, c' = d.before name ∧ t.Step .inspect c d := by
  obtain ⟨links, here, names⟩ := c
  cases names with
  | nil => left; cases h <;> exact ⟨‹_›, rfl⟩
  | cons first names =>
    right
    cases h.inspect with
    | stay directory still => exact ⟨⟨links, here, names⟩, rfl, .stay directory still⟩
    | up directory => exact ⟨⟨links, here.dropLast, names⟩, rfl, .up directory⟩
    | enter directory proper slashless there solid =>
      exact ⟨⟨links, here ++ [first], names⟩, rfl, .enter directory proper (fun h => nomatch h.1) there solid⟩
    | @follow links _ _ target _ directory proper slashless there followed =>
      exact ⟨⟨links, startOf target here, Files.names target ++ names⟩, by simp [Way.before],
        .follow directory proper (fun h => nomatch h.1) there nofun⟩

/-- A way with a name behind can only end at this name. -/
lemma Ends.of_before (hname : name ≠ "") (h : t.Ends purpose (c.before name) spot) :
    t.isDirectory c.here = true ∧ c.names = [] := by
  obtain ⟨links, here, names⟩ := c
  cases names with
  | nil => cases h <;> exact ⟨‹_›, rfl⟩
  | cons first names =>
    generalize hrest : names ++ [name] = rest at h
    simp only [Way.before, List.cons_append, hrest] at h
    cases h with
    | vacant directory proper slashless free blank => exact absurd (blank name (by simp [← hrest])) hname
    | link => simp at hrest

lemma Step.makeDirectory (h : t.Step .inspect c c') :
    t.Step .makeDirectory c c' ∨ ∃ l, t.Ends .makeDirectory c (.found l) := by
  have slashless (rest : List String) : ¬Slashed .makeDirectory rest := fun h => nomatch h.1
  cases h with
  | stay directory still => exact .inl (.stay directory still)
  | up directory => exact .inl (.up directory)
  | enter directory proper _ there solid => exact .inl (.enter directory proper (slashless _) there solid)
  | @follow _ _ _ _ rest directory proper _ there _ =>
    by_cases last : rest = []
    · subst last
      exact .inr ⟨_, .link directory proper there rfl⟩
    · exact .inl (.follow directory proper (slashless _) there fun _ => last)

lemma Step.there (rooted : t.Rooted) (h : t.Step purpose c c') (there : t.node? c.here ≠ none) :
    t.node? c'.here ≠ none := by
  cases h with
  | stay directory still => exact there
  | @up _ here _ directory =>
    rcases List.eq_nil_or_concat here with rfl | ⟨above, last, rfl⟩
    · simp
    · obtain ⟨mode, above_there⟩ := isDirectory_iff.mp (rooted above last (by simpa using there))
      simp [above_there]
  | enter directory proper slashless found solid => simp [found]
  | @follow _ here _ target _ directory proper slashless found followed =>
    simp only [startOf]
    split
    · simp
    · exact there

/-! ### Whole ways -/

lemma Leads.arrived (h : c.names = []) : t.Leads purpose (.found c.here) c := by
  obtain ⟨links, here, names⟩ := c
  subst h
  exact .ends .arrived

lemma Leads.found_of_extends (grown : t.Extends t') (direct : purpose ≠ .makeDirectory)
    (h : t.Leads purpose (.found l) c) : t'.Leads .inspect (.found l) c := by
  induction h with
  | ends ends =>
    cases ends with
    | arrived => exact .ends .arrived
    | link _ _ _ stopped => exact absurd stopped direct
  | head step _ ih => exact .head (step.mono grown).inspect ih

/-- Slashes at the end of a path to a directory lead to the directory. -/
lemma Leads.blank (directory : t.isDirectory here = true) (blank : ∀ name ∈ names, name = "") :
    t.Leads .inspect (.found here) ⟨links, here, names⟩ := by
  induction names with
  | nil => exact .ends .arrived
  | cons name names ih =>
    exact .head (.stay directory (.inl (blank name (by simp)))) (ih fun name h => blank name (by simp [h]))

/-- Once something is put in a free place, the path to the place leads to it. -/
lemma Leads.found_of_vacant (grown : t.Extends t') (there : t'.node? (here ++ [name]) = some node)
    (solid : ∀ target, node ≠ .link target) (place : purpose = .makeFile ∨ t'.isDirectory (here ++ [name]) = true)
    (h : t.Leads purpose (.vacant here name) c) : t'.Leads .inspect (.found (here ++ [name])) c := by
  induction h with
  | ends ends =>
    cases ends with
    | @vacant _ _ _ rest directory proper slashless _ blank =>
      refine .head (.enter (grown.isDirectory directory) proper (fun h => nomatch h.1) there solid) ?_
      rcases place with made | directory
      · have last : rest = [] := by
          by_contra more
          exact slashless ⟨made, more, blank⟩
        subst last
        exact .ends .arrived
      · exact .blank directory blank
  | head step _ ih => exact .head (step.mono grown).inspect ih

lemma Leads.free (h : t.Leads purpose (.vacant here name) c) :
    t.isDirectory here = true ∧ t.node? (here ++ [name]) = none := by
  induction h with
  | ends ends =>
    cases ends with
    | vacant directory _ _ free _ => exact ⟨directory, free⟩
  | head _ _ ih => exact ih

/-- What a name behind a path comes to is what it comes to where the path leads. -/
lemma Leads.outcome_before (h : t.Leads .inspect (.found l) c) :
    ∃ links, ∀ purpose name, name ≠ "" →
      t.outcome purpose (c.before name) = t.outcome purpose ⟨links, l, [name]⟩ := by
  induction h with
  | ends ends =>
    cases ends with
    | @arrived links => exact ⟨links, fun purpose name _ => rfl⟩
    | link _ _ _ stopped => cases stopped
  | head step _ ih =>
    obtain ⟨links, behind⟩ := ih
    exact ⟨links, fun purpose name hname => (outcome_step (step.before hname)).trans (behind purpose name hname)⟩

/-- A path before a name that leads somewhere leads to a directory. -/
lemma Leads.of_before (hname : name ≠ "") (h : t.Leads purpose spot (c.before name)) :
    ∃ l, t.Leads .inspect (.found l) c ∧ t.isDirectory l = true := by
  generalize hd : c.before name = d at h
  induction h generalizing c with
  | ends ends =>
    subst hd
    obtain ⟨directory, arrived⟩ := ends.of_before hname
    exact ⟨c.here, .arrived arrived, directory⟩
  | head step _ ih =>
    subst hd
    rcases step.of_before with ⟨directory, arrived⟩ | ⟨d, rfl, step'⟩
    · exact ⟨c.here, .arrived arrived, directory⟩
    · obtain ⟨l, leads, directory⟩ := ih rfl
      exact ⟨l, .head step' leads, directory⟩

/-- Where there is something, a directory cannot be made. -/
lemma Leads.makeDirectory (h : t.Leads .inspect (.found l) c) : ∃ l, t.Leads .makeDirectory (.found l) c := by
  induction h with
  | ends ends =>
    cases ends with
    | arrived => exact ⟨_, .ends .arrived⟩
    | link _ _ _ stopped => cases stopped
  | head step _ ih =>
    rcases step.makeDirectory with step | ⟨l, ends⟩
    · obtain ⟨l, leads⟩ := ih
      exact ⟨l, .head step leads⟩
    · exact ⟨l, .ends ends⟩

/-- Where a path leads there is an entry. -/
lemma Leads.there (rooted : t.Rooted) (start : t.node? c.here ≠ none) (h : t.Leads purpose (.found l) c) :
    t.node? l ≠ none := by
  induction h with
  | ends ends =>
    cases ends with
    | arrived => exact start
    | link _ _ there _ => simp [there]
  | head step _ ih => exact ih (step.there rooted start)

end

end Tree
end ReplicaWatch.Files
