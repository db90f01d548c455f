import Mathlib
import ReplicaWatch.Proofs.ConfigSetup
import ReplicaWatch.Proofs.Refinement

/-! What can go wrong when the configuration directory is set up. Main statement: every failure names the root or
one of its two files and makes the operator give up, with one exception: where a name on the way to the
configuration file is too long, the question whether the file is there fails, and that failure is passed on as it
is. -/
namespace ReplicaWatch

namespace Files.Tree

/-- A way on which a name is met that is too long for an entry. -/
inductive Overlong (t : Tree) : Way → Prop
  | name {links : ℕ} {here : Location} {name : String} {rest : List String} (directory : t.isDirectory here = true)
      (long : nameLimit < name.utf8ByteSize) : t.Overlong ⟨links, here, name :: rest⟩
  | head {c c' : Way} (step : t.Step .inspect c c') (rest : t.Overlong c') : t.Overlong c

/-- A path that cannot be followed for its length or for that of a name on its way. -/
def TooLong (t : Tree) (p : Path) : Prop := ¬p.Fits ∨ t.Overlong p.way

variable {t : Tree} {p : Path} {c : Way}

lemma outcome_of_long {links : ℕ} {here : Location} {name : String} {rest : List String}
    (directory : t.isDirectory here = true) (long : nameLimit < name.utf8ByteSize) :
    t.outcome .inspect ⟨links, here, name :: rest⟩ = .error .nameTooLong := by
  have limit : nameLimit = 255 := rfl
  have stays : ¬(name = "" || name = ".") = true := by
    rw [Bool.or_eq_true, decide_eq_true_eq, decide_eq_true_eq]
    rintro (rfl | rfl) <;> exact absurd long (by decide)
  have downward : name ≠ ".." := by
    rintro rfl
    exact absurd long (by decide)
  rw [outcome, walk, if_neg (by simp [directory]), if_neg stays, if_neg downward, if_neg (by simp), if_pos long]

lemma outcome_of_overlong (h : t.Overlong c) : t.outcome .inspect c = .error .nameTooLong := by
  induction h with
  | name directory long => exact outcome_of_long directory long
  | head step _ ih => exact (outcome_step step).trans ih

/-- When a path is only looked at, all that can be in its way means that there is nothing, except for a name that is
too long. -/
lemma absent_or_overlong {e : Obstacle} (h : t.outcome .inspect c = .error e) :
    meansAbsence e = true ∨ e = .nameTooLong ∧ t.Overlong c := by
  obtain ⟨links, here, names⟩ := c
  simp only [outcome] at h
  generalize looking : Purpose.inspect = purpose at h
  fun_induction walk t purpose links here names with
  | case1 | case7 => cases h
  | case2 | case8 | case10 => cases h; exact .inl rfl
  | case5 links here name rest directory moves downward slashed => simp [← looking] at slashed
  | case9 links here name rest directory moves downward slashless short target there stopped =>
    simp [← looking] at stopped
  | case6 links here name rest directory moves downward slashless long =>
    cases h
    exact .inr ⟨rfl, .name (by simpa using directory) long⟩
  | case3 links here name rest directory still ih =>
    exact (ih h).imp_right (And.imp_right (.head (.stay (by simpa using directory) (by simpa using still))))
  | case4 links here rest directory moves ih =>
    exact (ih h).imp_right (And.imp_right (.head (.up (by simpa using directory))))
  | case11 here name rest directory moves downward slashless short target there followed links ih =>
    exact (ih h).imp_right (And.imp_right (.head (.follow (by simpa using directory)
      (proper_of_checks moves downward short) (not_slashed_inspect rest) there (by simp))))
  | case12 links here name rest directory moves downward slashless short node solid there ih =>
    exact (ih h).imp_right (And.imp_right (.head (.enter (by simpa using directory)
      (proper_of_checks moves downward short) (not_slashed_inspect rest) there solid)))

lemma locate_of_tooLong (h : t.TooLong p) : t.locate p = .error .nameTooLong := by
  by_cases fits : p.Fits
  · have overlong : t.outcome .inspect p.way = .error .nameTooLong :=
      outcome_of_overlong (h.resolve_left (not_not.mpr fits))
    simp only [locate, find_of_fits fits, overlong]
  · simp only [locate, find, if_pos (not_le.mp fits)]

lemma absent_or_tooLong {e : Obstacle} (h : t.locate p = .error e) : meansAbsence e = true ∨ t.TooLong p := by
  by_cases fits : p.Fits
  · simp only [locate, find_of_fits fits] at h
    rcases followed : t.outcome .inspect p.way with e' | l | ⟨parent, name⟩
    · rw [followed] at h
      cases h
      exact (absent_or_overlong followed).imp_right fun long => .inr long.2
    · simp [followed] at h
    · rw [followed] at h
      cases h
      exact .inl rfl
  · exact .inr (.inl fits)

/-- Asking whether there is something at the end of a path fails when the path is too long, and only then. -/
lemma leadsSomewhere_of_tooLong (h : t.TooLong p) : t.leadsSomewhere p = .error (fault .nameTooLong p) := by
  simp only [leadsSomewhere, locate_of_tooLong h]
  rfl

lemma leadsSomewhere_of_not_tooLong (h : ¬t.TooLong p) : ∃ there, t.leadsSomewhere p = .ok there := by
  cases located : t.locate p with
  | ok l => exact ⟨true, by simp only [leadsSomewhere, located]⟩
  | error e =>
    have absent : meansAbsence e = true := (absent_or_tooLong located).resolve_right h
    exact ⟨false, by simp only [leadsSomewhere, located, absent, if_true]⟩

end Files.Tree

namespace CephConfig

open Files

variable {t : Tree} {p : Path} {root : String}

/-- What setting up a root is to come to: the path of its configuration file, or a failure that names the root or
one of its two files. -/
inductive Expected (root : Path) : Except Failure String → Prop
  | returned : Expected root (.ok (configPath root).text)
  | unmade {p : Path} (about : p ∈ [root, configPath root, keyringPath root]) (e : SystemFault) :
      Expected root (.error (failed p e))

/-- The directories of a root can be made, and then the path of its configuration file is too long to be followed. -/
def ConfigTooLong (t : Tree) (root : Path) : Prop :=
  ∃ t', t.ensureDirectories root = (.ok (), t') ∧ t'.TooLong (configPath root)

lemma ensureKeyring_expected (t : Tree) (p : Path) (logged : List String) :
    Expected p (ensureKeyring t p logged).result := by
  simp only [ensureKeyring]
  split
  · exact .returned
  · exact .unmade (by simp) _

lemma ensureFiles_of_tooLong (h : t.TooLong (configPath p)) :
    (ensureFiles t p).result = .error (.system (fault .nameTooLong (configPath p))) := by
  simp only [ensureFiles, Tree.leadsSomewhere_of_tooLong h]

lemma ensureFiles_expected (h : ¬t.TooLong (configPath p)) : Expected p (ensureFiles t p).result := by
  obtain ⟨there, asked⟩ := Tree.leadsSomewhere_of_not_tooLong h
  simp only [ensureFiles, asked]
  cases there with
  | true => exact ensureKeyring_expected t p []
  | false =>
    rcases create t (configPath p) content with ⟨e | _, t'⟩
    · exact .unmade (by simp) e
    · exact ensureKeyring_expected t' p _

lemma ensure_of_configTooLong (clean : ¬root.toList.contains '\x00') (h : ConfigTooLong t (Path.ofString root)) :
    (ensure t root).result = .error (.system (fault .nameTooLong (configPath (Path.ofString root)))) := by
  obtain ⟨t', made, long⟩ := h
  rw [ensure_of_made clean made, ensureFiles_of_tooLong long]

lemma ensure_expected (clean : ¬root.toList.contains '\x00') (h : ¬ConfigTooLong t (Path.ofString root)) :
    Expected (Path.ofString root) (ensure t root).result := by
  rcases made : t.ensureDirectories (Path.ofString root) with ⟨e | _, t'⟩
  · rw [ensure_of_unmade clean made]
    exact .unmade (by simp) e
  · rw [ensure_of_made clean made]
    exact ensureFiles_expected fun long => h ⟨t', made, long⟩

end CephConfig

namespace Operator

/-- What a start comes to when setting up the configuration directory came to a result. -/
def starting : Except Failure String → Except Failure Unit
  | .ok _ => .ok ()
  | .error (.cache e) => .error (.giveUp e.message e)
  | .error e => .error e

lemma start_eq_starting (o : Operator) :
    o.start.1 = starting (CephConfig.ensure o.tree o.settings.configRoot).result := by
  simp only [start, Cache.build]
  generalize CephConfig.ensure o.tree o.settings.configRoot = setting
  obtain ⟨result, tree, logged⟩ := setting
  rcases result with e | path
  · cases e <;> rfl
  · rfl

end Operator

namespace CephConfig

open Files

/-- Setting up a root returns the path of its configuration file or fails for the root or one of its files, and the
operator then starts or gives up for good. The one exception is a path to the configuration file that is too long to
be followed: the fault of the question whether there is such a file gets through to the caller, and the operator
passes it on. -/
theorem setup_failures_foreseen (root : String) (clean : ¬root.toList.contains '\x00') (t : Tree) :
    let p := Path.ofString root
    let overlong : Failure := .system (fault .nameTooLong (configPath p))
    (¬ConfigTooLong t p → Expected p (ensure t root).result) ∧
    (ConfigTooLong t p → (ensure t root).result = .error overlong) ∧
    ∀ o : Operator, o.tree = t → o.settings.configRoot = root →
      (∀ path, (ensure t root).result = .ok path → o.start.1 = .ok ()) ∧
      (∀ (q : Path) (e : SystemFault), (ensure t root).result = .error (failed q e) →
        let cause := CacheFailure.bootstrap q.text e.message
        o.start.1 = .error (.giveUp cause.message cause)) ∧
      (ConfigTooLong t p → o.start.1 = .error overlong) := by
  refine ⟨ensure_expected clean, ensure_of_configTooLong clean, ?_⟩
  rintro o rfl rfl
  rw [o.start_eq_starting]
  refine ⟨fun path returned => ?_, fun q e unmade => ?_, fun long => ?_⟩
  · rw [returned]
    rfl
  · rw [unmade]
    rfl
  · rw [ensure_of_configTooLong clean long]
    rfl

theorem obstructed_setup_foreseen :
    Sample.obstructed.start.1 = .error (.giveUp
      "Failed to initialize Ceph config at ceph: [Errno 17] File exists: 'ceph'"
      (.bootstrap "ceph" "[Errno 17] File exists: 'ceph'")) := by
  obtain ⟨-, -, started⟩ := setup_failures_foreseen "ceph" (by decide) Sample.obstructed.tree
  have unmade : (ensure Sample.obstructed.tree "ceph").result =
      .error (failed (Path.ofString "ceph") ⟨17, "ceph"⟩) := by
    cbv
  exact (started Sample.obstructed rfl rfl).2.1 _ _ unmade

/-- A directory in which the configuration file is a link. -/
def linkedTo (target : String) : Tree :=
  ⟨[(["ceph"], .directory 0o755), (["ceph", "ceph.conf"], .link target)]⟩

lemma linkedTo_tooLong {target : String} (name : '/' ∉ target.toList) (long : nameLimit < target.utf8ByteSize) :
    ConfigTooLong (linkedTo target) (Path.ofString "ceph") := by
  have directory : (linkedTo target).isDirectory ["ceph"] = true := rfl
  have properDirectory : Proper "ceph" := ⟨by decide, by decide, by decide, by decide⟩
  have properFile : Proper "ceph.conf" := ⟨by decide, by decide, by decide, by decide⟩
  have way : (configPath (Path.ofString "ceph")).way = ⟨linkLimit, [], ["ceph", "ceph.conf"]⟩ := by
    rw [Path.way, Way.mk.injEq]
    exact ⟨rfl, rfl, by decide +kernel⟩
  have alone : names target = [target] := by
    rw [names, split_of_absent name, List.map_singleton, String.ofList_toList]
  have start : (linkedTo target).isDirectory (startOf target ["ceph"]) = true := by
    rw [startOf]
    split <;> rfl
  refine ⟨linkedTo target, by cbv, .inr ?_⟩
  rw [way]
  refine .head (.enter rfl properDirectory (Tree.not_slashed_inspect _) rfl (by simp)) ?_
  refine .head (.follow directory properFile (Tree.not_slashed_inspect _) rfl (by simp)) ?_
  rw [alone]
  exact .name start long

lemma size_replicate (n : ℕ) : (String.ofList (List.replicate n 'a')).utf8ByteSize = n := by
  rw [String.utf8ByteSize_ofList]
  induction n with
  | zero => rfl
  | succ n ih => rw [List.replicate_succ, String.utf8Len_cons, ih]; rfl

theorem overlong_link_escapes :
    let t := linkedTo (String.ofList (List.replicate 256 'a'))
    (ensure t "ceph").result = .error (.system ⟨36, "ceph/ceph.conf"⟩) ∧
      ¬Expected (Path.ofString "ceph") (ensure t "ceph").result ∧
      ∀ o : Operator, o.tree = t → o.settings.configRoot = "ceph" →
        ∀ message cause, o.start.1 ≠ .error (.giveUp message cause) := by
  intro t
  have name : '/' ∉ (String.ofList (List.replicate 256 'a')).toList := by
    rw [String.toList_ofList]
    exact fun h => absurd (List.eq_of_mem_replicate h) (by decide)
  have escapes : (ensure t "ceph").result = .error (.system ⟨36, "ceph/ceph.conf"⟩) :=
    ensure_of_configTooLong (by decide) (linkedTo_tooLong name (by rw [size_replicate]; decide))
  refine ⟨escapes, ?_, ?_⟩
  · rw [escapes]
    nofun
  · intro o tree root message cause
    rw [o.start_eq_starting, tree, root, escapes]
    simp [Operator.starting]

end CephConfig
end ReplicaWatch
