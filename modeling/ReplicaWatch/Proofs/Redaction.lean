import Mathlib
import ReplicaWatch.Command.Memory

/-! What command lines for logs hide. Main statement: they hide exactly the arguments right behind `--key`, the
lists that they are made from stay as they are, and arguments that differ in their keys alone make the same line. -/
namespace ReplicaWatch.Command

/-- An argument stands right behind `--key`. -/
def FollowsKey (args : List String) (i : ℕ) : Prop := 1 ≤ i ∧ args[i - 1]? = some keyOption

instance (args : List String) (i : ℕ) : Decidable (FollowsKey args i) :=
  inferInstanceAs (Decidable (1 ≤ i ∧ args[i - 1]? = some keyOption))

/-- The arguments, those up to a place as logs show them and the others as they are. -/
def hiddenUpTo (n : ℕ) (args : List String) : List String :=
  args.mapIdx fun i arg => if i ≤ n ∧ FollowsKey args i then hidden else arg

section
variable {arg : String} {args : List String} {i n : ℕ}

lemma not_followsKey_zero : ¬FollowsKey args 0 := by simp [FollowsKey]

lemma followsKey_succ : FollowsKey args (i + 1) ↔ args[i]? = some keyOption := by simp [FollowsKey]

lemma followsKey_cons : FollowsKey (arg :: args) (i + 1) ↔ i = 0 ∧ arg = keyOption ∨ FollowsKey args i := by
  cases i with
  | zero => simp [FollowsKey]
  | succ i => simp [FollowsKey]

lemma hideAfter_eq (secret : Bool) (args : List String) : hideAfter secret args =
    args.mapIdx fun i arg => if i = 0 ∧ secret = true ∨ FollowsKey args i then hidden else arg := by
  induction args generalizing secret with
  | nil => rfl
  | cons arg args ih =>
    rw [hideAfter, ih, List.mapIdx_cons]
    simp [followsKey_cons, not_followsKey_zero]

/-- Exactly the arguments behind `--key` are hidden. -/
lemma redacted_eq (args : List String) :
    redacted args = args.mapIdx fun i arg => if FollowsKey args i then hidden else arg := by
  simp [redacted, hideAfter_eq]

/-! ## The scan in place -/

lemma hiddenUpTo_zero (args : List String) : hiddenUpTo 0 args = args := by
  apply List.ext_getElem
  · simp [hiddenUpTo]
  · intro i _ _
    simp only [hiddenUpTo, List.getElem_mapIdx, ite_eq_right_iff]
    rintro ⟨first, follows⟩
    obtain rfl : i = 0 := Nat.le_zero.mp first
    exact absurd follows not_followsKey_zero

lemma hiddenUpTo_last (long : args.length ≤ n + 1) : hiddenUpTo n args = redacted args := by
  rw [redacted_eq]
  apply List.ext_getElem
  · simp [hiddenUpTo]
  · intro i bound _
    have reached : i ≤ n := by
      simp only [hiddenUpTo, List.length_mapIdx] at bound
      omega
    simp [hiddenUpTo, reached]

/-- The next argument is overwritten if the one before it, as it was given, is `--key`. -/
lemma hiddenUpTo_succ (n : ℕ) (args : List String) : hiddenUpTo (n + 1) args =
    if args[n]? = some keyOption then (hiddenUpTo n args).set (n + 1) hidden else hiddenUpTo n args := by
  have same {i : ℕ} (other : i ≠ n + 1) : i ≤ n + 1 ↔ i ≤ n := by omega
  split
  · next key =>
    apply List.ext_getElem
    · simp [hiddenUpTo]
    · intro i _ _
      by_cases next : i = n + 1
      · subst next
        simp [hiddenUpTo, followsKey_succ, key]
      · simp [hiddenUpTo, List.getElem_set_ne (Ne.symm next), same next]
  · next other =>
    apply List.ext_getElem
    · simp [hiddenUpTo]
    · intro i _ _
      by_cases next : i = n + 1
      · subst next
        simp [hiddenUpTo, followsKey_succ, other]
      · simp [hiddenUpTo, same next]

lemma read_copy (m : Memory) (a b : List String) : Memory.read (m ++ [a, b]) m.length = a := by
  simp [Memory.read]

lemma read_scanned (m : Memory) (a b : List String) : Memory.read (m ++ [a, b]) (m.length + 1) = b := by
  simp [Memory.read]

lemma write_copy (m : Memory) (a b : List String) (i : ℕ) (arg : String) :
    Memory.write (m ++ [a, b]) m.length i arg = m ++ [a.set i arg, b] := by
  induction m with
  | nil => rfl
  | cons args m ih => simpa [Memory.write] using ih

/-- The list that is scanned is never written to, so that each round looks at the argument that was given. -/
lemma hideNext_eq (m : Memory) (inner : n + 1 < args.length) :
    hideNext (m.length + 1) m.length (m ++ [hiddenUpTo n args, args.dropLast]) n =
      m ++ [hiddenUpTo (n + 1) args, args.dropLast] := by
  have scanned : args.dropLast[n]? = args[n]? := by
    rw [List.getElem?_dropLast, if_pos (by omega)]
  rw [hideNext, read_scanned, scanned, hiddenUpTo_succ]
  split
  · rw [write_copy]
  · rfl

lemma scan_eq (m : Memory) (bound : n + 1 ≤ args.length) :
    (List.range n).foldl (hideNext (m.length + 1) m.length) (m ++ [args, args.dropLast]) =
      m ++ [hiddenUpTo n args, args.dropLast] := by
  induction n with
  | zero => rw [List.range_zero, List.foldl_nil, hiddenUpTo_zero]
  | succ n ih => rw [List.range_succ, List.foldl_append, ih (by omega), List.foldl_cons, List.foldl_nil,
      hideNext_eq m bound]

lemma render_eq (m : Memory) (place : ℕ) : render m place =
    (line (m.read place), m ++ [redacted (m.read place), (m.read place).dropLast]) := by
  generalize given : m.read place = args
  have scanned : (List.range args.dropLast.length).foldl (hideNext (m.length + 1) m.length)
      (m ++ [args, args.dropLast]) = m ++ [redacted args, args.dropLast] := by
    cases args with
    | nil => rfl
    -- All but the last argument are scanned, so that none is looked at that nothing follows.
    | cons arg args => rw [scan_eq m (by simp), hiddenUpTo_last (by simp)]
  have copied : Memory.read (m ++ [args]) m.length = args := by simp [Memory.read]
  simp only [render, Memory.allocate, given, List.length_append, List.length_singleton, copied, List.append_assoc,
    List.singleton_append, read_scanned, scanned, read_copy, line]

/-! ## Keys that differ -/

/-- Arguments that differ at most right behind `--key`, where neither has another `--key`. -/
structure DifferInKeys (args args' : List String) : Prop where
  length_eq : args.length = args'.length
  agree : ∀ i, ¬FollowsKey args i → ¬FollowsKey args' i → args[i]? = args'[i]?
  keys : ∀ i, FollowsKey args i → args[i]? ≠ some keyOption
  keys' : ∀ i, FollowsKey args' i → args'[i]? ≠ some keyOption

section
variable {args' : List String}

/-- From left to right, `--key` stands at the same places: behind one of them at neither, and elsewhere they agree. -/
lemma DifferInKeys.followsKey_iff (h : DifferInKeys args args') (i : ℕ) : FollowsKey args i ↔ FollowsKey args' i := by
  induction i with
  | zero => simp [not_followsKey_zero]
  | succ i ih =>
    rw [followsKey_succ, followsKey_succ]
    by_cases follows : FollowsKey args i
    · exact iff_of_false (h.keys i follows) (h.keys' i (ih.mp follows))
    · rw [h.agree i follows (ih.not.mp follows)]

lemma DifferInKeys.redacted_eq (h : DifferInKeys args args') : redacted args = redacted args' := by
  rw [Command.redacted_eq, Command.redacted_eq]
  apply List.ext_getElem
  · simpa using h.length_eq
  · intro i bound bound'
    rw [List.length_mapIdx] at bound bound'
    rw [List.getElem_mapIdx, List.getElem_mapIdx]
    by_cases follows : FollowsKey args i
    · rw [if_pos follows, if_pos ((h.followsKey_iff i).mp follows)]
    · have follows' : ¬FollowsKey args' i := (h.followsKey_iff i).not.mp follows
      have agree := h.agree i follows follows'
      rw [List.getElem?_eq_getElem bound, List.getElem?_eq_getElem bound', Option.some_inj] at agree
      rw [if_neg follows, if_neg follows', agree]

end
end

/-- A command line for logs shows the arguments with exactly those hidden that stand right behind `--key`, whether
or not these are `--key` themselves. Making it in place leaves every list in memory as it is. Arguments that differ
in their keys alone make the same line. -/
theorem hides_exactly_keys :
    (∀ args, line args = " ".intercalate (args.mapIdx fun i arg => if FollowsKey args i then hidden else arg)) ∧
      (∀ (m : Memory) (place : ℕ), (render m place).1 = line (m.read place) ∧ m <+: (render m place).2) ∧
      ∀ args args', DifferInKeys args args' → line args = line args' := by
  refine ⟨fun args => ?_, fun m place => ?_, fun args args' h => ?_⟩
  · rw [line, redacted_eq]
  · rw [render_eq]
    exact ⟨rfl, List.prefix_append ..⟩
  · rw [line, line, h.redacted_eq]

/-- A command with two keys and the option in last place, with one of the keys and with another. -/
theorem two_keys_hidden :
    let args (key : String) := ["rbd", "--key", key, "--key", "second", "--key"]
    DifferInKeys (args "first") (args "other") ∧ line (args "first") = line (args "other") ∧
      line (args "first") = "rbd --key <redacted> --key <redacted> --key" := by
  have differ : DifferInKeys ["rbd", "--key", "first", "--key", "second", "--key"]
      ["rbd", "--key", "other", "--key", "second", "--key"] := by
    refine ⟨rfl, fun i => ?_, fun i => ?_, fun i => ?_⟩
    all_goals rcases i with _ | _ | _ | _ | _ | _ | i <;> simp [FollowsKey, keyOption]
  exact ⟨differ, hides_exactly_keys.2.2 _ _ differ, by decide +kernel⟩

end ReplicaWatch.Command
