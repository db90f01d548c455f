/-! Cutting text at a separator. -/
namespace ReplicaWatch

/-- The pieces between separators; there is always one more piece than there are separators. -/
def split (separator : Char) : List Char → List (List Char)
  | [] => [[]]
  | c :: rest =>
    if c = separator then [] :: split separator rest
    else match split separator rest with
      | [] => [[c]]
      | piece :: pieces => (c :: piece) :: pieces

theorem exists_split_eq_cons (separator : Char) (cs : List Char) :
    ∃ piece pieces, split separator cs = piece :: pieces := by
  cases cs with
  | nil => exact ⟨[], [], rfl⟩
  | cons c rest =>
    rw [split]
    split
    · exact ⟨[], _, rfl⟩
    · split
      · exact ⟨[c], [], rfl⟩
      · exact ⟨c :: _, _, rfl⟩

/-- A separator parts the pieces in front of it from those behind it. -/
theorem split_append (separator : Char) (cs ds : List Char) :
    split separator (cs ++ separator :: ds) = split separator cs ++ split separator ds := by
  induction cs with
  | nil => simp [split]
  | cons c rest ih =>
    obtain ⟨piece, pieces, cut⟩ := exists_split_eq_cons separator rest
    rw [List.cons_append, split, split, ih, cut]
    split
    · rfl
    · rfl

theorem split_of_absent {separator : Char} {cs : List Char} (h : separator ∉ cs) : split separator cs = [cs] := by
  induction cs with
  | nil => rfl
  | cons c rest ih =>
    rw [List.mem_cons, not_or] at h
    rw [split, if_neg (Ne.symm h.1), ih h.2]

theorem absent_of_mem_split {separator : Char} {cs piece : List Char} (h : piece ∈ split separator cs) :
    separator ∉ piece := by
  induction cs generalizing piece with
  | nil =>
    rw [split, List.mem_singleton] at h
    rw [h]
    exact List.not_mem_nil
  | cons c rest ih =>
    obtain ⟨first, pieces, cut⟩ := exists_split_eq_cons separator rest
    rw [cut] at ih
    rw [split, cut] at h
    split at h
    · obtain rfl | later := List.mem_cons.mp h
      · exact List.not_mem_nil
      · exact ih later
    · next other =>
      obtain rfl | later := List.mem_cons.mp h
      · rw [List.mem_cons, not_or]
        exact ⟨Ne.symm other, ih List.mem_cons_self⟩
      · exact ih (List.mem_cons_of_mem _ later)

end ReplicaWatch
