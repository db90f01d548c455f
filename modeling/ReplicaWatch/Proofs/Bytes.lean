import Mathlib
import ReplicaWatch.Bytes.Base64
import ReplicaWatch.Bytes.Encoding

/-! Bytes and the texts that they spell. Main statements: what UTF-8 and Base64 encode is read back as it was, and the
UTF-8 of a text that begins with an ASCII character and holds no zero is taken for UTF-8. -/
namespace ReplicaWatch

lemma Symbol.ofCode_toNat (c : Char) : Symbol.ofCode c.toNat = .char c := by
  have valid := c.valid
  have noHalf : ¬(0xD800 ≤ c.toNat ∧ c.toNat < 0xE000) := by
    simp only [UInt32.isValidChar, Nat.isValidChar, Char.toNat] at valid ⊢
    omega
  rw [ofCode, dif_neg noHalf, Char.ofNat_toNat]

namespace Utf8

section
variable (halves : Bool)

lemma begin_ascii {n : ℕ} (h : n < 128) : begin halves (.ofNat n) = ([.symbol (.ofCode n) 1], none) := by
  have small : UInt8.ofNat n < 0x80 := by
    rw [UInt8.lt_iff_toNat_lt, UInt8.toNat_ofNat_of_lt' (show n < 256 by omega)]
    exact h
  rw [begin, if_pos small, UInt8.toNat_ofNat_of_lt' (show n < 256 by omega)]

lemma begin_two {n : ℕ} (h : 2 ≤ n) (h' : n < 32) :
    begin halves (.ofNat (n + 192)) = ([], some ⟨1, 0x80, 0xBF, n, 1⟩) := by
  have all : ∀ n : Fin 32, 2 ≤ n.val →
      begin halves (.ofNat (n.val + 192)) = ([], some ⟨1, 0x80, 0xBF, n.val, 1⟩) := by
    cases halves <;> decide
  exact all ⟨n, h'⟩ h

/-- The range of the second of three bytes leaves out what two bytes spell, and halves of surrogate pairs where they
are not read. -/
lemma begin_three {n : ℕ} (h : n < 16) :
    begin halves (.ofNat (n + 224)) =
      ([], some ⟨2, if n = 0 then 0xA0 else 0x80, if n = 13 ∧ halves = false then 0x9F else 0xBF, n, 1⟩) := by
  have all : ∀ n : Fin 16, begin halves (.ofNat (n.val + 224)) =
      ([], some ⟨2, if n.val = 0 then 0xA0 else 0x80, if n.val = 13 ∧ halves = false then 0x9F else 0xBF,
        n.val, 1⟩) := by
    cases halves <;> decide
  exact all ⟨n, h⟩

/-- The range of the second of four bytes leaves out what three bytes spell and what lies beyond the last character.
-/
lemma begin_four {n : ℕ} (h : n < 5) :
    begin halves (.ofNat (n + 240)) =
      ([], some ⟨3, if n = 0 then 0x90 else 0x80, if n = 4 then 0x8F else 0xBF, n, 1⟩) := by
  have all : ∀ n : Fin 5, begin halves (.ofNat (n.val + 240)) =
      ([], some ⟨3, if n.val = 0 then 0x90 else 0x80, if n.val = 4 then 0x8F else 0xBF, n.val, 1⟩) := by
    cases halves <;> decide
  exact all ⟨n, h⟩

lemma pieces_open {b : UInt8} {p : Pending} (h : begin halves b = ([], some p)) (rest : List UInt8) :
    pieces halves none (b :: rest) = pieces halves (some p) rest := by
  simp [pieces, step, h]

section
variable {p : Pending} {n : ℕ}

/-- A byte in the range that a sequence asks for continues it. -/
lemma step_tail (h : n < 64) (low : p.low.toNat ≤ n + 128) (high : n + 128 ≤ p.high.toNat) :
    step halves (some p) (.ofNat (n + 128)) =
      if p.need ≤ 1 then ([.symbol (.ofCode (p.bits * 64 + n)) (p.taken + 1)], none)
      else ([], some ⟨p.need - 1, 0x80, 0xBF, p.bits * 64 + n, p.taken + 1⟩) := by
  have value : (UInt8.ofNat (n + 128)).toNat = n + 128 := UInt8.toNat_ofNat_of_lt' (show n + 128 < 256 by omega)
  have range : (p.low ≤ UInt8.ofNat (n + 128) && UInt8.ofNat (n + 128) ≤ p.high) = true := by
    simp only [UInt8.le_iff_toNat_le, value, Bool.and_eq_true, decide_eq_true_eq]
    exact ⟨low, high⟩
  simp only [step, range, value, if_true, Nat.add_sub_cancel]

lemma pieces_tail (h : n < 64) (low : p.low.toNat ≤ n + 128) (high : n + 128 ≤ p.high.toNat) (more : 1 < p.need)
    (rest : List UInt8) :
    pieces halves (some p) (.ofNat (n + 128) :: rest) =
      pieces halves (some ⟨p.need - 1, 0x80, 0xBF, p.bits * 64 + n, p.taken + 1⟩) rest := by
  simp only [pieces, step_tail halves h low high, Nat.not_le.2 more, if_false, List.nil_append]

lemma pieces_last (h : n < 64) (low : p.low.toNat ≤ n + 128) (high : n + 128 ≤ p.high.toNat) (last : p.need = 1)
    (rest : List UInt8) :
    pieces halves (some p) (.ofNat (n + 128) :: rest) =
      .symbol (.ofCode (p.bits * 64 + n)) (p.taken + 1) :: pieces halves none rest := by
  simp only [pieces, step_tail halves h low high, last, le_refl, if_true, List.singleton_append]

end

/-- The bytes of a character are one piece, whatever follows. -/
lemma pieces_utf8EncodeChar (c : Char) (rest : List UInt8) :
    ∃ width, pieces halves none (String.utf8EncodeChar c ++ rest) =
      .symbol (.char c) width :: pieces halves none rest := by
  have valid := c.valid
  simp only [UInt32.isValidChar, Nat.isValidChar] at valid
  rw [← Symbol.ofCode_toNat c]
  simp only [String.utf8EncodeChar, Char.toNat]
  generalize c.val.toNat = n at valid
  split
  · exact ⟨1, by simp [pieces, step, begin_ascii halves (show n < 128 by omega)]⟩
  · split
    · have whole : n / 64 * 64 + n % 64 = n := by omega
      rw [Nat.mod_eq_of_lt (show n / 64 < 32 by omega)]
      refine ⟨2, ?_⟩
      rw [List.cons_append, pieces_open halves (begin_two halves (by omega) (by omega)), List.singleton_append,
        pieces_last halves (by omega) (by simp) (by simp; omega) rfl, whole]
    · split
      · have whole : (n / 4096 * 64 + n / 64 % 64) * 64 + n % 64 = n := by omega
        rw [Nat.mod_eq_of_lt (show n / 4096 < 16 by omega)]
        refine ⟨3, ?_⟩
        rw [List.cons_append, pieces_open halves (begin_three halves (by omega)), List.cons_append,
          pieces_tail halves (by omega) ?_ ?_ (by simp), List.singleton_append,
          pieces_last halves (by omega) (by simp) (by simp; omega) rfl, whole]
        · dsimp only
          split
          · simp
            omega
          · simp
        · dsimp only
          split <;> simp <;> omega
      · have whole : ((n / 262144 * 64 + n / 4096 % 64) * 64 + n / 64 % 64) * 64 + n % 64 = n := by omega
        rw [Nat.mod_eq_of_lt (show n / 262144 < 8 by omega)]
        refine ⟨4, ?_⟩
        rw [List.cons_append, pieces_open halves (begin_four halves (by omega)), List.cons_append,
          pieces_tail halves (by omega) ?_ ?_ (by simp), List.cons_append,
          pieces_tail halves (by omega) (by simp) (by simp; omega) (by simp), List.singleton_append,
          pieces_last halves (by omega) (by simp) (by simp; omega) rfl, whole]
        · dsimp only
          split
          · simp
            omega
          · simp
        · dsimp only
          split <;> simp <;> omega

lemma wellFormed_encode (cs : List Char) : wellFormed (pieces halves none (encode cs)) = .ok (.ofChars cs) := by
  induction cs with
  | nil => rfl
  | cons c cs ih =>
    obtain ⟨width, piece⟩ := pieces_utf8EncodeChar halves c (encode cs)
    rw [encode, List.flatMap_cons, ← encode, piece]
    simp [wellFormed, ih, Text.ofChars]

/-- What UTF-8 encodes is read back, whether halves of surrogate pairs are read or not. -/
theorem decode_encode (cs : List Char) : decode halves (encode cs) = .ok (.ofChars cs) := by
  rw [decode, wellFormed_encode]

end

end Utf8

/-! ## Bodies -/

namespace Encoding

/-- UTF-8 writes the byte zero for the character zero alone. -/
lemma utf8EncodeChar_eq_cons {c : Char} (given : c.toNat ≠ 0) :
    ∃ b bs, String.utf8EncodeChar c = b :: bs ∧ b ≠ 0 := by
  have valid := c.valid
  simp only [UInt32.isValidChar, Nat.isValidChar] at valid
  have ne_zero {n : ℕ} (small : n < 256) (given : n ≠ 0) : UInt8.ofNat n ≠ 0 := by
    intro zero
    have value := congrArg UInt8.toNat zero
    rw [UInt8.toNat_ofNat_of_lt' (show n < 256 from small)] at value
    exact given value
  simp only [Char.toNat] at given
  simp only [String.utf8EncodeChar]
  generalize c.val.toNat = n at valid given
  split
  · exact ⟨_, _, rfl, ne_zero (by omega) given⟩
  · split
    · exact ⟨_, _, rfl, ne_zero (by omega) (by omega)⟩
    · split
      · exact ⟨_, _, rfl, ne_zero (by omega) (by omega)⟩
      · exact ⟨_, _, rfl, ne_zero (by omega) (by omega)⟩

lemma detect_ascii {a : UInt8} {rest : List UInt8} (given : a ≠ 0) (ascii : a < 128)
    (second : ∀ b ∈ rest.head?, b ≠ 0) :
    detect (a :: rest) = .utf8 := by
  have other (m : UInt8) (big : ¬m < 128) : (m == a) = false := by
    rw [beq_eq_false_iff_ne]
    rintro rfl
    exact big ascii
  have zero : ((0 : UInt8) == a) = false := by simpa using given.symm
  have unfound : (marks.find? fun m => m.1.isPrefixOf (a :: rest)) = none := by
    simp only [marks, List.find?, List.isPrefixOf, zero, other 0xFF (by decide), other 0xFE (by decide),
      other 0xEF (by decide), Bool.false_and]
  rw [detect, unfound]
  dsimp only
  unfold unmarked
  split
  · next same =>
    obtain ⟨rfl, rfl⟩ := List.cons.inj same
    rw [if_neg given, if_neg (second _ rfl)]
  · next same =>
    obtain ⟨rfl, rfl⟩ := List.cons.inj same
    rw [if_neg given, if_neg (second _ rfl)]
  · rfl

/-- The UTF-8 of a text that begins with an ASCII character and holds no zero is taken for UTF-8. -/
theorem decodeBody_encode {c : Char} {cs : List Char} (ascii : c.toNat < 128)
    (given : ∀ d ∈ c :: cs, d.toNat ≠ 0) : decodeBody (Utf8.encode (c :: cs)) = .ok (.ofChars (c :: cs)) := by
  have first : String.utf8EncodeChar c = [.ofNat c.toNat] := by
    rw [String.utf8EncodeChar]
    exact if_pos (Nat.le_of_lt_succ ascii)
  have small : (UInt8.ofNat c.toNat).toNat = c.toNat := UInt8.toNat_ofNat_of_lt' (show c.toNat < 256 by omega)
  have bytes : Utf8.encode (c :: cs) = .ofNat c.toNat :: Utf8.encode cs := by
    rw [Utf8.encode, List.flatMap_cons, ← Utf8.encode, first, List.singleton_append]
  have detected : detect (Utf8.encode (c :: cs)) = .utf8 := by
    rw [bytes]
    refine detect_ascii ?_ ?_ ?_
    · intro zero
      exact given c List.mem_cons_self (small.symm.trans (congrArg UInt8.toNat zero))
    · rw [UInt8.lt_iff_toNat_lt, small]
      exact ascii
    · cases cs with
      | nil => exact nofun
      | cons d cs =>
        obtain ⟨b, bs, encoded, nonzero⟩ := utf8EncodeChar_eq_cons (given d (by simp))
        rw [Utf8.encode, List.flatMap_cons, encoded]
        rintro _ ⟨⟩
        exact nonzero
  rw [decodeBody, detected]
  exact Utf8.decode_encode true (c :: cs)

end Encoding

/-! ## Base64 -/

namespace Base64

lemma value?_digit {n : ℕ} (h : n < 64) : value? (digit n) = some n ∧ digit n ≠ '=' ∧ (digit n).toNat < 128 := by
  have all : ∀ n : Fin 64, value? (digit n.val) = some n.val ∧ digit n.val ≠ '=' ∧ (digit n.val).toNat < 128 := by
    decide
  exact all ⟨n, h⟩

section
variable {n : ℕ} {s s' : State} {rest : List Char}

/-- A digit that completes no byte. -/
lemma decodeFrom_of_take (h : n < 64) (taken : s.take n = (none, s')) :
    decodeFrom s (digit n :: rest) = decodeFrom s' rest := by
  obtain ⟨value, unpadded, -⟩ := value?_digit h
  rw [decodeFrom, if_neg unpadded, value]
  simp only [taken]

/-- A digit that completes a byte. -/
lemma decodeFrom_of_take_some {b : UInt8} {k : ℕ} {bytes : List UInt8} (h : n < 64)
    (taken : s.take n = (some (.ofNat k), s')) (byte : k = b.toNat) (read : decodeFrom s' rest = .ok bytes) :
    decodeFrom s (digit n :: rest) = .ok (b :: bytes) := by
  obtain ⟨value, unpadded, -⟩ := value?_digit h
  rw [decodeFrom, if_neg unpadded, value]
  simp only [taken, read, byte, UInt8.ofNat_toNat]

end

/-- Reading stops at the padding of a group, so that what is behind it does not matter. -/
lemma decodeFrom_encode_append (bytes : List UInt8) {tail : List Char} (padded : bytes.length % 3 = 0 → tail = []) :
    ∀ written, decodeFrom ⟨0, 0, 0, written⟩ (encode bytes ++ tail) = .ok bytes := by
  fun_induction encode bytes with
  | case1 a b c rest ih =>
    intro written
    have ha := a.toNat_lt
    have hb := b.toNat_lt
    have hc := c.toNat_lt
    simp only [List.cons_append]
    rw [decodeFrom_of_take (by omega) rfl]
    refine decodeFrom_of_take_some (by omega) rfl (by dsimp only; omega) ?_
    refine decodeFrom_of_take_some (by omega) rfl (by dsimp only; omega) ?_
    refine decodeFrom_of_take_some (by omega) rfl (by dsimp only; omega) (ih (fun whole => padded ?_) _)
    rw [List.length_cons, List.length_cons, List.length_cons]
    omega
  | case2 a b =>
    intro written
    have ha := a.toNat_lt
    have hb := b.toNat_lt
    simp only [List.cons_append, List.nil_append]
    rw [decodeFrom_of_take (by omega) rfl]
    refine decodeFrom_of_take_some (by omega) rfl (by dsimp only; omega) ?_
    exact decodeFrom_of_take_some (by omega) rfl (by dsimp only; omega) rfl
  | case3 a =>
    intro written
    have ha := a.toNat_lt
    simp only [List.cons_append, List.nil_append]
    rw [decodeFrom_of_take (by omega) rfl]
    exact decodeFrom_of_take_some (by omega) rfl (by dsimp only; omega) rfl
  | case4 =>
    rw [padded rfl]
    exact fun _ => rfl

lemma decodeFrom_encode (bytes : List UInt8) (written : ℕ) :
    decodeFrom ⟨0, 0, 0, written⟩ (encode bytes) = .ok bytes := by
  simpa using decodeFrom_encode_append bytes (fun _ => rfl) written

lemma encode_ascii (bytes : List UInt8) : ∀ c ∈ encode bytes, c.toNat < 128 := by
  have ascii {n : ℕ} (h : n < 64) : (digit n).toNat < 128 := (value?_digit h).2.2
  have bound (b : UInt8) : b.toNat < 256 := b.toNat_lt
  fun_induction encode bytes with
  | case1 a b c rest ih =>
    have ha := bound a
    have hb := bound b
    have hc := bound c
    simp only [List.forall_mem_cons]
    exact ⟨ascii (by omega), ascii (by omega), ascii (by omega), ascii (by omega), ih⟩
  | case2 a b =>
    have ha := bound a
    have hb := bound b
    simp only [List.forall_mem_cons]
    exact ⟨ascii (by omega), ascii (by omega), ascii (by omega), by decide, nofun⟩
  | case3 a =>
    have ha := bound a
    simp only [List.forall_mem_cons]
    exact ⟨ascii (by omega), ascii (by omega), by decide, by decide, nofun⟩
  | case4 => exact nofun

/-- What the standard spelling writes is read back. -/
theorem decode_encode (bytes : List UInt8) : decode (.ofChars (encode bytes)) = .ok bytes := by
  have ascii : (Text.ofChars (encode bytes)).all (fun s => s.code < 128) = true := by
    simp only [Text.ofChars, List.all_map, List.all_eq_true]
    exact fun c hc => decide_eq_true (encode_ascii bytes c hc)
  rw [decode, if_pos ascii, Text.toChars_ofChars]
  exact decodeFrom_encode bytes 0

end Base64
end ReplicaWatch
