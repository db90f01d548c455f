import Mathlib
import ReplicaWatch.Credentials.Basic
import ReplicaWatch.Proofs.Bytes

/-! Secrets whose Base64 is broken up, as by line breaks and blanks. Main statement: characters outside the alphabet
may be strewn in anywhere, also between the characters of the padding, and any ASCII text may follow the padding,
without a change in the text that is decoded. -/
namespace ReplicaWatch
namespace Base64

/-- An ASCII character that is no digit of Base64 and no padding. -/
structure IsForeign (c : Char) : Prop where
  ascii : c.toNat < 128
  noAlphanum : c.isAlphanum = false
  noSign : c ≠ '+' ∧ c ≠ '/' ∧ c ≠ '='

/-- Foreign characters are strewn into a text. -/
inductive Strewn : List Char → List Char → Prop
  | nil : Strewn [] []
  | keep (c : Char) {w t} (rest : Strewn w t) : Strewn (c :: w) (c :: t)
  | insert {c : Char} {w t} (foreign : IsForeign c) (rest : Strewn w t) : Strewn w (c :: t)

lemma IsForeign.value?_eq {c : Char} (h : IsForeign c) : value? c = none := by
  have all : ∀ n : Fin 128, (Char.ofNat n.val).isAlphanum = false → Char.ofNat n.val ≠ '+' → Char.ofNat n.val ≠ '/' →
      value? (Char.ofNat n.val) = none := by decide
  have one := all ⟨c.toNat, h.ascii⟩
  rw [Char.ofNat_toNat] at one
  exact one h.noAlphanum h.noSign.1 h.noSign.2.1

section
variable {w t : List Char} {bytes : List UInt8}

/-- A foreign character leaves the state of the decoder as it is, in whichever state it comes. -/
lemma decodeFrom_foreign {c : Char} (foreign : IsForeign c) (s : State) (rest : List Char) :
    decodeFrom s (c :: rest) = decodeFrom s rest := by
  rw [decodeFrom, if_neg foreign.noSign.2.2, foreign.value?_eq]

lemma Strewn.decodeFrom_append (h : Strewn w t) (s : State) (tail : List Char) :
    decodeFrom s (t ++ tail) = decodeFrom s (w ++ tail) := by
  induction h generalizing s with
  | nil => rfl
  | keep c _ ih => simp only [List.cons_append, decodeFrom, ih]
  | insert foreign _ ih => rw [List.cons_append, decodeFrom_foreign foreign, ih]

lemma Strewn.ascii (h : Strewn w t) (ascii : ∀ c ∈ w, c.toNat < 128) : ∀ c ∈ t, c.toNat < 128 := by
  induction h with
  | nil => exact ascii
  | keep c _ ih =>
    rw [List.forall_mem_cons] at ascii ⊢
    exact ⟨ascii.1, ih ascii.2⟩
  | insert foreign _ ih => exact List.forall_mem_cons.mpr ⟨foreign.ascii, ih ascii⟩

lemma Strewn.padding_mem_iff (h : Strewn w t) : '=' ∈ t ↔ '=' ∈ w := by
  induction h with
  | nil => rfl
  | keep c _ ih => rw [List.mem_cons, List.mem_cons, ih]
  | insert foreign _ ih => rw [List.mem_cons, or_iff_right foreign.noSign.2.2.symm, ih]

/-- There is padding exactly if the last group of bytes is short. -/
lemma padding_mem_encode_iff (bytes : List UInt8) : '=' ∈ encode bytes ↔ bytes.length % 3 ≠ 0 := by
  have other {n : ℕ} (h : n < 64) : '=' ≠ digit n := (value?_digit h).2.1.symm
  fun_induction encode bytes with
  | case1 a b c rest ih =>
    have ha := a.toNat_lt
    have hb := b.toNat_lt
    have hc := c.toNat_lt
    have length : (a :: b :: c :: rest).length % 3 = rest.length % 3 := by
      rw [List.length_cons, List.length_cons, List.length_cons]
      omega
    rw [length]
    refine Iff.trans ?_ ih
    simp only [List.mem_cons, other (show a.toNat / 4 < 64 by omega),
      other (show a.toNat % 4 * 16 + b.toNat / 16 < 64 by omega),
      other (show b.toNat % 16 * 4 + c.toNat / 64 < 64 by omega), other (show c.toNat % 64 < 64 by omega), false_or]
  | case2 a b => simp
  | case3 a => simp
  | case4 => simp

/-- What is strewn in does not matter, and neither does what follows the padding. -/
lemma Strewn.decode_eq (h : Strewn (encode bytes) t) (tail : List Char) (ascii : ∀ c ∈ tail, c.toNat < 128)
    (padded : '=' ∉ t → tail = []) : decode (.ofChars (t ++ tail)) = .ok bytes := by
  have whole : bytes.length % 3 = 0 → tail = [] := fun whole =>
    padded fun padding => (padding_mem_encode_iff bytes).mp (h.padding_mem_iff.mp padding) whole
  have readable : (Text.ofChars (t ++ tail)).all (fun s => s.code < 128) = true := by
    simp only [Text.ofChars, List.all_map, List.all_eq_true, List.mem_append]
    rintro c (inside | behind)
    · exact decide_eq_true (h.ascii (encode_ascii bytes) c inside)
    · exact decide_eq_true (ascii c behind)
  rw [decode, if_pos readable, Text.toChars_ofChars, h.decodeFrom_append, decodeFrom_encode_append bytes whole]

end
end Base64

namespace Credentials

lemma decodeField_of_decode {t : Text} {k : String} (h : Base64.decode t = .ok (Utf8.encodeString k)) :
    decodeField (.string t) = .ok k := by
  have text : Utf8.decode false (Utf8.encodeString k) = .ok (.ofString k) := Utf8.decode_encode false k.toList
  simp [decodeField, h, text]

/-- A field of a secret that encodes a text is decoded to this text, with whatever foreign characters strewn into
it, and with any ASCII text behind its padding. -/
theorem strewn_field_decoded (k : String) (t : List Char)
    (h : Base64.Strewn (Base64.encode (Utf8.encodeString k)) t) :
    decodeField (.string (.ofChars t)) = .ok k ∧
      ('=' ∈ t → ∀ tail : List Char, (∀ c ∈ tail, c.toNat < 128) →
        decodeField (.string (.ofChars (t ++ tail))) = .ok k) := by
  refine ⟨decodeField_of_decode ?_, fun padded tail ascii =>
    decodeField_of_decode (h.decode_eq tail ascii (absurd padded))⟩
  have alone := h.decode_eq [] nofun fun _ => rfl
  rwa [List.append_nil] at alone

/-- A line break within the last group, a blank between the characters of its padding, and another text behind it. -/
theorem wrapped_field_decoded :
    let t := ['w', '6', 'n', 'D', 'q', '\n', 'Q', '=', ' ', '=']
    Base64.Strewn (Base64.encode (Utf8.encodeString "éé")) t ∧ '=' ∈ t ∧ (∀ c ∈ ['Z', 'g', '='], c.toNat < 128) ∧
      decodeField (.string (.ofChars t)) = .ok "éé" ∧
      decodeField (.string (.ofChars (t ++ ['Z', 'g', '=']))) = .ok "éé" := by
  have encoded : Base64.encode (Utf8.encodeString "éé") = ['w', '6', 'n', 'D', 'q', 'Q', '=', '='] := by
    decide +kernel
  have strewn : Base64.Strewn (Base64.encode (Utf8.encodeString "éé"))
      ['w', '6', 'n', 'D', 'q', '\n', 'Q', '=', ' ', '='] := by
    rw [encoded]
    have ending : Base64.Strewn ['Q', '=', '='] ['Q', '=', ' ', '='] :=
      .keep _ (.keep _ (.insert ⟨by decide, by decide, by decide⟩ (.keep _ .nil)))
    exact .keep _ (.keep _ (.keep _ (.keep _ (.keep _ (.insert ⟨by decide, by decide, by decide⟩ ending)))))
  have padded : '=' ∈ ['w', '6', 'n', 'D', 'q', '\n', 'Q', '=', ' ', '='] := by decide
  have ascii : ∀ c ∈ ['Z', 'g', '='], c.toNat < 128 := by simp
  obtain ⟨alone, followed⟩ := strewn_field_decoded "éé" _ strewn
  exact ⟨strewn, padded, ascii, alone, followed padded _ ascii⟩

end Credentials
end ReplicaWatch
