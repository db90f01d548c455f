/-! Texts as lists of symbols. A text inside JSON may hold half of a surrogate pair on its own, which is no
character; such a half is a symbol of its own, so that every such text has a value. -/
namespace ReplicaWatch

/-- A character, or half of a surrogate pair that stands alone. -/
inductive Symbol where
  | char (c : Char)
  | lone (half : Fin 2048)
  deriving DecidableEq, Repr

namespace Symbol

instance : Inhabited Symbol := ⟨char ' '⟩

/-- The code point: halves of surrogate pairs lie from D800 to DFFF. -/
def code : Symbol → Nat
  | char c => c.toNat
  | lone half => 0xD800 + half.val

/-- The symbol with a code point below 110000. -/
def ofCode (n : Nat) : Symbol :=
  if h : 0xD800 ≤ n ∧ n < 0xE000 then lone ⟨n - 0xD800, by omega⟩ else char (Char.ofNat n)

def isLone : Symbol → Bool
  | char _ => false
  | lone _ => true

/-- The character itself; half of a pair becomes the replacement character. -/
def toChar : Symbol → Char
  | char c => c
  | lone _ => '\ufffd'

@[simp] theorem toChar_char (c : Char) : (char c).toChar = c := rfl

end Symbol

/-- A text that may hold halves of surrogate pairs. -/
abbrev Text := List Symbol

namespace Text

def ofChars (cs : List Char) : Text := cs.map .char

def ofString (s : String) : Text := ofChars s.toList

/-- The characters, halves of surrogate pairs replaced. -/
def toChars (t : Text) : List Char := t.map Symbol.toChar

/-- The text as a string, halves of surrogate pairs replaced. -/
def asString (t : Text) : String := String.ofList (toChars t)

/-- Whether every symbol is a character. -/
def isPlain (t : Text) : Bool := t.all fun s => !s.isLone

@[simp] theorem toChars_ofChars (cs : List Char) : toChars (ofChars cs) = cs := by
  simp [toChars, ofChars, Function.comp_def]

@[simp] theorem asString_ofString (s : String) : asString (ofString s) = s := by
  simp [asString, ofString]

@[simp] theorem isPlain_ofChars (cs : List Char) : isPlain (ofChars cs) = true := by
  simp [isPlain, ofChars, Symbol.isLone]

@[simp] theorem isPlain_ofString (s : String) : isPlain (ofString s) = true := isPlain_ofChars s.toList

theorem ofString_asString {t : Text} (h : isPlain t = true) : ofString (asString t) = t := by
  induction t with
  | nil => rfl
  | cons s rest ih =>
    cases s with
    | lone half => simp [isPlain, Symbol.isLone] at h
    | char c =>
      have hrest : ofString (asString rest) = rest := ih (by simpa [isPlain, Symbol.isLone] using h)
      simp only [ofString, ofChars, asString, toChars, String.toList_ofList, List.map_cons,
        Symbol.toChar_char] at hrest ⊢
      rw [hrest]

theorem ofString_inj {a b : String} : ofString a = ofString b ↔ a = b :=
  ⟨fun h => by simpa using congrArg asString h, congrArg ofString⟩

end Text
end ReplicaWatch
