import Mathlib
import ReplicaWatch.Json.Reader

/-! The spellings of JSON values: which texts write which value, as the grammar of RFC 8259 has it, with blanks and
escapes wherever it has them. Half of a surrogate pair may be escaped on its own. A strict spelling has no such half
in any text or key, no key twice in an object, and no number with more digits before its point than an integer may
have. -/
namespace ReplicaWatch.Json

/-- What is put between marks for looks. -/
def Blanks (t : Text) : Prop := ∀ s ∈ t, isBlank s = true

/-- An escape by four hexadecimal digits. -/
def codeEscape (a b c d : Symbol) : Text := [.char '\x5c', .char 'u', a, b, c, d]

/-- A text begins with an escape of the second half of a surrogate pair. -/
def BeginsLow (t : Text) : Prop :=
  ∃ a b c d n rest, t = codeEscape a b c d ++ rest ∧ hexCode? a b c d = some n ∧ isLowCode n = true

/-- What stands between quotes for a text: symbols as they are, escapes by a letter and escapes by a code. Escapes
of the halves of a surrogate pair, one right after the other, write one character. -/
inductive Quotes : Text → Text → Prop
  | nothing : Quotes [] []
  | symbol {s u t} (printed : 0x20 ≤ s.code) (unquoted : s ≠ .char '\x22') (unescaped : s ≠ .char '\x5c')
      (rest : Quotes u t) : Quotes (s :: u) (s :: t)
  | letter {e c u t} (written : escaped? e = some c) (rest : Quotes u t) :
      Quotes (.char '\x5c' :: e :: u) (.char c :: t)
  | code {a b c d n u t} (written : hexCode? a b c d = some n) (whole : isHighCode n = false ∧ isLowCode n = false)
      (rest : Quotes u t) : Quotes (codeEscape a b c d ++ u) (.ofCode n :: t)
  | pair {a b c d high a' b' c' d' low u t} (first : hexCode? a b c d = some high) (isHigh : isHighCode high = true)
      (second : hexCode? a' b' c' d' = some low) (isLow : isLowCode low = true) (rest : Quotes u t) :
      Quotes (codeEscape a b c d ++ (codeEscape a' b' c' d' ++ u))
        (.ofCode (0x10000 + (high - 0xD800) * 0x400 + (low - 0xDC00)) :: t)
  | half {a b c d n u t} (written : hexCode? a b c d = some n) (isHalf : isHighCode n = true ∨ isLowCode n = true)
      (apart : isHighCode n = true → ¬BeginsLow u) (rest : Quotes u t) :
      Quotes (codeEscape a b c d ++ u) (.ofCode n :: t)

/-- Symbols that are digits. -/
def Digits : Text → List ℕ → Prop := List.Forall₂ fun s d => digit? s = some d

/-- Digits before a point: at least one, and no zero in front of others. -/
def IsWhole (ds : List ℕ) : Prop := ds ≠ [] ∧ (ds.head? = some 0 → ds = [0])

def sign (negative : Bool) : Text := if negative then [.char '-'] else []

def signed (negative : Bool) (n : ℕ) : ℤ := if negative then -n else n

/-- A point with digits behind it, or nothing. -/
inductive Fraction : Text → List ℕ → Prop
  | nothing : Fraction [] []
  | point {u ds} (digits : Digits u ds) (given : ds ≠ []) : Fraction (.char '.' :: u) ds

/-- An exponent, or nothing. -/
inductive Exponent : Text → Option ℤ → Prop
  | nothing : Exponent [] none
  | unsigned {mark u ds} (marked : mark = 'e' ∨ mark = 'E') (digits : Digits u ds) (given : ds ≠ []) :
      Exponent (.char mark :: u) (some (Digit.number 10 ds))
  | plus {mark u ds} (marked : mark = 'e' ∨ mark = 'E') (digits : Digits u ds) (given : ds ≠ []) :
      Exponent (.char mark :: .char '+' :: u) (some (Digit.number 10 ds))
  | minus {mark u ds} (marked : mark = 'e' ∨ mark = 'E') (digits : Digits u ds) (given : ds ≠ []) :
      Exponent (.char mark :: .char '-' :: u) (some (-(Digit.number 10 ds : ℤ)))

/-- What a text may write: a value, a value with blanks around it, the items of an array, a member of an object or all
its members. -/
inductive Phrase where
  | value (v : Json)
  | spaced (v : Json)
  | items (vs : List Json)
  | member (key : Text) (v : Json)
  | members (ms : List (Text × Json))

/-- The texts that write a phrase. -/
inductive Spells (strict : Bool) : Text → Phrase → Prop
  | null : Spells strict (Text.ofChars ['n', 'u', 'l', 'l']) (.value .null)
  | bool (b : Bool) :
      Spells strict (Text.ofChars (if b then ['t', 'r', 'u', 'e'] else ['f', 'a', 'l', 's', 'e'])) (.value (.bool b))
  | int {u ds} (negative : Bool) (digits : Digits u ds) (whole : IsWhole ds) (short : ds.length ≤ Digit.maxDigits) :
      Spells strict (sign negative ++ u) (.value (.int (signed negative (Digit.number 10 ds))))
  | float {u f x ds fs e} (negative : Bool) (digits : Digits u ds) (whole : IsWhole ds)
      (short : strict = true → ds.length ≤ Digit.maxDigits) (fraction : Fraction f fs) (exponent : Exponent x e)
      (marked : fs ≠ [] ∨ e ≠ none) :
      Spells strict (sign negative ++ (u ++ (f ++ x)))
        (.value (.float (.ofDecimal negative (Digit.number 10 (ds ++ fs)) (e.getD 0 - fs.length))))
  | text {u t} (quotes : Quotes u t) (plain : strict = true → Text.isPlain t = true) :
      Spells strict (.char '\x22' :: (u ++ [.char '\x22'])) (.value (.string t))
  | emptyArray {b} (blanks : Blanks b) : Spells strict (.char '[' :: (b ++ [.char ']'])) (.value (.array []))
  | array {u vs} (items : Spells strict u (.items vs)) :
      Spells strict (.char '[' :: (u ++ [.char ']'])) (.value (.array vs))
  | emptyObject {b} (blanks : Blanks b) :
      Spells strict (.char '\x7b' :: (b ++ [.char '\x7d'])) (.value (.object []))
  | object {u ms} (members : Spells strict u (.members ms)) (apart : strict = true → (ms.map Prod.fst).Nodup) :
      Spells strict (.char '\x7b' :: (u ++ [.char '\x7d'])) (.value (.object (merge ms)))
  | spaced {b u b' v} (before : Blanks b) (value : Spells strict u (.value v)) (after : Blanks b') :
      Spells strict (b ++ (u ++ b')) (.spaced v)
  | lastItem {u v} (item : Spells strict u (.spaced v)) : Spells strict u (.items [v])
  | item {u u' v vs} (item : Spells strict u (.spaced v)) (more : Spells strict u' (.items vs)) :
      Spells strict (u ++ .char ',' :: u') (.items (v :: vs))
  | member {b k key b' u v} (before : Blanks b) (quotes : Quotes k key)
      (plain : strict = true → Text.isPlain key = true)
      (after : Blanks b') (value : Spells strict u (.spaced v)) :
      Spells strict (b ++ .char '\x22' :: (k ++ .char '\x22' :: (b' ++ .char ':' :: u))) (.member key v)
  | lastMember {u key v} (member : Spells strict u (.member key v)) : Spells strict u (.members [(key, v)])
  | moreMembers {u u' key v ms} (member : Spells strict u (.member key v)) (more : Spells strict u' (.members ms)) :
      Spells strict (u ++ .char ',' :: u') (.members ((key, v) :: ms))

/-- A value in which nothing lies in more than a number of arrays and objects. -/
def Within : ℕ → Json → Prop
  | 0, array items => items = []
  | 0, object members => members = []
  | n + 1, array items => ∀ v ∈ items, Within n v
  | n + 1, object members => ∀ m ∈ members, Within n m.2
  | _, _ => True

/-! ## Plain spellings -/

lemma blanks_nil : Blanks [] := by simp [Blanks]

lemma blanks_space : Blanks [.char ' '] := by simp [Blanks, isBlank]

/-- A symbol as it stands between quotes, escaped only where it has to be. -/
def quote (s : Symbol) : Text := if s = .char '\x22' ∨ s = .char '\x5c' then [.char '\x5c', s] else [s]

def quoted (t : Text) : Text := t.flatMap quote

/-- Every text without control characters can be quoted. -/
lemma Quotes.quoted {t : Text} (printed : ∀ s ∈ t, 0x20 ≤ s.code) : Quotes (quoted t) t := by
  induction t with
  | nil => exact .nothing
  | cons s t ih =>
    have rest := ih fun s' hs => printed s' (List.mem_cons_of_mem s hs)
    rw [Json.quoted, List.flatMap_cons, ← Json.quoted, quote]
    split
    · next special =>
      rcases special with rfl | rfl
      · exact .letter rfl rest
      · exact .letter rfl rest
    · next plain =>
      rw [not_or] at plain
      exact .symbol (printed s List.mem_cons_self) plain.1 plain.2 rest

section
variable {strict : Bool} {t u : Text}

lemma Spells.of_eq {p : Phrase} (h : Spells strict u p) (same : t = u) : Spells strict t p := same ▸ h

/-- A value between its neighbours, with nothing put in for looks. -/
lemma Spells.bare {v : Json} (value : Spells strict u (.value v)) : Spells strict u (.spaced v) :=
  (Spells.spaced blanks_nil value blanks_nil).of_eq (by simp)

/-- A text without control characters, quoted. -/
lemma Spells.plain (s : String) (printed : ∀ c ∈ Text.ofString s, 0x20 ≤ c.code) :
    Spells strict (.char '\x22' :: (quoted (.ofString s) ++ [.char '\x22'])) (.value (.ofString s)) :=
  .text (.quoted printed) fun _ => Text.isPlain_ofString s

/-- A member with a space behind its colon. -/
lemma Spells.named (name : String) {v : Json} (printed : ∀ c ∈ Text.ofString name, 0x20 ≤ c.code)
    (value : Spells strict u (.value v)) :
    Spells strict (.char '\x22' :: (quoted (.ofString name) ++ .char '\x22' :: .char ':' :: .char ' ' :: u))
      (.member (.ofString name) v) :=
  (Spells.member blanks_nil (.quoted printed) (fun _ => Text.isPlain_ofString name) blanks_nil
    (.spaced blanks_space value blanks_nil)).of_eq (by simp)

/-- An object with one member. -/
lemma Spells.single {key : Text} {v : Json} (member : Spells strict u (.member key v)) :
    Spells strict (.char '\x7b' :: (u ++ [.char '\x7d'])) (.value (.object [(key, v)])) :=
  .object (.lastMember member) fun _ => by simp

end

end ReplicaWatch.Json
