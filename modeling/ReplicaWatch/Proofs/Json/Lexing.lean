import Mathlib
import ReplicaWatch.Proofs.Json.Spelling

/-! The lexemes of spellings. What ends a number is never part of one, so that a lexeme is read to its end and no
further. Main statements: the lexemes of a text come one after the other, and each kind of token is read from its
spelling with anything behind it that may stand there. -/
namespace ReplicaWatch.Json

/-! ## Lengths -/

lemma prepend_eq_ok {front : Text} {r : Except (Flaw × Text) (Text × Text)} {t rest : Text}
    (h : prepend front r = .ok (t, rest)) : ∃ t', r = .ok (t', rest) := by
  cases r with
  | error e => cases h
  | ok p =>
    obtain ⟨t', rest'⟩ := p
    cases h
    exact ⟨t', rfl⟩

lemma readText_length (start : Text) (high : Option ℕ) (u : Text) :
    ∀ {t rest : Text}, readText start high u = .ok (t, rest) → rest.length < u.length := by
  have behind {front u v t rest : Text} {high : Option ℕ} (shorter : u.length < v.length)
      (ih : ∀ {t rest : Text}, readText start high u = .ok (t, rest) → rest.length < u.length)
      (h : prepend front (readText start high u) = .ok (t, rest)) : rest.length < v.length := by
    obtain ⟨t', h'⟩ := prepend_eq_ok h
    exact (ih h').trans shorter
  fun_induction readText start high u with
  | case2 =>
    intro t rest h
    cases h
    simp
  | case5 _ _ _ _ _ _ _ _ _ _ _ ih => exact behind (by simp) ih
  | case6 _ _ _ _ _ _ _ _ _ _ _ _ ih => exact behind (by simp) ih
  | case7 _ _ _ _ _ _ _ _ _ _ _ _ ih => exact behind (by simp) ih
  | case8 _ _ _ _ _ _ _ _ _ _ ih => exact behind (by simp) ih
  | case10 _ _ _ _ _ _ _ ih => exact behind (by simp) ih
  | case13 _ _ _ _ _ _ ih => exact behind (by simp) ih
  | _ => exact nofun

lemma digitRun_length (t : Text) : (digitRun t).1.length + (digitRun t).2.length = t.length := by
  induction t with
  | nil => rfl
  | cons s rest ih =>
    simp only [digitRun]
    split
    · simp only [List.length_cons]
      omega
    · simp

lemma wholePart_length {t rest : Text} {ds : List ℕ} (h : wholePart t = (ds, rest)) (given : ds ≠ []) :
    rest.length < t.length := by
  have run := digitRun_length t
  unfold wholePart at h
  split at h
  · next hrun =>
    rw [hrun] at run
    cases h
    simp only [List.length_cons, List.length_tail] at run ⊢
    omega
  · rw [h] at run
    have := List.length_pos_iff.2 given
    simp only at run
    omega

lemma places_length (t : Text) : (places t).2.length ≤ t.length := by
  unfold places
  split
  · next s rest =>
    split
    · have run := digitRun_length rest
      split
      · exact le_rfl
      · simp only [List.length_cons]
        omega
    · exact le_rfl
  · exact le_rfl

lemma exponentPart_length (t : Text) : (exponentPart t).2.length ≤ t.length := by
  unfold exponentPart
  split
  · next s rest =>
    split
    · have run {t behind : Text} {ds : List ℕ} (h : digitRun t = (ds, behind)) : behind.length ≤ t.length := by
        have length := digitRun_length t
        rw [h] at length
        exact (Nat.le_add_left _ _).trans length.le
      dsimp only
      split
      · exact le_rfl
      · next hrun =>
        split at hrun
        · have taken := run hrun
          simp only [List.length_cons] at taken ⊢
          omega
        · have taken := run hrun
          simp only [List.length_cons] at taken ⊢
          omega
        · have taken := run hrun
          simp only [List.length_cons] at taken ⊢
          omega
    · exact le_rfl
  · exact le_rfl

lemma readNumber_length {start t rest : Text} {negative : Bool} {token : Token}
    (h : readNumber start negative t = some (token, rest)) : rest.length < t.length := by
  unfold readNumber at h
  split at h
  · cases h
  · next whole behind given hw =>
    have shorter := wholePart_length hw given
    have fraction := places_length behind
    have exponent := exponentPart_length (places behind).2
    have rest_eq : rest = (exponentPart (places behind).2).2 := by
      dsimp only at h
      split at h
      · split at h
        · cases h; rfl
        · cases h; rfl
      · cases h; rfl
    rw [rest_eq]
    omega

lemma afterWord?_length {word : List Char} {t rest : Text} (h : afterWord? word t = some rest) :
    word.length + rest.length = t.length := by
  induction word generalizing t with
  | nil =>
    cases h
    simp
  | cons c word ih =>
    cases t with
    | nil => cases h
    | cons s t =>
      simp only [afterWord?] at h
      split at h
      · have := ih h
        simp only [List.length_cons]
        omega
      · cases h

lemma readName_length {t rest : Text} {token : Token} (h : readName t = some (token, rest)) :
    rest.length < t.length := by
  obtain ⟨name, hname, found⟩ := List.exists_of_findSome?_eq_some h
  obtain ⟨word, v⟩ := name
  obtain ⟨after, hafter, hrest⟩ := Option.map_eq_some_iff.1 found
  have length := afterWord?_length hafter
  have longer : 0 < word.length := by
    simp only [names, List.mem_cons, Prod.mk.injEq, List.not_mem_nil, or_false] at hname
    rcases hname with ⟨rfl, -⟩ | ⟨rfl, -⟩ | ⟨rfl, -⟩ | ⟨rfl, -⟩ | ⟨rfl, -⟩ | ⟨rfl, -⟩ <;> simp
  cases hrest
  omega

lemma readScalar_length (s : Symbol) (rest : Text) : (readScalar (s :: rest)).2.length ≤ rest.length := by
  unfold readScalar
  split
  · next found h =>
    have := readName_length h
    simp only [List.length_cons] at this
    omega
  · have behind {start t : Text} {negative : Bool} (h : t.length ≤ (s :: rest).length) :
        ((readNumber start negative t).getD (.foreign, [])).2.length ≤ rest.length := by
      cases read : readNumber start negative t with
      | none => simp
      | some found =>
        obtain ⟨token, after⟩ := found
        have := readNumber_length read
        simp only [List.length_cons, Option.getD_some] at h ⊢
        omega
    dsimp only
    split
    · next digits same =>
      obtain ⟨rfl, rfl⟩ := List.cons.inj same
      exact behind (by simp)
    · exact behind le_rfl

lemma readToken_length (s : Symbol) (rest : Text) : (readToken s rest).2.length ≤ rest.length := by
  unfold readToken
  split
  · exact le_rfl
  · split
    · split
      · next h => exact (readText_length _ _ _ h).le
      · simp
    · exact readScalar_length s rest

/-- The lexemes of a text do not depend on the bound. -/
lemma lexemesWithin_eq {n m : ℕ} {t : Text} (hn : t.length < n) (hm : t.length < m) :
    lexemesWithin n t = lexemesWithin m t := by
  induction n generalizing m t with
  | zero => omega
  | succ n ih =>
    cases m with
    | zero => omega
    | succ m =>
      cases t with
      | nil => rfl
      | cons s rest =>
        have shorter := readToken_length s rest
        simp only [List.length_cons] at hn hm
        simp only [lexemesWithin]
        rw [ih (show rest.length < n by omega) (show rest.length < m by omega),
          ih (show (readToken s rest).2.length < n by omega) (show (readToken s rest).2.length < m by omega)]

lemma lexemes_nil : lexemes [] = [⟨.finish, []⟩] := rfl

lemma lexemes_cons (s : Symbol) (rest : Text) :
    lexemes (s :: rest) =
      if isBlank s then lexemes rest
      else ⟨(readToken s rest).1, s :: rest⟩ ::
        if (readToken s rest).1.goesOn then lexemes (readToken s rest).2 else [] := by
  have shorter := readToken_length s rest
  have after : lexemesWithin (rest.length + 1) (readToken s rest).2 = lexemes (readToken s rest).2 :=
    lexemesWithin_eq (by omega) (by omega)
  rw [← after]
  rfl

/-- What may stand behind a value: nothing, a blank, a comma, or the end of an array or object. -/
def Ends (rest : Text) : Prop :=
  ∀ s ∈ rest.head?, isBlank s = true ∨ s = .char ',' ∨ s = .char ']' ∨ s = .char '\x7d'

/-- No digit comes next. -/
def NoDigit (t : Text) : Prop := ∀ s ∈ t.head?, digit? s = none

/-! ## Numbers -/

section
variable {u f x rest : Text} {ds fs : List ℕ} {e : Option ℤ}

lemma digitRun_append (digits : Digits u ds) (stop : NoDigit rest) : digitRun (u ++ rest) = (ds, rest) := by
  induction digits with
  | nil =>
    cases rest with
    | nil => rfl
    | cons s rest => simp [digitRun, stop s rfl]
  | cons hd _ ih => simp [digitRun, hd, ih]

lemma wholePart_append (digits : Digits u ds) (whole : IsWhole ds) (stop : NoDigit rest) :
    wholePart (u ++ rest) = (ds, rest) := by
  unfold wholePart
  rw [digitRun_append digits stop]
  split
  · next run =>
    cases run
    obtain rfl := List.cons.inj (whole.2 rfl) |>.2
    cases digits with
    | cons _ tail =>
      cases tail
      rfl
  · rfl

lemma Ends.noDigit (h : Ends rest) : NoDigit rest := by
  intro s hs
  rcases h s hs with blank | rfl | rfl | rfl
  · simp only [isBlank, Bool.or_eq_true, beq_iff_eq] at blank
    rcases blank with ((rfl | rfl) | rfl) | rfl <;> rfl
  · rfl
  · rfl
  · rfl

lemma Ends.head_ne (h : Ends rest) {c : Char} (hc : c = '.' ∨ c = 'e' ∨ c = 'E') : rest.head? ≠ some (.char c) := by
  intro hs
  rcases h _ hs with blank | hs | hs | hs
  · rcases hc with rfl | rfl | rfl <;> simp [isBlank] at blank
  · rcases hc with rfl | rfl | rfl <;> simp at hs
  · rcases hc with rfl | rfl | rfl <;> simp at hs
  · rcases hc with rfl | rfl | rfl <;> simp at hs

lemma places_append (fraction : Fraction f fs) (stop : NoDigit rest) (head : rest.head? ≠ some (.char '.')) :
    places (f ++ rest) = (fs, rest) := by
  cases fraction with
  | nothing =>
    cases rest with
    | nil => rfl
    | cons s rest =>
      have other : s ≠ .char '.' := fun same => head (congrArg some same)
      simp [places, other]
  | point digits given =>
    simp only [places, List.cons_append, if_true, digitRun_append digits stop]
    split
    · next run =>
      cases run
      exact absurd rfl given
    · rfl

lemma exponentPart_append (exponent : Exponent x e) (ends : Ends rest) : exponentPart (x ++ rest) = (e, rest) := by
  have run {u : Text} {ds : List ℕ} (digits : Digits u ds) : digitRun (u ++ rest) = (ds, rest) :=
    digitRun_append digits ends.noDigit
  cases exponent with
  | nothing =>
    cases rest with
    | nil => rfl
    | cons s rest =>
      have other : ¬(s = .char 'e' ∨ s = .char 'E') := by
        rintro (rfl | rfl)
        · exact ends.head_ne (.inr (.inl rfl)) rfl
        · exact ends.head_ne (.inr (.inr rfl)) rfl
      simp [exponentPart, other]
  | @plus mark u ds marked digits given =>
    have read := run digits
    cases ds with
    | nil => exact absurd rfl given
    | cons d ds => rcases marked with rfl | rfl <;> simp [exponentPart, read]
  | @minus mark u ds marked digits given =>
    have read := run digits
    cases ds with
    | nil => exact absurd rfl given
    | cons d ds => rcases marked with rfl | rfl <;> simp [exponentPart, read]
  | @unsigned mark u ds marked digits given =>
    have read := run digits
    cases digits with
    | nil => exact absurd rfl given
    | @cons s d _ _ hd _ =>
      -- A digit is neither of the signs.
      have plus : s ≠ .char '+' := by
        rintro rfl
        cases hd
      have minus : s ≠ .char '-' := by
        rintro rfl
        cases hd
      rw [List.cons_append] at read ⊢
      rcases marked with rfl | rfl <;> simp [exponentPart, read, plus, minus]

lemma readNumber_int (start : Text) (negative : Bool) (digits : Digits u ds) (whole : IsWhole ds)
    (short : ds.length ≤ Digit.maxDigits) (ends : Ends rest) :
    readNumber start negative (u ++ rest) =
      some (.scalar (.int (signed negative (Digit.number 10 ds))), rest) := by
  have fraction : places rest = ([], rest) := places_append .nothing ends.noDigit (ends.head_ne (.inl rfl))
  have exponent : exponentPart rest = (none, rest) := exponentPart_append .nothing ends
  unfold readNumber
  rw [wholePart_append digits whole ends.noDigit]
  cases ds with
  | nil => exact absurd rfl whole.1
  | cons d ds => simpa [fraction, exponent, signed] using short

/-- What follows the digits before the point of a number is no digit. -/
lemma noDigit_of_marked (fraction : Fraction f fs) (exponent : Exponent x e) (ends : Ends rest) :
    NoDigit (f ++ (x ++ rest)) ∧ NoDigit (x ++ rest) ∧ (x ++ rest).head? ≠ some (.char '.') := by
  have exponents : NoDigit (x ++ rest) ∧ (x ++ rest).head? ≠ some (.char '.') := by
    cases exponent with
    | nothing => exact ⟨ends.noDigit, ends.head_ne (.inl rfl)⟩
    | unsigned marked => rcases marked with rfl | rfl <;> exact ⟨by rintro _ ⟨⟩; rfl, by simp⟩
    | plus marked => rcases marked with rfl | rfl <;> exact ⟨by rintro _ ⟨⟩; rfl, by simp⟩
    | minus marked => rcases marked with rfl | rfl <;> exact ⟨by rintro _ ⟨⟩; rfl, by simp⟩
  refine ⟨?_, exponents⟩
  cases fraction with
  | nothing => exact exponents.1
  | point _ _ =>
    rintro _ ⟨⟩
    rfl

lemma readNumber_float (start : Text) (negative : Bool) (digits : Digits u ds) (whole : IsWhole ds)
    (fraction : Fraction f fs) (exponent : Exponent x e) (marked : fs ≠ [] ∨ e ≠ none) (ends : Ends rest) :
    readNumber start negative (u ++ (f ++ (x ++ rest))) =
      some (.scalar (.float (.ofDecimal negative (Digit.number 10 (ds ++ fs)) (e.getD 0 - fs.length))), rest) := by
  obtain ⟨stop, behind, head⟩ := noDigit_of_marked fraction exponent ends
  have notInt : (fs.isEmpty && e.isNone) = false := by
    rcases marked with given | given
    · simp [List.isEmpty_eq_false_iff.2 given]
    · simp [Option.isNone_eq_false_iff.2 (Option.isSome_iff_ne_none.2 given)]
  unfold readNumber
  rw [wholePart_append digits whole stop]
  cases ds with
  | nil => exact absurd rfl whole.1
  | cons d ds => simp [places_append fraction behind head, exponentPart_append exponent ends, notInt]

end

/-! ## Names and numbers -/

lemma readScalar_null (rest : Text) :
    readScalar (Text.ofChars ['n', 'u', 'l', 'l'] ++ rest) = (.scalar .null, rest) := by
  simp [readScalar, readName, names, afterWord?, Text.ofChars]

lemma readScalar_bool (b : Bool) (rest : Text) :
    readScalar (Text.ofChars (if b then ['t', 'r', 'u', 'e'] else ['f', 'a', 'l', 's', 'e']) ++ rest) =
      (.scalar (.bool b), rest) := by
  cases b <;> simp [readScalar, readName, names, afterWord?, Text.ofChars]

/-- A number is read behind its sign. -/
lemma readScalar_number {u : Text} {ds : List ℕ} (negative : Bool) (digits : Digits u ds) (given : ds ≠ [])
    (rest : Text) :
    readScalar (sign negative ++ (u ++ rest)) =
      (readNumber (sign negative ++ (u ++ rest)) negative (u ++ rest)).getD (.foreign, []) := by
  cases digits with
  | nil => exact absurd rfl given
  | @cons s d u _ hd _ =>
    have other (c : Char) (hc : digit? (.char c) = none) : s ≠ .char c := by
      rintro rfl
      cases hd.symm.trans hc
    have n := other 'n' rfl
    have t := other 't' rfl
    have f := other 'f' rfl
    have N := other 'N' rfl
    have I := other 'I' rfl
    have minus := other '-' rfl
    cases negative <;> simp [sign, readScalar, readName, names, afterWord?, n, t, f, N, I, minus]

/-- The digits before the point of a number are counted behind its sign. -/
lemma wholeDigits_number (token : Token) {u : Text} {ds : List ℕ} (negative : Bool) (digits : Digits u ds)
    (whole : IsWhole ds) {rest : Text} (stop : NoDigit rest) :
    (Lexeme.mk token (sign negative ++ (u ++ rest))).wholeDigits = ds.length := by
  have run := wholePart_append digits whole stop
  cases digits with
  | nil => exact absurd rfl whole.1
  | @cons s d u _ hd _ =>
    have minus : s ≠ .char '-' := by
      rintro rfl
      cases hd
    rw [List.cons_append] at run ⊢
    cases negative <;> simp [Lexeme.wholeDigits, sign, minus, run]

/-- What a name or a number is read as: a value that holds no others, a number with too many digits, or nothing
known. -/
inductive Token.IsScalar : Token → Prop
  | value {v : Json} (atomic : v.kind ≠ .array ∧ v.kind ≠ .object) : IsScalar (.scalar v)
  | overlong (digits : ℕ) (place : Text) : IsScalar (.broken (.tooManyDigits digits) place)
  | foreign : IsScalar .foreign

lemma isScalar_readNumber {begin t rest : Text} {negative : Bool} {token : Token}
    (h : readNumber begin negative t = some (token, rest)) : token.IsScalar := by
  unfold readNumber at h
  split at h
  · cases h
  · dsimp only at h
    split at h
    · split at h
      · cases h
        exact .overlong _ _
      · cases h
        exact .value (by simp [kind])
    · cases h
      exact .value (by simp [kind])

lemma isScalar_readName {t rest : Text} {token : Token} (h : readName t = some (token, rest)) : token.IsScalar := by
  obtain ⟨⟨word, v⟩, named, found⟩ := List.exists_of_findSome?_eq_some h
  obtain ⟨_, -, found⟩ := Option.map_eq_some_iff.1 found
  cases found
  simp only [names, List.mem_cons, Prod.mk.injEq, List.not_mem_nil, or_false] at named
  refine .value ?_
  rcases named with ⟨-, rfl⟩ | ⟨-, rfl⟩ | ⟨-, rfl⟩ | ⟨-, rfl⟩ | ⟨-, rfl⟩ | ⟨-, rfl⟩ <;> simp [kind]

lemma isScalar_readScalar (t : Text) : (readScalar t).1.IsScalar := by
  have numbers (begin t : Text) (negative : Bool) :
      ((readNumber begin negative t).getD (.foreign, [])).1.IsScalar := by
    cases read : readNumber begin negative t with
    | none => exact .foreign
    | some found => exact isScalar_readNumber read
  unfold readScalar
  split
  · next found named => exact isScalar_readName named
  · dsimp only
    split
    · exact numbers _ _ _
    · exact numbers _ _ _

/-! ## Texts -/

section
variable (start : Text) (high : Option ℕ)

lemma readText_close (rest : Text) : readText start high (.char '\x22' :: rest) = .ok (release high [], rest) := by
  rw [readText.eq_def]
  simp

lemma readText_symbol {s : Symbol} (printed : 0x20 ≤ s.code) (unquoted : s ≠ .char '\x22')
    (unescaped : s ≠ .char '\x5c') (t : Text) :
    readText start high (s :: t) = prepend (release high [s]) (readText start none t) := by
  rw [readText.eq_def]
  simp [unquoted, unescaped, Nat.not_lt.2 printed]

lemma readText_letter {e : Symbol} {c : Char} (written : escaped? e = some c) (t : Text) :
    readText start high (.char '\x5c' :: e :: t) = prepend (release high [.char c]) (readText start none t) := by
  have other : e ≠ .char 'u' := by
    rintro rfl
    cases written
  rw [readText.eq_def]
  simp [other, written]

/-- An escape by a code, with anything but the end of the text behind it. -/
lemma readText_code {a b c d : Symbol} {n : ℕ} (written : hexCode? a b c d = some n) {t : Text} (more : t ≠ []) :
    readText start high (codeEscape a b c d ++ t) =
      if isHighCode n then prepend (release high []) (readText start (some n) t)
      else match high with
        | some h =>
          if isLowCode n then
            prepend [.ofCode (0x10000 + (h - 0xD800) * 0x400 + (n - 0xDC00))] (readText start none t)
          else prepend [.ofCode h, .ofCode n] (readText start none t)
        | none => prepend [.ofCode n] (readText start none t) := by
  cases t with
  | nil => exact absurd rfl more
  | cons next t =>
    rw [codeEscape, readText.eq_def]
    simp only [List.cons_append, List.nil_append, written]
    rfl

end

lemma notHigh_of_isLow {n : ℕ} (h : isLowCode n = true) : isHighCode n = false := by
  simp only [isLowCode, isHighCode, Bool.and_eq_true, decide_eq_true_eq, Bool.and_eq_false_iff,
    decide_eq_false_iff_not] at h ⊢
  omega

lemma release_append (high : Option ℕ) (u t : Text) : release high u ++ t = release high (u ++ t) := by
  cases high <;> rfl

/-- What stands between quotes is read as the text that it writes. A first half that was kept back before it stays
alone, unless the second half begins there. -/
lemma readText_quotes {u t : Text} (quotes : Quotes u t) (start rest : Text) :
    ∀ high : Option ℕ, (high ≠ none → ¬BeginsLow u) →
      readText start high (u ++ .char '\x22' :: rest) = .ok (release high t, rest) := by
  have more (u : Text) : u ++ .char '\x22' :: rest ≠ [] := by simp
  induction quotes with
  | nothing => exact fun high _ => readText_close _ _ _
  | symbol printed unquoted unescaped _ ih =>
    intro high _
    rw [List.cons_append, readText_symbol _ _ printed unquoted unescaped, ih none (by simp), prepend, release_append]
    rfl
  | letter written _ ih =>
    intro high _
    rw [List.cons_append, List.cons_append, readText_letter _ _ written, ih none (by simp), prepend, release_append]
    rfl
  | code written whole _ ih =>
    intro high _
    rw [List.append_assoc, readText_code _ _ written (more _), whole.1]
    cases high with
    | none =>
      rw [ih none (by simp)]
      rfl
    | some high =>
      simp only [whole.2, ih none (by simp)]
      rfl
  | @pair _ _ _ _ _ _ _ _ _ _ u t first isHigh second isLow _ ih =>
    intro high _
    have low (kept : ℕ) := readText_code start (some kept) second (more u)
    rw [notHigh_of_isLow isLow] at low
    simp only [isLow, ih none (by simp)] at low
    have next (a b c d : Symbol) : codeEscape a b c d ++ (u ++ .char '\x22' :: rest) ≠ [] := by simp [codeEscape]
    rw [List.append_assoc, List.append_assoc, readText_code _ _ first (next _ _ _ _), isHigh, if_pos rfl, low]
    exact congrArg (fun t => Except.ok (t, rest)) (release_append high [] _)
  | @half a b c d n u t written isHalf apart _ ih =>
    intro high alone
    rw [List.append_assoc, readText_code _ _ written (more _)]
    cases isHigh : isHighCode n with
    | true =>
      rw [if_pos rfl, ih (some n) fun _ => apart isHigh]
      exact congrArg (fun t => Except.ok (t, rest)) (release_append high [] _)
    | false =>
      have isLow : isLowCode n = true := isHalf.resolve_left (by simp [isHigh])
      cases high with
      | none =>
        rw [ih none (by simp)]
        rfl
      | some high => exact absurd ⟨a, b, c, d, n, u, rfl, written, isLow⟩ (alone (by simp))

/-! ## Tokens -/

lemma lexemes_blanks {b : Text} (blanks : Blanks b) (rest : Text) : lexemes (b ++ rest) = lexemes rest := by
  induction b with
  | nil => rfl
  | cons s b ih =>
    rw [List.cons_append, lexemes_cons, if_pos (blanks s List.mem_cons_self)]
    exact ih fun s hs => blanks s (List.mem_cons_of_mem _ hs)

/-- A symbol with which a name or a number begins. -/
def BeginsScalar (s : Symbol) : Prop := isBlank s = false ∧ mark? s = none ∧ s ≠ .char '\x22'

lemma lexemes_scalar {t rest : Text} {v : Json} (begins : ∀ s ∈ t.head?, BeginsScalar s)
    (read : readScalar t = (.scalar v, rest)) : lexemes t = ⟨.scalar v, t⟩ :: lexemes rest := by
  cases t with
  | nil => cases read
  | cons s t =>
    obtain ⟨blank, mark, quote⟩ := begins s rfl
    have token : readToken s t = (.scalar v, rest) := by simp [readToken, mark, quote, read]
    rw [lexemes_cons, blank, token]
    rfl

lemma beginsScalar_of_digit {s : Symbol} {d : ℕ} (h : digit? s = some d) : BeginsScalar s := by
  have other (c : Char) (hc : digit? (.char c) = none) : s ≠ .char c := by
    rintro rfl
    cases h.symm.trans hc
  refine ⟨?_, ?_, other _ rfl⟩
  · simp [isBlank, other ' ' rfl, other '\t' rfl, other '\n' rfl, other '\r' rfl]
  · cases s with
    | lone half => cases h
    | char c =>
      have different {m : Char} (hm : digit? (.char m) = none) : c ≠ m := fun same =>
        other _ hm (congrArg Symbol.char same)
      rw [mark?, if_neg (different rfl), if_neg (different rfl), if_neg (different rfl), if_neg (different rfl),
        if_neg (different rfl), if_neg (different rfl)]

lemma lexemes_text {u t : Text} (quotes : Quotes u t) (rest : Text) :
    lexemes (.char '\x22' :: (u ++ .char '\x22' :: rest)) =
      ⟨.text t, .char '\x22' :: (u ++ .char '\x22' :: rest)⟩ :: lexemes rest := by
  have token (start : Text) : readText start none (u ++ .char '\x22' :: rest) = .ok (t, rest) :=
    readText_quotes quotes start rest none (by simp)
  rw [lexemes_cons]
  simp [readToken, mark?, token, isBlank, Token.goesOn]

lemma lexemes_mark {c : Char} {token : Token} (mark : mark? (.char c) = some token) (rest : Text) :
    lexemes (.char c :: rest) = ⟨token, .char c :: rest⟩ :: lexemes rest := by
  have known : isBlank (.char c) = false ∧ token.goesOn = true := by
    unfold mark? at mark
    grind [isBlank, Token.goesOn]
  have read : readToken (.char c) rest = (token, rest) := by simp [readToken, mark]
  rw [lexemes_cons, known.1, read]
  simp [known.2]

end ReplicaWatch.Json
