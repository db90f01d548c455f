import Mathlib
import ReplicaWatch.Proofs.Json.Reading

/-! Documents among texts. A document is read by the machine that reads any text, but under a limit and from strict
lexemes alone. Main statements: a text is a document with a value exactly if it is read as that value, its lexemes
are strict and no value in it lies too deep; and an object with anything but blanks behind it is no document. -/
namespace ReplicaWatch.Json

/-! ## Nesting of lexemes -/

/-- How many arrays and objects are open behind a token. -/
def Token.heightAfter (height : ℕ) : Token → ℕ
  | openArray | openObject => height + 1
  | closeArray | closeObject => height - 1
  | _ => height

/-- A token that begins a value. A text may be a key too, which lies as deep as its value. -/
def Token.beginsValue : Token → Bool
  | openArray | openObject | text _ | scalar _ => true
  | _ => false

lemma Token.le_heightAfter {token : Token} (value : token.beginsValue = true) (height : ℕ) :
    height ≤ token.heightAfter height := by
  cases token <;> simp_all [beginsValue, heightAfter]

/-- No value among the lexemes of a text lies in more arrays and objects than a limit, where some are open already. -/
def NestedWithin (limit : ℕ) : ℕ → List Lexeme → Prop
  | _, [] => True
  | height, l :: rest =>
    match l.token with
    | .finish => True
    | token => (token.beginsValue = true → height ≤ limit) ∧ NestedWithin limit (token.heightAfter height) rest

lemma nestedWithin_cons {limit height : ℕ} {l : Lexeme} {rest : List Lexeme} (goesOn : l.token ≠ .finish) :
    NestedWithin limit height (l :: rest) ↔
      (l.token.beginsValue = true → height ≤ limit) ∧ NestedWithin limit (l.token.heightAfter height) rest := by
  rw [NestedWithin]
  split
  · next token => exact absurd token goesOn
  · rfl

/-- How many arrays and objects are open besides those on the stack. -/
def Mode.inside : Mode → ℕ
  | value | finished _ => 0
  | firstItem | item _ | key _ _ | colon _ _ | member _ => 1

/-- How many arrays and objects are open. -/
def State.height (s : State) : ℕ := s.stack.length + s.mode.inside

/-- A value begins with the lexeme that is read next. -/
def State.BeginsWith : State → Lexeme → Prop
  | ⟨_, .value⟩, _ => True
  | ⟨_, .firstItem⟩, l => l.token ≠ .closeArray
  | _, _ => False

section
variable {limit : Option ℕ} {n : ℕ} {s s' : State} {stack : List Frame} {l : Lexeme}
    {ls rest : List Lexeme} {v : Json}

@[simp] lemma height_mk (stack : List Frame) (mode : Mode) :
    State.height ⟨stack, mode⟩ = stack.length + mode.inside := rfl

@[simp] lemma height_complete (stack : List Frame) (v : Json) : (complete stack v).height = stack.length := by
  cases stack with
  | nil => rfl
  | cons f rest => cases f <;> rfl

/-- Where a value begins, a limit refuses only what lies too deep. -/
lemma beginValue_eq_ok_iff : beginValue limit stack l = .ok s' ↔
    beginValue none stack l = .ok s' ∧ ∀ n ∈ limit, stack.length ≤ n := by
  cases limit with
  | none => simp
  | some n =>
    by_cases deep : n < stack.length
    · simp [beginValue, deep]
    · simp [beginValue, deep, Nat.not_lt.1 deep]

lemma beginValue_height (h : beginValue none stack l = .ok s') :
    s'.height = l.token.heightAfter stack.length ∧ l.token.beginsValue = true := by
  simp only [beginValue, Option.any_none, Bool.false_eq_true, if_false] at h
  cases token : l.token <;> simp only [token, Except.ok.injEq, reduceCtorEq] at h
  all_goals subst h
  all_goals simp [Token.beginsValue, Token.heightAfter, Mode.inside]

/-- A limit matters to a step only where a value begins. -/
lemma step_eq_ok_iff : step limit s l = .ok s' ↔
    step none s l = .ok s' ∧ (s.BeginsWith l → ∀ n ∈ limit, s.height ≤ n) := by
  obtain ⟨stack, mode⟩ := s
  cases mode with
  | value => simpa [step, State.BeginsWith, Mode.inside] using beginValue_eq_ok_iff
  | firstItem =>
    have begun : beginValue limit (.array [] :: stack) l = .ok s' ↔
        beginValue none (.array [] :: stack) l = .ok s' ∧ ∀ n ∈ limit, stack.length + 1 ≤ n := beginValue_eq_ok_iff
    cases token : l.token <;> simp_all [step, State.BeginsWith, Mode.inside]
  | _ => simp [step, State.BeginsWith]

/-- What a step does to the number of open arrays and objects, and whether a value begins with its lexeme. A text
with which none begins is a key. -/
lemma step_height (h : step none s l = .ok s') :
    s'.height = l.token.heightAfter s.height ∧ (s.BeginsWith l → l.token.beginsValue = true) ∧
      (l.token.beginsValue = true → s.BeginsWith l ∨ ∃ done key, s'.mode = .colon done key) := by
  obtain ⟨stack, mode⟩ := s
  cases mode with
  | value =>
    obtain ⟨height, begins⟩ := beginValue_height h
    exact ⟨height, fun _ => begins, fun _ => .inl trivial⟩
  | firstItem =>
    simp only [step] at h
    split at h
    · next token =>
      obtain rfl := Except.ok.inj h
      simp [token, closeArray, Mode.inside, Token.heightAfter, Token.beginsValue, State.BeginsWith]
    · next other =>
      obtain ⟨height, begins⟩ := beginValue_height h
      exact ⟨height, fun _ => begins, fun _ => .inl other⟩
  | key done mayClose =>
    cases token : l.token with
    | text t =>
      simp only [step, token, Except.ok.injEq] at h
      subst h
      simp [Mode.inside, Token.heightAfter, State.BeginsWith]
    | closeObject =>
      simp only [step, token] at h
      split at h
      · obtain rfl := Except.ok.inj h
        simp [closeObject, Mode.inside, Token.heightAfter, Token.beginsValue, State.BeginsWith]
      · cases h
    | broken flaw place => cases flaw <;> simp [step, token] at h
    | _ => simp [step, token] at h
  | _ =>
    cases token : l.token <;> simp only [step, token, Except.ok.injEq, reduceCtorEq] at h
    all_goals subst h
    all_goals simp [closeArray, closeObject, Mode.inside, Token.heightAfter, Token.beginsValue,
      State.BeginsWith]

/-- No step is taken behind the end of the text. -/
lemma step_goesOn (h : step limit s l = .ok s') : l.token ≠ .finish := by
  intro token
  obtain ⟨free, -⟩ := step_eq_ok_iff.1 h
  obtain ⟨stack, mode⟩ := s
  cases mode <;> simp [step, beginValue, token] at free

end

/-! ## Reading under a limit -/

section
variable {limit : Option ℕ} {n : ℕ} {s s' : State} {l : Lexeme} {ls rest : List Lexeme} {v : Json}

lemma readLexemes_cons_eq_ok_iff : readLexemes limit s (l :: rest) = .ok v ↔
    s.mode = .finished v ∧ l.token = .finish ∨ ∃ s', step limit s l = .ok s' ∧ readLexemes limit s' rest = .ok v := by
  rw [readLexemes]
  split
  · next w mode token =>
    have unread (s' : State) : step limit s l ≠ .ok s' := fun h => step_goesOn h token
    simp [mode, token, unread]
  · next unfinished =>
    have reads : ¬(s.mode = .finished v ∧ l.token = .finish) := fun h => unfinished v h.1 h.2
    cases step limit s l <;> simp [reads]

lemma height_le_of_value {stack : List Frame} (h : readLexemes (some n) ⟨stack, .value⟩ ls = .ok v) :
    stack.length ≤ n := by
  cases ls with
  | nil => cases h
  | cons l rest =>
    obtain ⟨⟨⟩, -⟩ | ⟨s', stepped, -⟩ := readLexemes_cons_eq_ok_iff.1 h
    exact (step_eq_ok_iff.1 stepped).2 trivial n rfl

/-- A value that comes behind the next colon does not lie too deep. -/
lemma height_le_of_colon {stack : List Frame} {done : List (Text × Json)} {key : Text}
    (h : readLexemes (some n) ⟨stack, .colon done key⟩ ls = .ok v) : stack.length + 1 ≤ n := by
  cases ls with
  | nil => cases h
  | cons l rest =>
    obtain ⟨⟨⟩, -⟩ | ⟨s', stepped, read⟩ := readLexemes_cons_eq_ok_iff.1 h
    simp only [step] at stepped
    split at stepped
    · obtain rfl := Except.ok.inj stepped
      exact height_le_of_value read
    · cases stepped

/-- Under a limit the same is read, if no value lies too deep. -/
theorem readLexemes_some_iff :
    readLexemes (some n) s ls = .ok v ↔ readLexemes none s ls = .ok v ∧ NestedWithin n s.height ls := by
  induction ls generalizing s with
  | nil => simp [readLexemes]
  | cons l rest ih =>
    rw [readLexemes_cons_eq_ok_iff, readLexemes_cons_eq_ok_iff]
    constructor
    · rintro (⟨finished, token⟩ | ⟨s', stepped, read⟩)
      · exact ⟨.inl ⟨finished, token⟩, by simp [NestedWithin, token]⟩
      · obtain ⟨free, shallow⟩ := step_eq_ok_iff.1 stepped
        obtain ⟨height, -, begins⟩ := step_height free
        obtain ⟨read', nested⟩ := ih.1 read
        refine ⟨.inr ⟨s', free, read'⟩, (nestedWithin_cons (step_goesOn free)).2 ⟨fun value => ?_, height ▸ nested⟩⟩
        -- A key is read without regard to the limit, but the value behind it is as deep and is not.
        rcases begins value with value | ⟨done, key, mode⟩
        · exact shallow value n rfl
        · obtain ⟨stack, mode'⟩ := s'
          obtain rfl : mode' = .colon done key := mode
          calc s.height ≤ l.token.heightAfter s.height := Token.le_heightAfter value _
            _ = stack.length + 1 := height.symm
            _ ≤ n := height_le_of_colon read
    · rintro ⟨⟨finished, token⟩ | ⟨s', stepped, read⟩, nested⟩
      · exact .inl ⟨finished, token⟩
      · obtain ⟨height, begins, -⟩ := step_height stepped
        obtain ⟨shallow, nested⟩ := (nestedWithin_cons (step_goesOn stepped)).1 nested
        refine .inr ⟨s', step_eq_ok_iff.2 ⟨stepped, fun value => ?_⟩, ih.2 ⟨read, height ▸ nested⟩⟩
        simpa using shallow (begins value)

end

/-! ## Documents -/

section
variable {t : Text} {v : Json}

lemma readStrict_blanks {b : Text} (blanks : Blanks b) (t : Text) : readStrict (b ++ t) = readStrict t := by
  simp only [readStrict, lexemes_blanks blanks]

lemma read_eq_ok_iff : read t = .ok v ↔ readLexemes none start (lexemes t) = .ok v := by
  rw [read]
  cases readLexemes none start (lexemes t) <;> simp

/-- Documents are the texts that can be read, of strict lexemes in which no value lies too deep. -/
theorem readStrict_eq_some_iff : readStrict t = some v ↔
    read t = .ok v ∧ (∀ l ∈ lexemes t, l.isStrict = true) ∧ NestedWithin maxNesting 0 (lexemes t) := by
  have limited : readLexemes (some maxNesting) start (lexemes t) = .ok v ↔
      readLexemes none start (lexemes t) = .ok v ∧ NestedWithin maxNesting 0 (lexemes t) := readLexemes_some_iff
  have taken : (readLexemes (some maxNesting) start (lexemes t)).toOption = some v ↔
      readLexemes (some maxNesting) start (lexemes t) = .ok v := by
    cases readLexemes (some maxNesting) start (lexemes t) <;> simp [Except.toOption]
  rw [readStrict, read_eq_ok_iff]
  simp only [Option.ite_none_right_eq_some, List.all_eq_true, taken, limited]
  exact and_left_comm

/-- A text is a document with a value. It may spell the value in any way in which no half of a surrogate pair is
left alone and no number has too many digits before its point, and a key may come again: the last member with it
counts. -/
structure IsDocument (t : Text) (v : Json) : Prop where
  spelled : Spells false t (.spaced v)
  strict : ∀ l ∈ lexemes t, l.isStrict = true
  nested : NestedWithin maxNesting 0 (lexemes t)

lemma IsDocument.readStrict_eq (h : IsDocument t v) : readStrict t = some v :=
  readStrict_eq_some_iff.2 ⟨h.spelled.read_eq, h.strict, h.nested⟩

lemma Spells.loose {p : Phrase} (h : Spells true t p) : Spells false t p := by
  induction h with
  | null => exact .null
  | bool b => exact .bool b
  | int negative digits whole short => exact .int negative digits whole short
  | float negative digits whole _ fraction exponent marked =>
    exact .float negative digits whole nofun fraction exponent marked
  | text quotes _ => exact .text quotes nofun
  | emptyArray blanks => exact .emptyArray blanks
  | array _ items => exact .array items
  | emptyObject blanks => exact .emptyObject blanks
  | object _ _ members => exact .object members nofun
  | spaced before _ after value => exact .spaced before value after
  | lastItem _ item => exact .lastItem item
  | item _ _ item more => exact .item item more
  | member before quotes _ after _ value => exact .member before quotes nofun after value
  | lastMember _ member => exact .lastMember member
  | moreMembers _ _ member more => exact .moreMembers member more

/-- Strict spellings are documents. -/
lemma Spells.isDocument (h : Spells true t (.spaced v)) (within : v.Within maxNesting) : IsDocument t v := by
  obtain ⟨-, strict, nested⟩ := readStrict_eq_some_iff.1 (h.readStrict_eq within)
  exact ⟨h.loose, strict, nested⟩

end

/-! ## What follows an object -/

section
variable {strict : Bool} {t u : Text}

lemma mark?_ne_finish (s : Symbol) : mark? s ≠ some .finish := by
  cases s with
  | char c =>
    unfold mark?
    grind
  | lone half => simp [mark?]

lemma readToken_ne_finish (s : Symbol) (rest : Text) : (readToken s rest).1 ≠ .finish := by
  unfold readToken
  split
  · next token mark =>
    rintro rfl
    exact mark?_ne_finish s mark
  · split
    · split <;> simp
    · intro finish
      cases finish ▸ isScalar_readScalar (s :: rest)

/-- A text of anything but blanks has a lexeme other than its end. -/
lemma lexemes_of_not_blanks (h : ¬Blanks t) : ∃ l rest, lexemes t = l :: rest ∧ l.token ≠ .finish := by
  induction t with
  | nil => exact absurd (by simp [Blanks]) h
  | cons s t ih =>
    rw [lexemes_cons]
    split
    · next blank =>
      refine ih fun blanks => h ?_
      exact List.forall_mem_cons.2 ⟨blank, blanks⟩
    · exact ⟨_, _, rfl, readToken_ne_finish s t⟩

lemma Spells.brace {ms : List (Text × Json)} (h : Spells strict u (.value (.object ms))) :
    ∃ rest, u = .char '\x7b' :: rest := by
  cases h with
  | emptyObject => exact ⟨_, rfl⟩
  | object => exact ⟨_, rfl⟩

lemma Spells.readBefore_object {ms : List (Text × Json)} (h : Spells strict u (.value (.object ms))) (rest : Text) :
    ReadBefore strict rest u (.value (.object ms)) := by
  cases h with
  | emptyObject blanks => exact Json.readBefore_emptyObject blanks rest
  | object members apart => exact Json.readBefore_object members.readAs apart rest

/-- An object with anything but blanks behind it is no document. -/
theorem Spells.readStrict_trailing {ms : List (Text × Json)} (h : Spells false u (.value (.object ms)))
    (junk : ¬Blanks t) : readStrict (u ++ t) = none := by
  obtain ⟨ls, lexed, -, carries⟩ := h.readBefore_object t
  obtain ⟨l, rest, begins, goesOn⟩ := lexemes_of_not_blanks junk
  have finished : readLexemes none start (ls ++ lexemes t) =
      readLexemes none ⟨[], .finished (.object ms)⟩ (lexemes t) :=
    carries (.value []) nofun _
  refine Option.eq_none_iff_forall_ne_some.2 fun v document => ?_
  have read := read_eq_ok_iff.1 (readStrict_eq_some_iff.1 document).1
  rw [lexed, finished, begins, readLexemes_cons_eq_ok_iff] at read
  rcases read with ⟨-, token⟩ | ⟨s', ⟨⟩, -⟩
  exact goesOn token

end

end ReplicaWatch.Json
