import Mathlib
import ReplicaWatch.Proofs.Json.Lexing

/-! Reading what a text spells. The lexemes of a phrase lead the reading machine from any state that expects the
phrase to the state behind it, whatever lies below on its stack and whatever lexemes follow. Main statements: a text
that spells a value is read as that value, and one that spells it strictly, within the bound on nesting, is a
document with that value. -/
namespace ReplicaWatch.Json

/-! ## Lexemes that lead from state to state -/

/-- The limit on nesting under which strict spellings are read; others are read without one. -/
def limitOf (strict : Bool) : Option ℕ := if strict then some maxNesting else none

/-- A value that lies in a number of arrays and objects stays within the limit. -/
def Room (strict : Bool) (height : ℕ) (v : Json) : Prop :=
  strict = true → ∃ n, height + n ≤ maxNesting ∧ v.Within n

/-- Reading lexemes leads from one state to another. -/
def Leads (strict : Bool) (s : State) (ls : List Lexeme) (s' : State) : Prop :=
  ∀ more, readLexemes (limitOf strict) s (ls ++ more) = readLexemes (limitOf strict) s' more

/-- A state in which a value has to stand, and the stack that it lies on. -/
inductive Expects : State → List Frame → Prop
  | value (stack : List Frame) : Expects ⟨stack, .value⟩ stack
  | firstItem (stack : List Frame) : Expects ⟨stack, .firstItem⟩ (.array [] :: stack)

section
variable {strict : Bool} {s s' s'' : State} {stack : List Frame} {l : Lexeme} {ls ls' : List Lexeme}

lemma Leads.trans (h : Leads strict s ls s') (h' : Leads strict s' ls' s'') : Leads strict s (ls ++ ls') s'' := by
  intro more
  rw [List.append_assoc, h, h']

lemma Leads.one (unfinished : ∀ v, s.mode ≠ .finished v) (h : step (limitOf strict) s l = .ok s') :
    Leads strict s [l] s' := by
  intro more
  rw [List.singleton_append, readLexemes]
  split
  · next finished _ => exact absurd finished (unfinished _)
  · rw [h]

lemma Room.item {height : ℕ} {vs : List Json} (room : Room strict height (.array vs)) {v : Json} (hv : v ∈ vs) :
    Room strict (height + 1) v := by
  intro isStrict
  obtain ⟨n, bound, within⟩ := room isStrict
  cases n with
  | zero => exact absurd (show vs = [] from within) (List.ne_nil_of_mem hv)
  | succ n => exact ⟨n, by omega, within v hv⟩

lemma Room.member {height : ℕ} {ms : List (Text × Json)} (room : Room strict height (.object ms)) {m : Text × Json}
    (hm : m ∈ ms) : Room strict (height + 1) m.2 := by
  intro isStrict
  obtain ⟨n, bound, within⟩ := room isStrict
  cases n with
  | zero => exact absurd (show ms = [] from within) (List.ne_nil_of_mem hm)
  | succ n => exact ⟨n, by omega, within m hm⟩

lemma Room.notTooDeep {v : Json} (room : Room strict stack.length v) :
    (limitOf strict).any (· < stack.length) = false := by
  cases strict with
  | false => rfl
  | true =>
    obtain ⟨n, bound, -⟩ := room rfl
    simp only [limitOf, if_true, Option.any_some, decide_eq_false_iff_not]
    omega

/-- Within the limit, a lexeme where a value has to stand does what it does without one. -/
lemma Leads.begin {v : Json} (expects : Expects s stack) (room : Room strict stack.length v)
    (unclosed : l.token ≠ .closeArray) (h : beginValue none stack l = .ok s') : Leads strict s [l] s' := by
  have begun : beginValue (limitOf strict) stack l = .ok s' := by
    rw [← h]
    simp [beginValue, room.notTooDeep]
  cases expects with
  | value => exact .one nofun begun
  | firstItem rest =>
    refine .one nofun ?_
    simpa only [step, unclosed] using begun

end

/-! ## Phrases -/

/-- Lexemes carry a phrase: from every state that expects it they lead to the state behind it. -/
def Carries (strict : Bool) (ls : List Lexeme) : Phrase → Prop
  | .value v => ∀ {s stack}, Expects s stack → Room strict stack.length v → Leads strict s ls (complete stack v)
  | .spaced v => ∀ {s stack}, Expects s stack → Room strict stack.length v → Leads strict s ls (complete stack v)
  | .items vs => ∀ {s stack} done, Expects s (.array done :: stack) →
      (∀ v ∈ vs, Room strict (stack.length + 1) v) → Leads strict s ls ⟨stack, .item (vs.reverse ++ done)⟩
  | .member key v => ∀ {stack} done mayClose, Room strict (stack.length + 1) v →
      Leads strict ⟨stack, .key done mayClose⟩ ls ⟨stack, .member ((key, v) :: done)⟩
  | .members ms => ∀ {stack} done mayClose, (∀ m ∈ ms, Room strict (stack.length + 1) m.2) →
      Leads strict ⟨stack, .key done mayClose⟩ ls ⟨stack, .member (ms.reverse ++ done)⟩

/-- With a text behind it, the lexemes of a text carry a phrase. -/
def ReadBefore (strict : Bool) (rest u : Text) (p : Phrase) : Prop :=
  ∃ ls, lexemes (u ++ rest) = ls ++ lexemes rest ∧ (strict = true → ∀ l ∈ ls, l.isStrict = true) ∧ Carries strict ls p

/-- A text is read as a phrase: with anything behind it that may stand there, its lexemes carry the phrase. -/
def ReadAs (strict : Bool) (u : Text) (p : Phrase) : Prop :=
  ∀ rest, Ends rest → ∃ ls, lexemes (u ++ rest) = ls ++ lexemes rest ∧
    (strict = true → ∀ l ∈ ls, l.isStrict = true) ∧ Carries strict ls p

lemma insert_of_notMem {k : Text} {v : Json} {done : List (Text × Json)} (new : k ∉ done.map Prod.fst) :
    insert k v done = done ++ [(k, v)] := by
  induction done with
  | nil => rfl
  | cons m done ih =>
    obtain ⟨k', v'⟩ := m
    simp only [List.map_cons, List.mem_cons, not_or] at new
    simp [insert, Ne.symm new.1, ih new.2]

lemma merge_of_nodup {ms : List (Text × Json)} (apart : (ms.map Prod.fst).Nodup) : merge ms = ms := by
  have fold (ms : List (Text × Json)) : ∀ done : List (Text × Json), ((done ++ ms).map Prod.fst).Nodup →
      ms.foldl (fun done m => insert m.1 m.2 done) done = done ++ ms := by
    induction ms with
    | nil => simp
    | cons m ms ih =>
      intro done apart
      have new : m.1 ∉ done.map Prod.fst := by
        rw [List.map_append, List.nodup_append] at apart
        exact fun hm => apart.2.2 _ hm _ (by simp) rfl
      rw [List.foldl_cons, insert_of_notMem new, ih _ (by simpa using apart)]
      simp
  exact fold ms [] apart

/-- An object whose members have different keys is spelled with these members. -/
lemma Spells.distinct {strict : Bool} {u : Text} {ms : List (Text × Json)} (members : Spells strict u (.members ms))
    (apart : (ms.map Prod.fst).Nodup) :
    Spells strict (.char '\x7b' :: (u ++ [.char '\x7d'])) (.value (.object ms)) := by
  have object := Spells.object members fun _ => apart
  rwa [merge_of_nodup apart] at object

section
variable {strict : Bool}

lemma ends_blanks {b rest : Text} (blanks : Blanks b) (ends : Ends rest) : Ends (b ++ rest) := by
  cases b with
  | nil => exact ends
  | cons s b =>
    rintro _ ⟨⟩
    exact .inl (blanks s List.mem_cons_self)

lemma ends_mark {c : Char} (h : c = ',' ∨ c = ']' ∨ c = '\x7d') (rest : Text) : Ends (.char c :: rest) := by
  rintro _ ⟨⟩
  rcases h with rfl | rfl | rfl <;> simp

/-- A name or a number is one lexeme. -/
lemma readAs_scalar {u : Text} {v : Json} (begins : ∀ rest, ∀ s ∈ (u ++ rest).head?, BeginsScalar s)
    (read : ∀ rest, Ends rest → readScalar (u ++ rest) = (.scalar v, rest))
    (short : ∀ rest, Ends rest → strict = true → (Lexeme.mk (.scalar v) (u ++ rest)).isStrict = true) :
    ReadAs strict u (.value v) := by
  intro rest ends
  refine ⟨[⟨.scalar v, u ++ rest⟩], lexemes_scalar (begins rest) (read rest ends), ?_, ?_⟩
  · simpa using short rest ends
  · exact fun expects room => .begin expects room (by simp) rfl

lemma readAs_null : ReadAs strict (Text.ofChars ['n', 'u', 'l', 'l']) (.value .null) := by
  refine readAs_scalar (fun rest => ?_) (fun rest _ => readScalar_null rest) fun _ _ _ => rfl
  rintro _ ⟨⟩
  exact ⟨rfl, rfl, by simp⟩

lemma readAs_bool (b : Bool) :
    ReadAs strict (Text.ofChars (if b then ['t', 'r', 'u', 'e'] else ['f', 'a', 'l', 's', 'e']))
    (.value (.bool b)) := by
  refine readAs_scalar (fun rest => ?_) (fun rest _ => readScalar_bool b rest) fun _ _ _ => rfl
  cases b
  · rintro _ ⟨⟩
    exact ⟨rfl, rfl, by simp⟩
  · rintro _ ⟨⟩
    exact ⟨rfl, rfl, by simp⟩

lemma beginsScalar_number {u : Text} {ds : List ℕ} (negative : Bool) (digits : Digits u ds) (given : ds ≠ [])
    (rest : Text) : ∀ s ∈ (sign negative ++ (u ++ rest)).head?, BeginsScalar s := by
  cases digits with
  | nil => exact absurd rfl given
  | cons hd _ =>
    cases negative
    · rintro _ ⟨⟩
      exact beginsScalar_of_digit hd
    · rintro _ ⟨⟩
      exact ⟨rfl, rfl, by simp⟩

lemma readAs_int {u : Text} {ds : List ℕ} (negative : Bool) (digits : Digits u ds) (whole : IsWhole ds)
    (short : ds.length ≤ Digit.maxDigits) :
    ReadAs strict (sign negative ++ u) (.value (.int (signed negative (Digit.number 10 ds)))) := by
  refine readAs_scalar (fun rest => ?_) (fun rest ends => ?_) fun _ _ _ => rfl
  · rw [List.append_assoc]
    exact beginsScalar_number negative digits whole.1 rest
  · rw [List.append_assoc, readScalar_number negative digits whole.1,
      readNumber_int _ negative digits whole short ends]
    rfl

lemma readAs_float {u f x : Text} {ds fs : List ℕ} {e : Option ℤ} (negative : Bool) (digits : Digits u ds)
    (whole : IsWhole ds) (short : strict = true → ds.length ≤ Digit.maxDigits) (fraction : Fraction f fs)
    (exponent : Exponent x e) (marked : fs ≠ [] ∨ e ≠ none) :
    ReadAs strict (sign negative ++ (u ++ (f ++ x)))
      (.value (.float (.ofDecimal negative (Digit.number 10 (ds ++ fs)) (e.getD 0 - fs.length)))) := by
  have regroup (rest : Text) :
      sign negative ++ (u ++ (f ++ x)) ++ rest = sign negative ++ (u ++ (f ++ (x ++ rest))) := by
    simp only [List.append_assoc]
  refine readAs_scalar (fun rest => ?_) (fun rest ends => ?_) fun rest ends isStrict => ?_
  · rw [regroup]
    exact beginsScalar_number negative digits whole.1 _
  · rw [regroup, readScalar_number negative digits whole.1,
      readNumber_float _ negative digits whole fraction exponent marked ends]
    rfl
  · rw [regroup]
    have length := wholeDigits_number
      (.scalar (.float (.ofDecimal negative (Digit.number 10 (ds ++ fs)) (e.getD 0 - fs.length))))
      negative digits whole (noDigit_of_marked fraction exponent ends).1
    simpa [Lexeme.isStrict, length] using short isStrict

lemma readAs_text {u t : Text} (quotes : Quotes u t) (plain : strict = true → Text.isPlain t = true) :
    ReadAs strict (.char '\x22' :: (u ++ [.char '\x22'])) (.value (.string t)) := by
  intro rest _
  refine ⟨[⟨.text t, .char '\x22' :: (u ++ .char '\x22' :: rest)⟩], ?_, ?_, ?_⟩
  · simpa using lexemes_text quotes rest
  · simpa [Lexeme.isStrict] using plain
  · exact fun expects room => .begin expects room (by simp) rfl

/-- A text without items or members between two marks. -/
lemma lexemes_empty {b : Text} {c c' : Char} {token token' : Token} (blanks : Blanks b)
    (first : mark? (.char c) = some token) (last : mark? (.char c') = some token') (rest : Text) :
    lexemes (.char c :: (b ++ [.char c']) ++ rest) =
      [⟨token, .char c :: (b ++ .char c' :: rest)⟩, ⟨token', .char c' :: rest⟩] ++ lexemes rest := by
  have regroup : Symbol.char c :: (b ++ [.char c']) ++ rest = .char c :: (b ++ .char c' :: rest) := by simp
  rw [regroup, lexemes_mark first, lexemes_blanks blanks, lexemes_mark last]
  rfl

lemma readAs_emptyArray {b : Text} (blanks : Blanks b) :
    ReadAs strict (.char '[' :: (b ++ [.char ']'])) (.value (.array [])) := by
  intro rest _
  refine ⟨_, lexemes_empty blanks rfl rfl rest, by simp [Lexeme.isStrict], fun expects room => ?_⟩
  exact (Leads.begin expects room (by simp) rfl).trans (.one nofun rfl)

lemma readBefore_emptyObject {b : Text} (blanks : Blanks b) (rest : Text) :
    ReadBefore strict rest (.char '\x7b' :: (b ++ [.char '\x7d'])) (.value (.object [])) := by
  refine ⟨_, lexemes_empty blanks rfl rfl rest, by simp [Lexeme.isStrict], fun expects room => ?_⟩
  exact (Leads.begin expects room (by simp) rfl).trans (.one nofun rfl)

lemma readAs_array {u : Text} {vs : List Json} (items : ReadAs strict u (.items vs)) :
    ReadAs strict (.char '[' :: (u ++ [.char ']'])) (.value (.array vs)) := by
  intro rest _
  obtain ⟨ls, lexed, strictly, carries⟩ := items _ (ends_mark (.inr (.inl rfl)) rest)
  have regroup : Symbol.char '[' :: (u ++ [.char ']']) ++ rest = .char '[' :: (u ++ .char ']' :: rest) := by simp
  refine ⟨⟨.openArray, .char '[' :: (u ++ .char ']' :: rest)⟩ :: (ls ++ [⟨.closeArray, .char ']' :: rest⟩]),
    ?_, ?_, ?_⟩
  · rw [regroup, lexemes_mark rfl, lexed, lexemes_mark rfl]
    simp
  · simpa [or_imp, forall_and, Lexeme.isStrict] using strictly
  · intro s stack expects room
    have opened : Leads strict s [⟨.openArray, .char '[' :: (u ++ .char ']' :: rest)⟩] ⟨stack, .firstItem⟩ :=
      .begin expects room (by simp) rfl
    have filled := carries [] (.firstItem stack) fun v hv => room.item hv
    have closed : Leads strict ⟨stack, .item vs.reverse⟩ [⟨.closeArray, .char ']' :: rest⟩]
        (complete stack (.array vs)) := by
      refine .one nofun ?_
      simp [step, closeArray]
    exact opened.trans (filled.trans (by simpa using closed))

/-- An object ends at its closing brace, whatever is behind it. -/
lemma readBefore_object {u : Text} {ms : List (Text × Json)} (members : ReadAs strict u (.members ms))
    (apart : strict = true → (ms.map Prod.fst).Nodup) (rest : Text) :
    ReadBefore strict rest (.char '\x7b' :: (u ++ [.char '\x7d'])) (.value (.object (merge ms))) := by
  obtain ⟨ls, lexed, strictly, carries⟩ := members _ (ends_mark (.inr (.inr rfl)) rest)
  have regroup : Symbol.char '\x7b' :: (u ++ [.char '\x7d']) ++ rest =
      .char '\x7b' :: (u ++ .char '\x7d' :: rest) := by simp
  refine ⟨⟨.openObject, .char '\x7b' :: (u ++ .char '\x7d' :: rest)⟩ ::
    (ls ++ [⟨.closeObject, .char '\x7d' :: rest⟩]), ?_, ?_, ?_⟩
  · rw [regroup, lexemes_mark rfl, lexed, lexemes_mark rfl]
    simp
  · simpa [or_imp, forall_and, Lexeme.isStrict] using strictly
  · intro s stack expects room
    have opened : Leads strict s [⟨.openObject, .char '\x7b' :: (u ++ .char '\x7d' :: rest)⟩] ⟨stack, .key [] true⟩ :=
      .begin expects room (by simp) rfl
    -- Only a strict spelling is read under a limit, and then no member was replaced.
    have roomy : ∀ m ∈ ms, Room strict (stack.length + 1) m.2 := fun m hm isStrict =>
      Room.member (by rwa [merge_of_nodup (apart isStrict)] at room) hm isStrict
    have filled := carries [] true roomy
    have closed : Leads strict ⟨stack, .member ms.reverse⟩ [⟨.closeObject, .char '\x7d' :: rest⟩]
        (complete stack (.object (merge ms))) := by
      refine .one nofun ?_
      simp [step, closeObject]
    exact opened.trans (filled.trans (by simpa using closed))

lemma readAs_spaced {b u b' : Text} {v : Json} (before : Blanks b) (value : ReadAs strict u (.value v))
    (after : Blanks b') : ReadAs strict (b ++ (u ++ b')) (.spaced v) := by
  intro rest ends
  obtain ⟨ls, lexed, strictly, carries⟩ := value _ (ends_blanks after ends)
  refine ⟨ls, ?_, strictly, carries⟩
  rw [List.append_assoc, List.append_assoc, lexemes_blanks before, lexed, lexemes_blanks after]

lemma readAs_lastItem {u : Text} {v : Json} (item : ReadAs strict u (.spaced v)) : ReadAs strict u (.items [v]) := by
  intro rest ends
  obtain ⟨ls, lexed, strictly, carries⟩ := item rest ends
  refine ⟨ls, lexed, strictly, fun done expects room => ?_⟩
  exact carries expects (room v (by simp))

lemma readAs_item {u u' : Text} {v : Json} {vs : List Json} (item : ReadAs strict u (.spaced v))
    (more : ReadAs strict u' (.items vs)) : ReadAs strict (u ++ .char ',' :: u') (.items (v :: vs)) := by
  intro rest ends
  obtain ⟨ls, lexed, strictly, carries⟩ := item _ (ends_mark (.inl rfl) (u' ++ rest))
  obtain ⟨ls', lexed', strictly', carries'⟩ := more rest ends
  refine ⟨ls ++ ⟨.comma, .char ',' :: (u' ++ rest)⟩ :: ls', ?_, ?_, ?_⟩
  · rw [List.append_assoc, List.cons_append, lexed, lexemes_mark rfl, lexed']
    simp
  · intro isStrict
    simpa [or_imp, forall_and, Lexeme.isStrict] using ⟨strictly isStrict, strictly' isStrict⟩
  · intro s stack done expects room
    have first := carries expects (room v (by simp))
    have comma : Leads strict ⟨stack, .item (v :: done)⟩ [⟨.comma, .char ',' :: (u' ++ rest)⟩]
        ⟨.array (v :: done) :: stack, .value⟩ := .one nofun rfl
    have others := carries' (v :: done) (.value _) fun w hw => room w (List.mem_cons_of_mem v hw)
    simpa using first.trans (comma.trans others)

lemma readAs_member {b k key b' u : Text} {v : Json} (before : Blanks b) (quotes : Quotes k key)
    (plain : strict = true → Text.isPlain key = true) (after : Blanks b') (value : ReadAs strict u (.spaced v)) :
    ReadAs strict (b ++ .char '\x22' :: (k ++ .char '\x22' :: (b' ++ .char ':' :: u))) (.member key v) := by
  intro rest ends
  obtain ⟨ls, lexed, strictly, carries⟩ := value rest ends
  have regroup : b ++ .char '\x22' :: (k ++ .char '\x22' :: (b' ++ .char ':' :: u)) ++ rest =
      b ++ .char '\x22' :: (k ++ .char '\x22' :: (b' ++ .char ':' :: (u ++ rest))) := by simp
  refine ⟨⟨.text key, .char '\x22' :: (k ++ .char '\x22' :: (b' ++ .char ':' :: (u ++ rest)))⟩ ::
    ⟨.colon, .char ':' :: (u ++ rest)⟩ :: ls, ?_, ?_, ?_⟩
  · rw [regroup, lexemes_blanks before, lexemes_text quotes, lexemes_blanks after, lexemes_mark rfl, lexed]
    rfl
  · intro isStrict
    simpa [Lexeme.isStrict, plain isStrict] using strictly isStrict
  · intro stack done mayClose room
    have named (l : Lexeme) (h : l.token = .text key) :
        Leads strict ⟨stack, .key done mayClose⟩ [l] ⟨stack, .colon done key⟩ := .one nofun (by simp [step, h])
    have colon (l : Lexeme) (h : l.token = .colon) :
        Leads strict ⟨stack, .colon done key⟩ [l] ⟨.object done key :: stack, .value⟩ :=
          .one nofun (by simp [step, h])
    exact (named _ rfl).trans ((colon _ rfl).trans (carries (.value _) room))

lemma readAs_lastMember {u key : Text} {v : Json} (member : ReadAs strict u (.member key v)) :
    ReadAs strict u (.members [(key, v)]) := by
  intro rest ends
  obtain ⟨ls, lexed, strictly, carries⟩ := member rest ends
  refine ⟨ls, lexed, strictly, fun done mayClose room => ?_⟩
  exact carries done mayClose (room (key, v) (by simp))

lemma readAs_moreMembers {u u' key : Text} {v : Json} {ms : List (Text × Json)}
    (member : ReadAs strict u (.member key v)) (more : ReadAs strict u' (.members ms)) :
    ReadAs strict (u ++ .char ',' :: u') (.members ((key, v) :: ms)) := by
  intro rest ends
  obtain ⟨ls, lexed, strictly, carries⟩ := member _ (ends_mark (.inl rfl) (u' ++ rest))
  obtain ⟨ls', lexed', strictly', carries'⟩ := more rest ends
  refine ⟨ls ++ ⟨.comma, .char ',' :: (u' ++ rest)⟩ :: ls', ?_, ?_, ?_⟩
  · rw [List.append_assoc, List.cons_append, lexed, lexemes_mark rfl, lexed']
    simp
  · intro isStrict
    simpa [or_imp, forall_and, Lexeme.isStrict] using ⟨strictly isStrict, strictly' isStrict⟩
  · intro stack done mayClose room
    have first := carries done mayClose (room (key, v) (by simp))
    have comma : Leads strict ⟨stack, .member ((key, v) :: done)⟩ [⟨.comma, .char ',' :: (u' ++ rest)⟩]
        ⟨stack, .key ((key, v) :: done) false⟩ := .one nofun rfl
    have others := carries' ((key, v) :: done) false fun m hm => room m (List.mem_cons_of_mem _ hm)
    simpa using first.trans (comma.trans others)

end

/-- Every spelling is read as what it spells. -/
theorem Spells.readAs {strict : Bool} {u : Text} {p : Phrase} (h : Spells strict u p) : ReadAs strict u p := by
  induction h with
  | null => exact readAs_null
  | bool b => exact readAs_bool b
  | int negative digits whole short => exact readAs_int negative digits whole short
  | float negative digits whole short fraction exponent marked =>
    exact readAs_float negative digits whole short fraction exponent marked
  | text quotes plain => exact readAs_text quotes plain
  | emptyArray blanks => exact readAs_emptyArray blanks
  | array _ items => exact readAs_array items
  | emptyObject blanks => exact fun rest _ => readBefore_emptyObject blanks rest
  | object _ apart members => exact fun rest _ => readBefore_object members apart rest
  | spaced before _ after value => exact readAs_spaced before value after
  | lastItem _ item => exact readAs_lastItem item
  | item _ _ item more => exact readAs_item item more
  | member before quotes plain after _ value => exact readAs_member before quotes plain after value
  | lastMember _ member => exact readAs_lastMember member
  | moreMembers _ _ member more => exact readAs_moreMembers member more

/-! ## Whole texts -/

section
variable {strict : Bool} {t : Text} {v : Json}

/-- The lexemes of a spelling, and what reading them from the start comes to. -/
lemma Spells.lexed (h : Spells strict t (.spaced v)) (room : Room strict 0 v) :
    (strict = true → ∀ l ∈ lexemes t, l.isStrict = true) ∧
      readLexemes (limitOf strict) start (lexemes t) = .ok v := by
  obtain ⟨ls, lexed, strictly, carries⟩ := h.readAs [] (by rintro _ ⟨⟩)
  rw [List.append_nil, lexemes_nil] at lexed
  rw [lexed]
  constructor
  · intro isStrict
    simpa [or_imp, forall_and, Lexeme.isStrict] using strictly isStrict
  · exact carries (.value []) room _

theorem Spells.read_eq (h : Spells false t (.spaced v)) : read t = .ok v := by
  have whole := (h.lexed nofun).2
  simp [read, show readLexemes none start (lexemes t) = .ok v from whole]

theorem Spells.readStrict_eq (h : Spells true t (.spaced v)) (within : v.Within maxNesting) :
    readStrict t = some v := by
  obtain ⟨strictly, whole⟩ := h.lexed fun _ => ⟨maxNesting, by simp, within⟩
  have all : (lexemes t).all Lexeme.isStrict = true := List.all_eq_true.2 (strictly rfl)
  simp [readStrict, all, show readLexemes (some maxNesting) start (lexemes t) = .ok v from whole, Except.toOption]

end

/-! ## The symbols of spellings -/

/-- A symbol other than the character zero. -/
def Given (s : Symbol) : Prop := s.code ≠ 0

section
variable {strict : Bool} {u t : Text}

lemma given_char {c : Char} (h : c ≠ '\x00') : Given (.char c) := by
  intro zero
  exact h (Char.toNat_inj.1 zero)

lemma Blanks.given (blanks : Blanks u) : ∀ s ∈ u, Given s := by
  intro s hs
  have blank := blanks s hs
  simp only [isBlank, Bool.or_eq_true, beq_iff_eq] at blank
  rcases blank with ((rfl | rfl) | rfl) | rfl <;> exact given_char (by decide)

lemma given_of_hexDigit {s : Symbol} {n : ℕ} (h : hexDigit? s = some n) : Given s := by
  cases s with
  | lone half => cases h
  | char c =>
    refine given_char ?_
    rintro rfl
    cases h

lemma given_codeEscape {a b c d : Symbol} {n : ℕ} (h : hexCode? a b c d = some n) :
    ∀ s ∈ codeEscape a b c d, Given s := by
  simp only [hexCode?, Option.bind_eq_bind, Option.bind_eq_some_iff] at h
  obtain ⟨_, ha, _, hb, _, hc, _, hd, -⟩ := h
  simp only [codeEscape, List.forall_mem_cons]
  exact ⟨given_char (by decide), given_char (by decide), given_of_hexDigit ha, given_of_hexDigit hb,
    given_of_hexDigit hc,
    given_of_hexDigit hd, by simp⟩

lemma Quotes.given (quotes : Quotes u t) : ∀ s ∈ u, Given s := by
  induction quotes with
  | nothing => simp
  | symbol printed _ _ _ ih =>
    simp only [List.forall_mem_cons]
    exact ⟨fun zero => by omega, ih⟩
  | @letter e c _ _ written _ ih =>
    have escape : Given e := by
      cases e with
      | lone half => cases written
      | char e =>
        refine given_char ?_
        rintro rfl
        cases written
    simp only [List.forall_mem_cons]
    exact ⟨given_char (by decide), escape, ih⟩
  | code written _ _ ih => exact List.forall_mem_append.2 ⟨given_codeEscape written, ih⟩
  | pair first _ second _ _ ih =>
    exact List.forall_mem_append.2 ⟨given_codeEscape first, List.forall_mem_append.2 ⟨given_codeEscape second, ih⟩⟩
  | half written _ _ _ ih => exact List.forall_mem_append.2 ⟨given_codeEscape written, ih⟩

lemma Digits.given {ds : List ℕ} (digits : Digits u ds) : ∀ s ∈ u, Given s := by
  induction digits with
  | nil => simp
  | @cons s d _ _ hd _ ih =>
    have digit : Given s := by
      cases s with
      | lone half => cases hd
      | char c =>
        refine given_char ?_
        rintro rfl
        cases hd
    exact List.forall_mem_cons.2 ⟨digit, ih⟩

lemma given_sign (negative : Bool) : ∀ s ∈ sign negative, Given s := by
  cases negative
  · simp [sign]
  · simpa [sign] using given_char (by decide)

lemma Fraction.given {fs : List ℕ} (fraction : Fraction u fs) : ∀ s ∈ u, Given s := by
  cases fraction with
  | nothing => simp
  | point digits _ => exact List.forall_mem_cons.2 ⟨given_char (by decide), digits.given⟩

lemma Exponent.given {e : Option ℤ} (exponent : Exponent u e) : ∀ s ∈ u, Given s := by
  have mark {c : Char} (marked : c = 'e' ∨ c = 'E') : Given (.char c) := by
    rcases marked with rfl | rfl <;> exact given_char (by decide)
  cases exponent with
  | nothing => simp
  | unsigned marked digits _ => exact List.forall_mem_cons.2 ⟨mark marked, digits.given⟩
  | plus marked digits _ =>
    exact List.forall_mem_cons.2 ⟨mark marked, List.forall_mem_cons.2 ⟨given_char (by decide), digits.given⟩⟩
  | minus marked digits _ =>
    exact List.forall_mem_cons.2 ⟨mark marked, List.forall_mem_cons.2 ⟨given_char (by decide), digits.given⟩⟩

/-- No spelling holds the character zero. -/
lemma Spells.given {p : Phrase} (h : Spells strict u p) : ∀ s ∈ u, Given s := by
  have char {c : Char} (h : c ≠ '\x00') := given_char h
  have quote : Given (.char '\x22') := given_char (by decide)
  induction h with
  | null => simpa [Text.ofChars] using ⟨char (by decide), char (by decide), char (by decide)⟩
  | bool b =>
    cases b
    · simpa [Text.ofChars] using
        ⟨char (by decide), char (by decide), char (by decide), char (by decide), char (by decide)⟩
    · simpa [Text.ofChars] using ⟨char (by decide), char (by decide), char (by decide), char (by decide)⟩
  | int negative digits _ _ => exact List.forall_mem_append.2 ⟨given_sign negative, digits.given⟩
  | float negative digits _ _ fraction exponent _ =>
    simpa only [List.forall_mem_append] using ⟨given_sign negative, digits.given, fraction.given, exponent.given⟩
  | text quotes _ => simpa [or_imp, forall_and] using ⟨quote, quotes.given, quote⟩
  | emptyArray blanks =>
    simpa [or_imp, forall_and] using ⟨char (by decide), blanks.given, char (by decide)⟩
  | array _ ih => simpa [or_imp, forall_and] using ⟨char (by decide), ih, char (by decide)⟩
  | emptyObject blanks =>
    simpa [or_imp, forall_and] using ⟨char (by decide), blanks.given, char (by decide)⟩
  | object _ _ ih => simpa [or_imp, forall_and] using ⟨char (by decide), ih, char (by decide)⟩
  | spaced before _ after ih => simpa only [List.forall_mem_append] using ⟨before.given, ih, after.given⟩
  | lastItem _ ih => exact ih
  | item _ _ ih ih' => simpa only [List.forall_mem_append, List.forall_mem_cons] using ⟨ih, char (by decide), ih'⟩
  | member before quotes _ after _ ih =>
    simpa only [List.forall_mem_append, List.forall_mem_cons] using
      ⟨before.given, quote, quotes.given, quote, after.given, char (by decide), ih⟩
  | lastMember _ ih => exact ih
  | moreMembers _ _ ih ih' =>
    simpa only [List.forall_mem_append, List.forall_mem_cons] using ⟨ih, char (by decide), ih'⟩

/-- A text begins with an ASCII character. -/
def BeginsAscii (u : Text) : Prop := ∃ c rest, u = .char c :: rest ∧ c.toNat < 128

lemma beginsAscii_number {ds : List ℕ} (negative : Bool) (digits : Digits u ds) (given : ds ≠ []) (rest : Text) :
    BeginsAscii (sign negative ++ (u ++ rest)) := by
  cases negative with
  | true => exact ⟨'-', _, rfl, by decide⟩
  | false =>
    cases digits with
    | nil => exact absurd rfl given
    | @cons s d u _ hd _ =>
      cases s with
      | lone half => cases hd
      | char c =>
        refine ⟨c, u ++ rest, rfl, ?_⟩
        simp only [digit?, Digit.ascii?, Option.ite_none_right_eq_some] at hd
        omega

lemma Spells.beginsAscii {v : Json} (h : Spells strict u (.value v)) : BeginsAscii u := by
  cases h with
  | null => exact ⟨'n', _, rfl, by decide⟩
  | bool b =>
    cases b
    · exact ⟨'f', _, rfl, by decide⟩
    · exact ⟨'t', _, rfl, by decide⟩
  | int negative digits whole _ => simpa using beginsAscii_number negative digits whole.1 []
  | float negative digits whole _ _ _ _ => exact beginsAscii_number negative digits whole.1 _
  | text => exact ⟨'\x22', _, rfl, by decide⟩
  | emptyArray => exact ⟨'[', _, rfl, by decide⟩
  | array => exact ⟨'[', _, rfl, by decide⟩
  | emptyObject => exact ⟨'\x7b', _, rfl, by decide⟩
  | object => exact ⟨'\x7b', _, rfl, by decide⟩

lemma Spells.beginsAscii_spaced {v : Json} (h : Spells strict u (.spaced v)) : BeginsAscii u := by
  cases h with
  | @spaced b u b' _ before value after =>
    cases b with
    | nil =>
      obtain ⟨c, rest, rfl, ascii⟩ := value.beginsAscii
      exact ⟨c, rest ++ b', rfl, ascii⟩
    | cons s b =>
      have blank := before s List.mem_cons_self
      simp only [isBlank, Bool.or_eq_true, beq_iff_eq] at blank
      rcases blank with ((rfl | rfl) | rfl) | rfl <;> exact ⟨_, _, rfl, by decide⟩

/-- No byte order mark stands before a spelling. -/
theorem Spells.readUnmarked_eq {v : Json} (h : Spells false t (.spaced v)) : readUnmarked t = .ok v := by
  obtain ⟨c, rest, rfl, ascii⟩ := h.beginsAscii_spaced
  have unmarked : c ≠ '\ufeff' := by
    rintro rfl
    exact absurd ascii (by decide)
  simp [readUnmarked, unmarked, h.read_eq]

end

end ReplicaWatch.Json
