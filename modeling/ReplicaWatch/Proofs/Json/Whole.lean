import Mathlib
import ReplicaWatch.Proofs.Json.Lexing
import ReplicaWatch.Proofs.Json.Members

/-! Documents with all their members. Reading keeps only the last member of those with one key; the same machine can
keep them all. Main statement: what is read is the whole document once every object is left with the last member of
each key. -/
namespace ReplicaWatch.Json

/-! ## Objects whose keys come again -/

mutual

/-- A value in which every object is left with the last member of each key. -/
def settled : Json → Json
  | array items => .array (settledItems items)
  | object members => .object (merge (settledMembers members))
  | v => v

def settledItems : List Json → List Json
  | [] => []
  | v :: rest => v.settled :: settledItems rest

def settledMembers : List (Text × Json) → List (Text × Json)
  | [] => []
  | (k, v) :: rest => (k, v.settled) :: settledMembers rest

end

lemma settledItems_eq_map (vs : List Json) : settledItems vs = vs.map settled := by
  induction vs with
  | nil => rfl
  | cons v rest ih => rw [settledItems, ih, List.map_cons]

lemma settledMembers_eq_map (ms : List (Text × Json)) : settledMembers ms = ms.map fun m => (m.1, m.2.settled) := by
  induction ms with
  | nil => rfl
  | cons m rest ih => rw [settledMembers, ih, List.map_cons]

lemma lookup_settledMembers (k : Text) (ms : List (Text × Json)) :
    lookup k (settledMembers ms) = (lookup k ms).map settled := by
  induction ms with
  | nil => rfl
  | cons m ms ih =>
    obtain ⟨k', v⟩ := m
    by_cases h : k' = k <;> simp [settledMembers, lookup, h, ih]

/-- What stands under a name of a settled object. -/
lemma member?_settled (name : String) (ms : List (Text × Json)) :
    (object ms).settled.member? name = (lookup (.ofString name) ms.reverse).map settled := by
  have reversed : (settledMembers ms).reverse = settledMembers ms.reverse := by simp [settledMembers_eq_map]
  rw [settled, member?, lookup_merge, reversed, lookup_settledMembers]

/-! ## The machine that keeps every member -/

/-- Reads one lexeme, and keeps all members of an object that it closes. -/
def stepWhole (limit : Option ℕ) (s : State) (l : Lexeme) : Except (Complaint × Text) State :=
  match s.mode, l.token with
  | .member done, .closeObject => .ok (complete s.stack (.object done.reverse))
  | .key done true, .closeObject => .ok (complete s.stack (.object done.reverse))
  | _, _ => step limit s l

def readLexemesWhole (limit : Option ℕ) : State → List Lexeme → Except (Complaint × Text) Json
  | _, [] => .error (.expectedValue, [])
  | s, l :: rest =>
    match s.mode, l.token with
    | .finished v, .finish => .ok v
    | _, _ =>
      match stepWhole limit s l with
      | .ok s => readLexemesWhole limit s rest
      | .error e => .error e

/-- The document that a text writes, with all members of its objects. -/
def readWhole (t : Text) : Option Json :=
  let ls := lexemes t
  if ls.all Lexeme.isStrict then (readLexemesWhole (some maxNesting) start ls).toOption else none

def Frame.settled : Frame → Frame
  | array done => .array (done.map Json.settled)
  | object done key => .object (done.map fun m => (m.1, m.2.settled)) key

def Mode.settled : Mode → Mode
  | item done => .item (done.map Json.settled)
  | key done mayClose => .key (done.map fun m => (m.1, m.2.settled)) mayClose
  | colon done k => .colon (done.map fun m => (m.1, m.2.settled)) k
  | member done => .member (done.map fun m => (m.1, m.2.settled))
  | finished v => .finished v.settled
  | value => .value
  | firstItem => .firstItem

def State.settled (s : State) : State := ⟨s.stack.map Frame.settled, s.mode.settled⟩

lemma settled_complete (stack : List Frame) (v : Json) :
    (complete stack v).settled = complete (stack.map Frame.settled) v.settled := by
  cases stack with
  | nil => rfl
  | cons f rest => cases f <;> rfl

/-- A lexeme that is a value by itself is none that could hold members. -/
def Lexeme.IsAtomic (l : Lexeme) : Prop := ∀ v, l.token = .scalar v → v.settled = v

lemma beginValue_settled (limit : Option ℕ) (stack : List Frame) {l : Lexeme} (atomic : l.IsAtomic) :
    beginValue limit (stack.map Frame.settled) l = (beginValue limit stack l).map State.settled := by
  unfold beginValue
  rw [List.length_map]
  split
  · rfl
  · split
    · rfl
    · rfl
    · simp [Except.map, settled_complete, settled]
    · next v token => simp [Except.map, settled_complete, atomic v token]
    · rfl
    · rfl

/-- The machine does with settled members what it does with all of them. -/
lemma step_settled (limit : Option ℕ) (s : State) {l : Lexeme} (atomic : l.IsAtomic) :
    step limit s.settled l = (stepWhole limit s l).map State.settled := by
  obtain ⟨stack, mode⟩ := s
  have closing (done : List (Text × Json)) :
      closeObject (stack.map Frame.settled) (done.map fun m => (m.1, m.2.settled)) =
        (complete stack (.object done.reverse)).settled := by
    rw [settled_complete, closeObject, settled, settledMembers_eq_map, List.map_reverse]
  have settled_mk (mode : Mode) : State.settled ⟨stack, mode⟩ = ⟨stack.map Frame.settled, mode.settled⟩ := rfl
  rw [settled_mk]
  cases mode with
  | value => exact beginValue_settled limit stack atomic
  | firstItem =>
    have begun := beginValue_settled limit (.array [] :: stack) atomic
    simp only [step, stepWhole, Mode.settled]
    split
    · exact congrArg Except.ok (settled_complete stack (.array [])).symm
    · exact begun
  | item done =>
    simp only [step, stepWhole, Mode.settled]
    split
    · rfl
    · simp [Except.map, closeArray, settled_complete, settled, settledItems_eq_map]
    · rfl
  | key done mayClose =>
    simp only [step, stepWhole, Mode.settled]
    cases token : l.token with
    | closeObject =>
      cases mayClose with
      | true => exact congrArg Except.ok (closing done)
      | false => rfl
    | broken flaw place => cases flaw <;> cases mayClose <;> rfl
    | _ => cases mayClose <;> rfl
  | colon done k =>
    simp only [step, stepWhole, Mode.settled]
    split <;> rfl
  | member done =>
    simp only [step, stepWhole, Mode.settled]
    cases token : l.token with
    | closeObject => exact congrArg Except.ok (closing done)
    | _ => rfl
  | finished v => rfl

lemma readLexemes_settled (limit : Option ℕ) (s : State) {ls : List Lexeme} (atomic : ∀ l ∈ ls, l.IsAtomic) :
    readLexemes limit s.settled ls = (readLexemesWhole limit s ls).map settled := by
  induction ls generalizing s with
  | nil => rfl
  | cons l rest ih =>
    obtain ⟨first, later⟩ := List.forall_mem_cons.1 atomic
    obtain ⟨stack, mode⟩ := s
    have stepped := step_settled limit ⟨stack, mode⟩ first
    have onwards : (match step limit (State.settled ⟨stack, mode⟩) l with
        | .ok s => readLexemes limit s rest
        | .error e => .error e) =
        (match stepWhole limit ⟨stack, mode⟩ l with
          | .ok s => readLexemesWhole limit s rest
          | .error e => .error e).map settled := by
      rw [stepped]
      cases stepWhole limit ⟨stack, mode⟩ l with
      | ok s => exact ih s later
      | error e => rfl
    unfold readLexemes readLexemesWhole
    cases mode with
    | finished v =>
      cases token : l.token with
      | finish => rfl
      | _ => exact onwards
    | _ => exact onwards

/-! ## Atomic lexemes -/

lemma settled_of_isScalar {v : Json} (h : Token.IsScalar (.scalar v)) : v.settled = v := by
  cases h with
  | value atomic => cases v <;> simp_all [kind, settled]

lemma isAtomic_readToken (s : Symbol) (rest place : Text) : (Lexeme.mk (readToken s rest).1 place).IsAtomic := by
  intro v token
  dsimp only at token
  unfold readToken at token
  split at token
  · next mark =>
    subst token
    unfold mark? at mark
    split at mark
    · repeat (split at mark; · simp at mark)
      cases mark
    · cases mark
  · split at token
    · split at token <;> cases token
    · exact settled_of_isScalar (token ▸ isScalar_readScalar _)

lemma isAtomic_lexemes (t : Text) : ∀ l ∈ lexemes t, l.IsAtomic := by
  unfold lexemes
  generalize t.length + 1 = n
  induction n generalizing t with
  | zero => simp [lexemesWithin, Lexeme.IsAtomic]
  | succ n ih =>
    cases t with
    | nil => simp [lexemesWithin, Lexeme.IsAtomic]
    | cons s rest =>
      simp only [lexemesWithin]
      split
      · exact ih rest
      · refine List.forall_mem_cons.2 ⟨isAtomic_readToken s rest _, ?_⟩
        split
        · exact ih _
        · simp

/-- A document is read as what is written in it, each object left with the last member of each key. -/
theorem readStrict_eq_settled (t : Text) : readStrict t = (readWhole t).map settled := by
  have run := readLexemes_settled (some maxNesting) start (isAtomic_lexemes t)
  have fresh : start.settled = start := rfl
  rw [fresh] at run
  simp only [readStrict, readWhole]
  split
  · rw [run]
    cases readLexemesWhole (some maxNesting) start (lexemes t) <;> rfl
  · rfl

end ReplicaWatch.Json
