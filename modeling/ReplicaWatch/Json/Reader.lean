import ReplicaWatch.Json.Lexeme

/-! Reading JSON. A machine with a stack of unfinished arrays and objects reads the lexemes one by one and stops at
the first that cannot stand where it does, or where a bound on the nesting is exceeded. Main definitions: `read` for
texts, which tells where and why a text is no JSON, and `readStrict` for documents, which tells nothing but refuses
more. -/
namespace ReplicaWatch.Json

/-- Why a text is no JSON. -/
inductive Complaint where
  | expectedValue
  | expectedKey
  | expectedColon
  | expectedComma
  | trailing
  | mark
  | nesting
  | flaw (f : Flaw)
  deriving DecidableEq, Repr

/-- A complaint and where it arises: line and column count from one, the offset from zero. -/
structure Fault where
  complaint : Complaint
  line : Nat
  column : Nat
  offset : Nat
  deriving DecidableEq, Repr

def Complaint.message : Complaint → String
  | expectedValue => "Expecting value"
  | expectedKey => "Expecting property name enclosed in double quotes"
  | expectedColon => "Expecting ':' delimiter"
  | expectedComma => "Expecting ',' delimiter"
  | trailing => "Extra data"
  | mark => "Unexpected UTF-8 BOM (decode using utf-8-sig)"
  | nesting => "Nested too deeply"
  | flaw .control => "Invalid control character at"
  | flaw .escape => "Invalid \\escape"
  | flaw .codeEscape => "Invalid \\uXXXX escape"
  | flaw .unterminated => "Unterminated string starting at"
  | flaw (.tooManyDigits digits) =>
    s!"Exceeds the limit ({Digit.maxDigits} digits) for integer string conversion: value has {digits} digits; " ++
      "use sys.set_int_max_str_digits() to increase the limit"

/-- The message of a fault. One about the length of a number does not tell its place. -/
def Fault.message (f : Fault) : String :=
  match f.complaint with
  | .flaw (.tooManyDigits _) => f.complaint.message
  | _ => s!"{f.complaint.message}: line {f.line} column {f.column} (char {f.offset})"

/-- Locates a complaint about the end of a text that begins with the given rest. -/
def Fault.locate (whole : Text) (complaint : Complaint) (rest : Text) : Fault :=
  let offset := whole.length - rest.length
  let before := whole.take offset
  let newline := Symbol.char '\n'
  ⟨complaint, before.count newline + 1, (before.reverse.takeWhile (· != newline)).length + 1, offset⟩

/-- An array or object that is being read, its last items first. -/
inductive Frame where
  | array (done : List Json)
  | object (done : List (Text × Json)) (key : Text)

/-- What the next lexeme may be. -/
inductive Mode where
  | value
  | firstItem
  | item (done : List Json)
  | key (done : List (Text × Json)) (mayClose : Bool)
  | colon (done : List (Text × Json)) (key : Text)
  | member (done : List (Text × Json))
  | finished (v : Json)

structure State where
  stack : List Frame
  mode : Mode

def start : State := ⟨[], .value⟩

/-- A value is complete; what follows depends on what it lies in. -/
def complete (stack : List Frame) (v : Json) : State :=
  match stack with
  | [] => ⟨[], .finished v⟩
  | .array done :: rest => ⟨rest, .item (v :: done)⟩
  | .object done key :: rest => ⟨rest, .member ((key, v) :: done)⟩

def closeArray (stack : List Frame) (done : List Json) : State := complete stack (.array done.reverse)

def closeObject (stack : List Frame) (done : List (Text × Json)) : State :=
  complete stack (.object (merge done.reverse))

/-- Reads a lexeme where a value has to stand. The value lies in as many arrays and objects as the stack holds, and
there may be a limit to them; an array or object without items is not on the stack, so that it may lie one deeper. -/
def beginValue (limit : Option Nat) (stack : List Frame) (l : Lexeme) : Except (Complaint × Text) State :=
  if limit.any (· < stack.length) then .error (.nesting, l.place)
  else match l.token with
  | .openArray => .ok ⟨stack, .firstItem⟩
  | .openObject => .ok ⟨stack, .key [] true⟩
  | .text t => .ok (complete stack (.string t))
  | .scalar v => .ok (complete stack v)
  | .broken f place => .error (.flaw f, place)
  | _ => .error (.expectedValue, l.place)

/-- Reads one lexeme. -/
def step (limit : Option Nat) (s : State) (l : Lexeme) : Except (Complaint × Text) State :=
  match s.mode with
  | .value => beginValue limit s.stack l
  | .firstItem =>
    match l.token with
    | .closeArray => .ok (closeArray s.stack [])
    | _ => beginValue limit (.array [] :: s.stack) l
  | .item done =>
    match l.token with
    | .comma => .ok ⟨.array done :: s.stack, .value⟩
    | .closeArray => .ok (closeArray s.stack done)
    | _ => .error (.expectedComma, l.place)
  | .key done mayClose =>
    match l.token with
    | .text t => .ok ⟨s.stack, .colon done t⟩
    | .closeObject =>
      if mayClose then .ok (closeObject s.stack done) else .error (.expectedKey, l.place)
    | .broken (.tooManyDigits _) _ => .error (.expectedKey, l.place)
    | .broken f place => .error (.flaw f, place)
    | _ => .error (.expectedKey, l.place)
  | .colon done key =>
    match l.token with
    | .colon => .ok ⟨.object done key :: s.stack, .value⟩
    | _ => .error (.expectedColon, l.place)
  | .member done =>
    match l.token with
    | .comma => .ok ⟨s.stack, .key done false⟩
    | .closeObject => .ok (closeObject s.stack done)
    | _ => .error (.expectedComma, l.place)
  | .finished _ => .error (.trailing, l.place)

/-- Reads lexemes up to the end of the text. -/
def readLexemes (limit : Option Nat) : State → List Lexeme → Except (Complaint × Text) Json
  | _, [] => .error (.expectedValue, [])
  | s, l :: rest =>
    match s.mode, l.token with
    | .finished v, .finish => .ok v
    | _, _ =>
      match step limit s l with
      | .ok s => readLexemes limit s rest
      | .error e => .error e

/-- The value that a text writes, or the first fault in it. -/
def read (t : Text) : Except Fault Json :=
  match readLexemes none start (lexemes t) with
  | .ok v => .ok v
  | .error (complaint, rest) => .error (.locate t complaint rest)

/-- The value that a text writes; a byte order mark in front of it is a fault. -/
def readUnmarked (t : Text) : Except Fault Json :=
  if t.head? = some (.char '\ufeff') then .error (.locate t .mark t) else read t

/-- No value of a document lies in more arrays and objects than this. -/
def maxNesting : Nat := 200

/-- Whether a lexeme may stand in a document: no half of a surrogate pair is left alone in a text, and the digits
before the point of a number are no more than an integer may have. -/
def Lexeme.isStrict (l : Lexeme) : Bool :=
  match l.token with
  | .text t => Text.isPlain t
  | .scalar (.float _) => l.wholeDigits ≤ Digit.maxDigits
  | _ => true

/-- The value of a document: all its lexemes are strict, those of members that later ones replace too, and its nesting
is bounded. -/
def readStrict (t : Text) : Option Json :=
  let ls := lexemes t
  if ls.all Lexeme.isStrict then (readLexemes (some maxNesting) start ls).toOption else none

end ReplicaWatch.Json
