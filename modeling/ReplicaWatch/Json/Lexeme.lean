import ReplicaWatch.Json.Value
import ReplicaWatch.Text.Digit

/-! The lexemes of a JSON text. Each one keeps the text from its first symbol on, which locates it. A lexeme that
is begun but ill-formed ends the list; what is wrong with it matters only where it would have been read. -/
namespace ReplicaWatch.Json

/-- What can be wrong within a lexeme. -/
inductive Flaw where
  | control
  | escape
  | codeEscape
  | unterminated
  | tooManyDigits (digits : Nat)
  deriving DecidableEq, Repr

inductive Token where
  | openArray
  | closeArray
  | openObject
  | closeObject
  | comma
  | colon
  | text (t : Text)
  | scalar (v : Json)
  | broken (flaw : Flaw) (place : Text)
  | foreign
  | finish

/-- A token and the text that begins with it. -/
structure Lexeme where
  token : Token
  place : Text

def isBlank (s : Symbol) : Bool :=
  s == .char ' ' || s == .char '\t' || s == .char '\n' || s == .char '\r'

def digit? : Symbol → Option Nat
  | .char c => Digit.ascii? c
  | .lone _ => none

def hexDigit? : Symbol → Option Nat
  | .char c => Digit.hexValue? c
  | .lone _ => none

/-- The number that four hexadecimal digits write. -/
def hexCode? (a b c d : Symbol) : Option Nat := do
  let a ← hexDigit? a
  let b ← hexDigit? b
  let c ← hexDigit? c
  let d ← hexDigit? d
  return ((a * 16 + b) * 16 + c) * 16 + d

/-- The character that an escape of one letter stands for. -/
def escaped? (s : Symbol) : Option Char :=
  match s with
  | .char c =>
    if c = '\x22' || c = '\x5c' || c = '/' then some c
    else if c = 'b' then some '\x08'
    else if c = 'f' then some '\x0c'
    else if c = 'n' then some '\n'
    else if c = 'r' then some '\r'
    else if c = 't' then some '\t'
    else none
  | .lone _ => none

def isHighCode (n : Nat) : Bool := 0xD800 ≤ n && n < 0xDC00

def isLowCode (n : Nat) : Bool := 0xDC00 ≤ n && n < 0xE000

/-- Puts a first half that was kept back in front of a text. -/
def release : Option Nat → Text → Text
  | none, t => t
  | some high, t => .ofCode high :: t

/-- Puts symbols in front of a text that was read. -/
def prepend (front : Text) : Except (Flaw × Text) (Text × Text) → Except (Flaw × Text) (Text × Text)
  | .ok (t, rest) => .ok (front ++ t, rest)
  | .error e => .error e

/-- Reads a text up to its closing quote and returns it with what follows. The first half of a surrogate pair that
an escape writes is kept back: a second half in the very next escape makes it a character. -/
def readText (start : Text) : Option Nat → Text → Except (Flaw × Text) (Text × Text)
  | _, [] => .error (.unterminated, start)
  | high, s :: rest =>
    if s = .char '\x22' then .ok (release high [], rest)
    else if s = .char '\x5c' then
      match rest with
      | [] => .error (.unterminated, start)
      | e :: after =>
        if e = .char 'u' then
          match after with
          | a :: b :: c :: d :: next :: more =>
            match hexCode? a b c d with
            | none => .error (.codeEscape, rest)
            | some n =>
              if isHighCode n then prepend (release high []) (readText start (some n) (next :: more))
              else
                match high with
                | some h =>
                  if isLowCode n then
                    prepend [.ofCode (0x10000 + (h - 0xD800) * 0x400 + (n - 0xDC00))]
                      (readText start none (next :: more))
                  else prepend [.ofCode h, .ofCode n] (readText start none (next :: more))
                | none => prepend [.ofCode n] (readText start none (next :: more))
          | _ => .error (.codeEscape, rest)
        else
          match escaped? e with
          | some c => prepend (release high [.char c]) (readText start none after)
          | none => .error (.escape, s :: rest)
    else if s.code < 0x20 then .error (.control, s :: rest)
    else prepend (release high [s]) (readText start none rest)

/-- The digits in front of a text. -/
def digitRun : Text → List Nat × Text
  | [] => ([], [])
  | s :: rest =>
    match digit? s with
    | some d => let (ds, rest) := digitRun rest; (d :: ds, rest)
    | none => ([], s :: rest)

/-- The digits before the point: a zero stands alone. -/
def wholePart (t : Text) : List Nat × Text :=
  match digitRun t with
  | (0 :: _, _) => ([0], t.tail)
  | run => run

/-- The places behind a point, if there are any. -/
def places (t : Text) : List Nat × Text :=
  match t with
  | s :: rest =>
    if s = .char '.' then
      match digitRun rest with
      | ([], _) => ([], t)
      | run => run
    else ([], t)
  | [] => ([], t)

/-- The exponent, if there is one. -/
def exponentPart (t : Text) : Option Int × Text :=
  match t with
  | s :: rest =>
    if s = .char 'e' || s = .char 'E' then
      let (negative, digits) := match rest with
        | .char '-' :: digits => (true, digits)
        | .char '+' :: digits => (false, digits)
        | digits => (false, digits)
      match digitRun digits with
      | ([], _) => (none, t)
      | (ds, rest) =>
        let n : Int := Digit.number 10 ds
        (some (if negative then -n else n), rest)
    else (none, t)
  | [] => (none, t)

/-- Reads the longest number that a text begins with. A point or an exponent that lacks its digits is no part of
it. -/
def readNumber (start : Text) (negative : Bool) (t : Text) : Option (Token × Text) :=
  match wholePart t with
  | ([], _) => none
  | (whole, rest) =>
    let (fraction, rest) := places rest
    let (exponent, rest) := exponentPart rest
    if fraction.isEmpty && exponent.isNone then
      if Digit.maxDigits < whole.length then some (.broken (.tooManyDigits whole.length) start, rest)
      else
        let n : Int := Digit.number 10 whole
        some (.scalar (.int (if negative then -n else n)), rest)
    else
      some (.scalar (.float (.ofDecimal negative (Digit.number 10 (whole ++ fraction))
        (exponent.getD 0 - fraction.length))), rest)

/-- How many digits a number has before its point. -/
def Lexeme.wholeDigits (l : Lexeme) : Nat :=
  match l.place with
  | .char '-' :: digits => (wholePart digits).1.length
  | digits => (wholePart digits).1.length

/-- What follows a word that a text begins with. -/
def afterWord? : List Char → Text → Option Text
  | [], t => some t
  | _ :: _, [] => none
  | c :: word, s :: rest => if s = .char c then afterWord? word rest else none

/-- The names of values. -/
def names : List (List Char × Json) := [
  (['n', 'u', 'l', 'l'], .null),
  (['t', 'r', 'u', 'e'], .bool true),
  (['f', 'a', 'l', 's', 'e'], .bool false),
  (['N', 'a', 'N'], .float .nan),
  (['I', 'n', 'f', 'i', 'n', 'i', 't', 'y'], .float (.infinity false)),
  (['-', 'I', 'n', 'f', 'i', 'n', 'i', 't', 'y'], .float (.infinity true))]

/-- Reads a name. -/
def readName (t : Text) : Option (Token × Text) :=
  names.findSome? fun (word, v) => (afterWord? word t).map (Token.scalar v, ·)

/-- The marks that are tokens by themselves. -/
def mark? (s : Symbol) : Option Token :=
  match s with
  | .char c =>
    if c = '[' then some .openArray
    else if c = ']' then some .closeArray
    else if c = '\x7b' then some .openObject
    else if c = '\x7d' then some .closeObject
    else if c = ',' then some .comma
    else if c = ':' then some .colon
    else none
  | .lone _ => none

/-- Reads a name or a number. -/
def readScalar (t : Text) : Token × Text :=
  match readName t with
  | some found => found
  | none =>
    let found := match t with
      | .char '-' :: digits => readNumber t true digits
      | digits => readNumber t false digits
    found.getD (.foreign, [])

/-- Reads the token that a text begins with, and what follows it. -/
def readToken (s : Symbol) (rest : Text) : Token × Text :=
  match mark? s with
  | some token => (token, rest)
  | none =>
    if s = .char '\x22' then
      match readText (s :: rest) none rest with
      | .ok (t, rest) => (.text t, rest)
      | .error (flaw, place) => (.broken flaw place, [])
    else readScalar (s :: rest)

/-- Whether reading goes on behind a token. -/
def Token.goesOn : Token → Bool
  | broken _ _ => false
  | foreign => false
  | finish => false
  | _ => true

/-- The lexemes of a text. Each takes at least one symbol, so that the length of the text bounds their number. -/
def lexemesWithin : Nat → Text → List Lexeme
  | 0, t => [⟨.finish, t⟩]
  | n + 1, t =>
    match t with
    | [] => [⟨.finish, []⟩]
    | s :: rest =>
      if isBlank s then lexemesWithin n rest
      else
        let (token, after) := readToken s rest
        ⟨token, t⟩ :: if token.goesOn then lexemesWithin n after else []

def lexemes (t : Text) : List Lexeme := lexemesWithin (t.length + 1) t

end ReplicaWatch.Json
