import ReplicaWatch.Text.Digit
import ReplicaWatch.Text.Printable

/-! Texts as they are quoted in messages. The quotes are single ones, unless the text holds a single quote and no
double one; what is not printable is escaped, by the shortest of three escapes of fixed width. -/
namespace ReplicaWatch.Quoted

def singleQuote : Char := '\x27'

def doubleQuote : Char := '\x22'

def backslash : Char := '\x5c'

/-- The quote that encloses a text. -/
def quoteFor (t : Text) : Char :=
  if t.contains (.char singleQuote) && !t.contains (.char doubleQuote) then doubleQuote
  else singleQuote

/-- One symbol between quotes of the given kind. -/
def escape (quote : Char) (s : Symbol) : List Char :=
  let n := s.code
  let c := s.toChar
  if s = .char backslash || s = .char quote then [backslash, c]
  else if n = 9 then [backslash, 't']
  else if n = 10 then [backslash, 'n']
  else if n = 13 then [backslash, 'r']
  else if Printable.isPrintable n then [c]
  else if n < 0x100 then backslash :: 'x' :: Digit.hexWidth 2 n
  else if n < 0x10000 then backslash :: 'u' :: Digit.hexWidth 4 n
  else backslash :: 'U' :: Digit.hexWidth 8 n

/-- A text in quotes. -/
def quoted (t : Text) : List Char :=
  let quote := quoteFor t
  quote :: t.flatMap (escape quote) ++ [quote]

/-- A string in quotes. -/
def quote (s : String) : String := String.ofList (quoted (Text.ofString s))

end ReplicaWatch.Quoted
