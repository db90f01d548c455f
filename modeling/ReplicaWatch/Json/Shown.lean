import ReplicaWatch.Json.Value
import ReplicaWatch.Number.Shortest
import ReplicaWatch.Text.Quoted

/-! Values as messages show them: texts in quotes, items between brackets, and words for null and the truth values. -/
namespace ReplicaWatch.Json

/-- Pieces with a comma and a blank between them. -/
def commaSeparated : List (List Char) → List Char
  | [] => []
  | [piece] => piece
  | piece :: rest => piece ++ ',' :: ' ' :: commaSeparated rest

mutual

/-- A value as it is shown within another. -/
def shown : Json → List Char
  | null => "None".toList
  | bool b => (if b then "True" else "False").toList
  | int n => (toString n).toList
  | float x => x.text
  | string t => Quoted.quoted t
  | array items => '[' :: commaSeparated (shownItems items) ++ [']']
  | object members => '\x7b' :: commaSeparated (shownMembers members) ++ ['\x7d']

def shownItems : List Json → List (List Char)
  | [] => []
  | v :: rest => v.shown :: shownItems rest

def shownMembers : List (Text × Json) → List (List Char)
  | [] => []
  | (k, v) :: rest => (Quoted.quoted k ++ ':' :: ' ' :: v.shown) :: shownMembers rest

end

/-- A value as a text of its own: a text is not quoted. -/
def asText : Json → String
  | string t => Text.asString t
  | v => String.ofList v.shown

/-- A value as it is shown within a message. -/
def inMessage (v : Json) : String := String.ofList v.shown

/-- Several values as one text, in parentheses. -/
def inParentheses (values : List Json) : String :=
  String.ofList ('(' :: commaSeparated (shownItems values) ++ [')'])

end ReplicaWatch.Json
