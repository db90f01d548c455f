import ReplicaWatch.Number.Binary64
import ReplicaWatch.Text.Symbol

/-! JSON values. Integers are kept apart from other numbers, and the members of an object keep the order in which
their keys first came. -/
namespace ReplicaWatch

inductive Json where
  | null
  | bool (b : Bool)
  | int (n : Int)
  | float (x : Binary64)
  | string (t : Text)
  | array (items : List Json)
  | object (members : List (Text × Json))

namespace Json

instance : Inhabited Json := ⟨null⟩

/-- A text as a value. -/
def ofString (s : String) : Json := string (Text.ofString s)

/-- The kinds of values, which messages name. -/
inductive Kind where
  | null
  | bool
  | int
  | float
  | string
  | array
  | object
  deriving DecidableEq, Repr

def kind : Json → Kind
  | null => .null
  | bool _ => .bool
  | int _ => .int
  | float _ => .float
  | string _ => .string
  | array _ => .array
  | object _ => .object

def Kind.name : Kind → String
  | null => "NoneType"
  | bool => "bool"
  | int => "int"
  | float => "float"
  | string => "str"
  | array => "list"
  | object => "dict"

/-- Whether a value counts as set: zero, empty and null do not. -/
def isSet : Json → Bool
  | null => false
  | bool b => b
  | int n => n != 0
  | float x => !x.isZero
  | string t => !t.isEmpty
  | array items => !items.isEmpty
  | object members => !members.isEmpty

/-- The value under a key. -/
def lookup (key : Text) : List (Text × Json) → Option Json
  | [] => none
  | (k, v) :: rest => if k = key then some v else lookup key rest

/-- The member of an object with a name; other values have none. -/
def member? (v : Json) (name : String) : Option Json :=
  match v with
  | object members => lookup (Text.ofString name) members
  | _ => none

/-- Sets a member; one that is there keeps its place. -/
def insert (key : Text) (value : Json) : List (Text × Json) → List (Text × Json)
  | [] => [(key, value)]
  | (k, v) :: rest => if k = key then (k, value) :: rest else (k, v) :: insert key value rest

/-- The members that are left of a list with repeated keys: of each key the last value, in the place of the first. -/
def merge (members : List (Text × Json)) : List (Text × Json) :=
  members.foldl (fun done (k, v) => insert k v done) []

end Json
end ReplicaWatch
