import ReplicaWatch.Json.Value

/-! Schemas of documents and the faults that a value has against one. Every part of a value is checked, so that
no fault hides another; faults come in the order of fields and items. -/
namespace ReplicaWatch

/-- What can be wrong with a value. -/
inductive Mismatch where
  | notJson
  | missing
  | notRecord
  | notList
  | notText
  | notCount
  | countText
  | countSize
  | countFraction
  | countInfinite
  | notFlag
  | flagText
  | notRate
  | rateText
  deriving DecidableEq, Repr

def Mismatch.code : Mismatch → String
  | notJson => "json_invalid"
  | missing => "missing"
  | notRecord => "model_type"
  | notList => "tuple_type"
  | notText => "string_type"
  | notCount => "int_type"
  | countText => "int_parsing"
  | countSize => "int_parsing_size"
  | countFraction => "int_from_float"
  | countInfinite => "finite_number"
  | notFlag => "bool_type"
  | flagText => "bool_parsing"
  | notRate => "float_type"
  | rateText => "float_parsing"

/-- A step from a value into one of its parts. -/
inductive Part where
  | key (name : String)
  | index (n : Nat)
  deriving DecidableEq, Repr

def Part.text : Part → String
  | key name => name
  | index n => toString n

/-- A mismatch and the path to the value that has it. -/
structure Mismatched where
  mismatch : Mismatch
  path : List Part
  deriving DecidableEq, Repr

/-- The code of the mismatch and its path. -/
def Mismatched.text (m : Mismatched) : String :=
  m.mismatch.code ++ "@" ++ ".".intercalate (m.path.map Part.text)

/-- A field of a record. It may have a second name, which is preferred where both are present. -/
structure Field where
  name : String
  preferred : Option String
  required : Bool
  deriving DecidableEq, Repr

namespace Field

/-- The name that a field is best known by. -/
def mainName (f : Field) : String := f.preferred.getD f.name

/-- The value of a field and the name it was found under. -/
def find? (f : Field) (v : Json) : Option (String × Json) :=
  match f.preferred.bind fun p => (v.member? p).map (p, ·) with
  | some found => some found
  | none => (v.member? f.name).map (f.name, ·)

/-- The value of a field. -/
def value? (f : Field) (v : Json) : Option Json := (f.find? v).map Prod.snd

end Field

/-- What a value has to be. In place of a list there may be null, which is read as an empty list. -/
inductive Schema where
  | scalar (check : Json → Option Mismatch)
  | list (item : Schema)
  | record (fields : List (Field × Schema))

namespace Schema

mutual

/-- The faults of a value that lies at a path. -/
def faults (path : List Part) : Schema → Json → List Mismatched
  | scalar check, v => ((check v).map (Mismatched.mk · path)).toList
  | list item, v =>
    match v with
    | .null => []
    | .array items => items.zipIdx.flatMap fun (v, n) => item.faults (path ++ [.index n]) v
    | _ => [⟨.notList, path⟩]
  | record fields, v =>
    match v with
    | .object _ => faultsOfFields path fields v
    | _ => [⟨.notRecord, path⟩]

def faultsOfFields (path : List Part) : List (Field × Schema) → Json → List Mismatched
  | [], _ => []
  | (f, s) :: rest, v =>
    (match f.find? v with
      | some (key, w) => s.faults (path ++ [.key key]) w
      | none => if f.required then [⟨.missing, path ++ [.key f.mainName]⟩] else []) ++
    faultsOfFields path rest v

end

end Schema

/-- A schema together with the value that is taken from what satisfies it. -/
structure Form (α : Type) where
  schema : Schema
  take : Json → α

namespace Form

/-- The value of a document, or all its faults. -/
def read {α : Type} (form : Form α) (v : Json) : Except (List Mismatched) α :=
  match form.schema.faults [] v with
  | [] => .ok (form.take v)
  | faults => .error faults

/-- A scalar that a partial reading defines. -/
def scalar {α : Type} (fallback : α) (reading : Json → Except Mismatch α) : Form α where
  schema := .scalar fun v =>
    match reading v with
    | .ok _ => none
    | .error m => some m
  take v :=
    match reading v with
    | .ok a => a
    | .error _ => fallback

def list {α : Type} (item : Form α) : Form (List α) where
  schema := .list item.schema
  take v :=
    match v with
    | .array items => items.map item.take
    | _ => []

end Form

/-- Some fields of a record and the value that is taken from them. -/
structure Fields (α : Type) where
  parts : List (Field × Schema)
  take : Json → α

namespace Fields

/-- A field that may be left out. -/
def optional {α : Type} (name : String) (form : Form α) (fallback : α) : Fields α where
  parts := [(⟨name, none, false⟩, form.schema)]
  take v := ((Field.mk name none false).value? v).elim fallback form.take

/-- A field with a second name that may be left out. -/
def optionalAs {α : Type} (name preferred : String) (form : Form α) (fallback : α) : Fields α where
  parts := [(⟨name, some preferred, false⟩, form.schema)]
  take v := ((Field.mk name (some preferred) false).value? v).elim fallback form.take

/-- A field that has to be present. -/
def required {α : Type} (name : String) (form : Form α) : Fields α where
  parts := [(⟨name, none, true⟩, form.schema)]
  take v := form.take (((Field.mk name none true).value? v).getD .null)

instance : Functor Fields where
  map f fields := ⟨fields.parts, fun v => f (fields.take v)⟩

instance : Seq Fields where
  seq f x := ⟨f.parts ++ (x ()).parts, fun v => f.take v ((x ()).take v)⟩

/-- The record that has these fields. -/
def form {α : Type} (fields : Fields α) : Form α := ⟨.record fields.parts, fields.take⟩

end Fields
end ReplicaWatch
