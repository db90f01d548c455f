import Mathlib
import ReplicaWatch.Proofs.Json.Spelling
import ReplicaWatch.Schema.Scalar

/-! Forms and the values that they recover. A slot says how an object writes one field: under which names, as which
values, and whether it may be left out. Main statements: a form built from fields takes the values that the slots of
these fields write, and finds no fault with them. -/
namespace ReplicaWatch

/-! ## Slots -/

/-- How an object writes a field: the names that it may stand under, the values that it may have, and whether it may
be left out. -/
structure Slot where
  names : List String
  holds : Json → Prop
  optional : Prop

namespace Slot

/-- An object writes a field under one of its names and no other, or leaves it out. -/
inductive At (slot : Slot) (v : Json) : Prop
  | written {name : String} {w : Json} (named : name ∈ slot.names) (found : v.member? name = some w)
      (holds : slot.holds w)
      (alone : ∀ other ∈ slot.names, other ≠ name → v.member? other = none)
  | omitted (optional : slot.optional) (missing : ∀ name ∈ slot.names, v.member? name = none)

/-- A text, which may be left out if it is empty. -/
def text (names : List String) (s : String) : Slot := ⟨names, fun v => v = .ofString s, s = ""⟩

/-- A text that has to be there. -/
def requiredText (name s : String) : Slot := ⟨[name], fun v => v = .ofString s, False⟩

def count (name : String) (n : ℤ) : Slot := ⟨[name], fun v => v = .int n, n = 0⟩

def flag (names : List String) (b : Bool) : Slot := ⟨names, fun v => v = .bool b, b = false⟩

end Slot

/-- An object writes some fields; what else it has does not matter. -/
def Has (slots : List Slot) (v : Json) : Prop := (∃ ms, v = .object ms) ∧ ∀ slot ∈ slots, slot.At v

/-- An object that writes some fields and has nothing else. -/
inductive HasOnly (slots : List Slot) : Json → Prop
  | intro {ms : List (Text × Json)} (apart : (ms.map Prod.fst).Nodup)
      (known : ∀ m ∈ ms, ∃ slot ∈ slots, ∃ name ∈ slot.names, m.1 = .ofString name)
      (fields : ∀ slot ∈ slots, slot.At (.object ms)) : HasOnly slots (.object ms)

/-- A list is written as an array, and an empty one as null too. -/
inductive Section {α : Type} (item : α → Json → Prop) : List α → Json → Prop
  | array {as : List α} {vs : List Json} (items : List.Forall₂ item as vs) : Section item as (.array vs)
  | null : Section item [] .null

/-- A list, which may be left out if it is empty. -/
def Slot.list {α : Type} (name : String) (item : α → Json → Prop) (as : List α) : Slot :=
  ⟨[name], Section item as, as = []⟩

lemma HasOnly.has {slots : List Slot} {v : Json} (h : HasOnly slots v) : Has slots v := by
  obtain ⟨-, -, fields⟩ := h
  exact ⟨⟨_, rfl⟩, fields⟩

/-- A field that has one name. -/
lemma Slot.At.single {name : String} {holds : Json → Prop} {optional : Prop} {v w : Json}
    (found : v.member? name = some w) (written : holds w) : (Slot.mk [name] holds optional).At v :=
  .written List.mem_cons_self found written (by simp)

/-! ## What is taken and what is at fault -/

/-- The names of a field, the preferred one first. -/
def Field.names (f : Field) : List String := f.preferred.toList ++ [f.name]

lemma Slot.At.find?_eq {f : Field} {holds : Json → Prop} {optional : Prop} {v : Json}
    (h : (Slot.mk f.names holds optional).At v) :
    (∃ key w, f.find? v = some (key, w) ∧ holds w) ∨ optional ∧ f.find? v = none := by
  obtain ⟨name, preferred, required⟩ := f
  cases preferred with
  | none =>
    cases h with
    | @written key w named found holds _ =>
      obtain rfl : key = name := List.mem_singleton.1 named
      exact .inl ⟨key, w, by simp [Field.find?, found], holds⟩
    | omitted optional missing => exact .inr ⟨optional, by simp [Field.find?, missing name (by simp [Field.names])]⟩
  | some preferred =>
    cases h with
    | @written key w named found holds alone =>
      by_cases first : key = preferred
      · subst first
        exact .inl ⟨key, w, by simp [Field.find?, found], holds⟩
      · have missing : v.member? preferred = none := alone preferred (by simp [Field.names]) (Ne.symm first)
        obtain rfl : key = name := by simpa [Field.names, first] using named
        exact .inl ⟨key, w, by simp [Field.find?, missing, found], holds⟩
    | omitted optional missing =>
      refine .inr ⟨optional, ?_⟩
      simp [Field.find?, missing preferred (by simp [Field.names]), missing name (by simp [Field.names])]

/-- A form takes a value from everything that writes it, and finds no fault there. -/
def Form.Recovers {α : Type} (form : Form α) (written : Json → Prop) (a : α) : Prop :=
  ∀ v, written v → form.take v = a ∧ ∀ path, form.schema.faults path v = []

/-- Fields take a value from every object that writes their slots, and find no fault there. -/
def Fields.Recovers {α : Type} (fields : Fields α) (slots : List Slot) (a : α) : Prop :=
  ∀ v, (∀ slot ∈ slots, slot.At v) → fields.take v = a ∧ ∀ path, Schema.faultsOfFields path fields.parts v = []

lemma Schema.faultsOfFields_append (path : List Part) (xs ys : List (Field × Schema)) (v : Json) :
    faultsOfFields path (xs ++ ys) v = faultsOfFields path xs v ++ faultsOfFields path ys v := by
  induction xs with
  | nil => rfl
  | cons x xs ih =>
    obtain ⟨f, s⟩ := x
    simp only [List.cons_append, faultsOfFields, ih, List.append_assoc]

section
variable {α β : Type}

theorem Form.Recovers.read_eq {form : Form α} {written : Json → Prop} {a : α} {v : Json}
    (h : form.Recovers written a) (hv : written v) : form.read v = .ok a := by
  obtain ⟨taken, sound⟩ := h v hv
  simp [Form.read, sound, taken]

lemma recovers_scalar {reading : Json → Except Mismatch α} {fallback a : α} {written : Json → Prop}
    (h : ∀ v, written v → reading v = .ok a) : (Form.scalar fallback reading).Recovers written a := by
  intro v hv
  simp [Form.scalar, Schema.faults, h v hv]

lemma recovers_text (s : String) : Schema.text.Recovers (fun v => v = .ofString s) s := by
  refine recovers_scalar ?_
  rintro _ rfl
  simp [Json.ofString]

lemma recovers_count (n : ℤ) : Schema.count.Recovers (fun v => v = .int n) n := by
  refine recovers_scalar ?_
  rintro _ rfl
  rfl

lemma recovers_flag (b : Bool) : Schema.flag.Recovers (fun v => v = .bool b) b := by
  refine recovers_scalar ?_
  rintro _ rfl
  rfl

lemma recovers_list {form : Form α} {item : α → Json → Prop} (h : ∀ a, form.Recovers (item a) a) (as : List α) :
    form.list.Recovers (Section item as) as := by
  intro v hv
  cases hv with
  | null => exact ⟨rfl, fun path => by simp [Form.list, Schema.faults]⟩
  | array items =>
    constructor
    · induction items with
      | nil => rfl
      | cons first _ ih => exact congrArg₂ List.cons (h _ _ first).1 ih
    · intro path
      have sound : ∀ v ∈ ‹List Json›, ∀ path, form.schema.faults path v = [] := by
        induction items with
        | nil => simp
        | cons first _ ih => exact List.forall_mem_cons.2 ⟨(h _ _ first).2, ih⟩
      simp only [Form.list, Schema.faults, List.flatMap_eq_nil_iff]
      exact fun p hp => sound _ (List.fst_mem_of_mem_zipIdx hp) _

/-- A single field: what is taken where it is found, and where it is left out. -/
lemma recovers_field {fields : Fields α} {f : Field} {form : Form α} {holds : Json → Prop} {optional : Prop} {a : α}
    (parts : fields.parts = [(f, form.schema)]) (h : form.Recovers holds a)
    (found : ∀ v key w, f.find? v = some (key, w) → fields.take v = form.take w)
    (missing : ∀ v, optional → f.find? v = none → f.required = false ∧ fields.take v = a) :
    fields.Recovers [⟨f.names, holds, optional⟩] a := by
  intro v at_
  obtain ⟨key, w, hw, written⟩ | ⟨left, hv⟩ := (at_ _ List.mem_cons_self).find?_eq
  · obtain ⟨taken, sound⟩ := h w written
    refine ⟨(found v key w hw).trans taken, fun path => ?_⟩
    simp [parts, Schema.faultsOfFields, hw, sound]
  · obtain ⟨free, taken⟩ := missing v left hv
    refine ⟨taken, fun path => ?_⟩
    simp [parts, Schema.faultsOfFields, hv, free]

section
variable {form : Form α} {holds : Json → Prop} {a fallback : α} (name preferred : String)

lemma recovers_optional (h : form.Recovers holds a) :
    (Fields.optional name form fallback).Recovers [⟨[name], holds, a = fallback⟩] a := by
  refine recovers_field (f := ⟨name, none, false⟩) rfl h ?_ ?_
  · intro v key w found
    simp [Fields.optional, Field.value?, found]
  · rintro v rfl missing
    exact ⟨rfl, by simp [Fields.optional, Field.value?, missing]⟩

lemma recovers_optionalAs (h : form.Recovers holds a) :
    (Fields.optionalAs name preferred form fallback).Recovers [⟨[preferred, name], holds, a = fallback⟩] a := by
  refine recovers_field (f := ⟨name, some preferred, false⟩) rfl h ?_ ?_
  · intro v key w found
    simp [Fields.optionalAs, Field.value?, found]
  · rintro v rfl missing
    exact ⟨rfl, by simp [Fields.optionalAs, Field.value?, missing]⟩

lemma recovers_required (h : form.Recovers holds a) :
    (Fields.required name form).Recovers [⟨[name], holds, False⟩] a := by
  refine recovers_field (f := ⟨name, none, true⟩) rfl h ?_ fun _ => False.elim
  intro v key w found
  simp [Fields.required, Field.value?, found]

end

lemma Fields.Recovers.map {x : Fields α} {slots : List Slot} {a : α} (h : x.Recovers slots a) (f : α → β) :
    (f <$> x).Recovers slots (f a) := by
  intro v at_
  obtain ⟨taken, sound⟩ := h v at_
  exact ⟨congrArg f taken, sound⟩

lemma Fields.Recovers.seq {f : Fields (α → β)} {x : Fields α} {slots slots' : List Slot} {g : α → β} {a : α}
    (hf : f.Recovers slots g) (hx : x.Recovers slots' a) : (f <*> x).Recovers (slots ++ slots') (g a) := by
  intro v at_
  obtain ⟨fields, fields'⟩ := List.forall_mem_append.1 at_
  obtain ⟨taken, sound⟩ := hf v fields
  obtain ⟨taken', sound'⟩ := hx v fields'
  refine ⟨congr taken taken', fun path => ?_⟩
  exact (Schema.faultsOfFields_append path f.parts x.parts v).trans (by rw [sound, sound', List.append_nil])

lemma recovers_form {x : Fields α} {slots : List Slot} {a : α} (h : x.Recovers slots a) :
    x.form.Recovers (Has slots) a := by
  rintro _ ⟨⟨ms, rfl⟩, at_⟩
  obtain ⟨taken, sound⟩ := h _ at_
  exact ⟨taken, fun path => by simp [Fields.form, Schema.faults, sound]⟩

/-- A record is recovered, with what else it has or without. -/
lemma recovers_record {x : Fields α} {slots : List Slot} {a : α} (h : x.Recovers slots a) :
    x.form.Recovers (HasOnly slots) a :=
  fun v hv => recovers_form h v hv.has

end

/-! ## Nesting -/

namespace Json

lemma Within.mono {n m : ℕ} {v : Json} (h : v.Within n) (le : n ≤ m) : v.Within m := by
  induction n generalizing m v with
  | zero =>
    cases v with
    | array items =>
      obtain rfl : items = [] := h
      cases m <;> simp [Within]
    | object members =>
      obtain rfl : members = [] := h
      cases m <;> simp [Within]
    | _ => cases m <;> trivial
  | succ n ih =>
    cases m with
    | zero => omega
    | succ m =>
      cases v with
      | array items => exact fun v hv => ih (h v hv) (by omega)
      | object members => exact fun m hm => ih (h m hm) (by omega)
      | _ => trivial

lemma lookup_of_mem {ms : List (Text × Json)} (apart : (ms.map Prod.fst).Nodup) {m : Text × Json} (hm : m ∈ ms) :
    lookup m.1 ms = some m.2 := by
  induction ms with
  | nil => cases hm
  | cons first ms ih =>
    obtain ⟨k, w⟩ := first
    rw [List.map_cons, List.nodup_cons] at apart
    rcases List.mem_cons.1 hm with rfl | later
    · simp [lookup]
    · have other : k ≠ m.1 := by
        rintro rfl
        exact apart.1 (List.mem_map.2 ⟨m, later, rfl⟩)
      simp [lookup, other, ih apart.2 later]

end Json

/-- The values of a field have a bound to their nesting. -/
def Slot.Within (n : ℕ) (slot : Slot) : Prop := ∀ w, slot.holds w → w.Within n

lemma HasOnly.within {slots : List Slot} {n : ℕ} (h : ∀ slot ∈ slots, slot.Within n) {v : Json}
    (only : HasOnly slots v) : v.Within (n + 1) := by
  obtain ⟨apart, known, fields⟩ := only
  intro m hm
  obtain ⟨slot, hslot, name, named, key⟩ := known m hm
  have found := Json.lookup_of_mem apart hm
  rw [key] at found
  cases fields slot hslot with
  | @written name' w named' found' holds alone =>
    -- The member stands under the one name of its field that is there.
    obtain rfl : name = name' := by
      by_contra other
      exact absurd (found.symm.trans (alone name named other)) (by simp)
    obtain rfl : m.2 = w := Option.some.inj (found.symm.trans found')
    exact h slot hslot _ holds
  | omitted _ missing => exact absurd (found.symm.trans (missing name named)) (by simp)

lemma Section.within {α : Type} {item : α → Json → Prop} {n : ℕ} (h : ∀ a v, item a v → v.Within n) {as : List α}
    {v : Json} (written : Section item as v) : v.Within (n + 1) := by
  cases written with
  | null => trivial
  | @array as vs items =>
    intro v hv
    induction items with
    | nil => cases hv
    | cons first _ ih =>
      rcases List.mem_cons.1 hv with rfl | hv
      · exact h _ _ first
      · exact ih hv

section
variable (n : ℕ)

@[simp] lemma Slot.within_text (names : List String) (s : String) : (text names s).Within n := by
  rintro _ rfl
  cases n <;> trivial

@[simp] lemma Slot.within_requiredText (name s : String) : (requiredText name s).Within n := by
  rintro _ rfl
  cases n <;> trivial

@[simp] lemma Slot.within_count (name : String) (k : ℤ) : (count name k).Within n := by
  rintro _ rfl
  cases n <;> trivial

@[simp] lemma Slot.within_flag (names : List String) (b : Bool) : (flag names b).Within n := by
  rintro _ rfl
  cases n <;> trivial

end

end ReplicaWatch
