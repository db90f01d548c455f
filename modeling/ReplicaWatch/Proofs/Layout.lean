import Mathlib
import ReplicaWatch.Proofs.Forms
import ReplicaWatch.Status.Decode

/-! How status documents are laid out: which fields each of their records has, in which order, under which names,
and what has to stand there. A layout ranks the places of a document. Main statements: the layout of a pool is what
its form checks, and the faults that a form finds come in the order of their ranks. -/
namespace ReplicaWatch

/-! ## Where a field is found -/

namespace Field

/-- Where a field is found depends on what stands under its names. -/
lemma find?_congr {f : Field} {v w : Json} (h : ∀ name ∈ f.names, v.member? name = w.member? name) :
    f.find? v = f.find? w := by
  obtain ⟨name, preferred, required⟩ := f
  cases preferred with
  | none => simp [find?, h name (by simp [names])]
  | some preferred => simp [find?, h name (by simp [names]), h preferred (by simp [names])]

/-- The preferred name goes first. -/
lemma find?_preferred {f : Field} {v w : Json} {preferred : String} (aliased : f.preferred = some preferred)
    (found : v.member? preferred = some w) : f.find? v = some (preferred, w) := by
  simp [find?, aliased, found]

lemma find?_named {f : Field} {v w : Json} {name : String} (named : name ∈ f.names) (found : v.member? name = some w)
    (first : ∀ preferred, f.preferred = some preferred → preferred ≠ name → v.member? preferred = none) :
    f.find? v = some (name, w) := by
  obtain ⟨plain, preferred, required⟩ := f
  cases preferred with
  | none =>
    obtain rfl : name = plain := by simpa [names] using named
    simp [find?, found]
  | some preferred =>
    by_cases same : preferred = name
    · subst same
      simp [find?, found]
    · obtain rfl : name = plain := by simpa [names, Ne.symm same] using named
      simp [find?, found, first preferred rfl same]

lemma preferred_mem_names {f : Field} {preferred : String} (aliased : f.preferred = some preferred) :
    preferred ∈ f.names := by
  simp [names, aliased]

lemma find?_alone {f : Field} {v w : Json} {name : String} (named : name ∈ f.names) (found : v.member? name = some w)
    (alone : ∀ other ∈ f.names, other ≠ name → v.member? other = none) : f.find? v = some (name, w) :=
  find?_named named found fun preferred aliased => alone preferred (preferred_mem_names aliased)

lemma find?_none {f : Field} {v : Json} (missing : ∀ name ∈ f.names, v.member? name = none) : f.find? v = none := by
  obtain ⟨name, preferred, required⟩ := f
  cases preferred with
  | none => simp [find?, missing name (by simp [names])]
  | some preferred => simp [find?, missing name (by simp [names]), missing preferred (by simp [names])]

lemma mem_names_of_find? {f : Field} {v w : Json} {key : String} (h : f.find? v = some (key, w)) : key ∈ f.names := by
  obtain ⟨name, preferred, required⟩ := f
  have byName {o : Option Json} (found : o.map (name, ·) = some (key, w)) : key = name := by
    obtain ⟨_, -, found⟩ := Option.map_eq_some_iff.1 found
    exact (Prod.mk.inj found).1.symm
  cases preferred with
  | none =>
    simp only [find?, Option.bind_none] at h
    simp [names, byName h]
  | some preferred =>
    simp only [find?, Option.bind_some] at h
    cases there : v.member? preferred with
    | some u =>
      obtain ⟨rfl, -⟩ : preferred = key ∧ u = w := by simpa [there] using h
      simp [names]
    | none =>
      rw [there] at h
      simp [names, byName h]

end Field

/-! ## Layouts -/

/-- What has to stand at a place of a document. -/
inductive Layout where
  | text
  | count
  | flag
  | listing (item : Layout)
  | record (fields : List (Field × Layout))

namespace Layout

def optional (name : String) (l : Layout) : Field × Layout := (⟨name, none, false⟩, l)

def optionalAs (name preferred : String) (l : Layout) : Field × Layout := (⟨name, some preferred, false⟩, l)

def required (name : String) (l : Layout) : Field × Layout := (⟨name, none, true⟩, l)

/-! ## The records of a status document -/

def stateCounts : Layout := .record [
  optional "unknown" .count, optional "error" .count, optional "syncing" .count, optional "starting_replay" .count,
  optional "replaying" .count, optional "stopping_replay" .count, optional "stopped" .count]

def summary : Layout := .record [
  required "health" .text, required "daemon_health" .text, required "image_health" .text,
    optional "states" stateCounts]

def daemon : Layout := .record [
  optional "service_id" .text, optional "instance_id" .text, optional "client_id" .text, optional "hostname" .text,
  optionalAs "version" "ceph_version" .text, optionalAs "is_leader" "leader" .flag, optional "health" .text]

def service : Layout := .record [
  optional "service_id" .text, optional "instance_id" .text, optional "daemon_id" .text, optional "hostname" .text]

def peerSite : Layout := .record [
  optional "site_name" .text, optional "mirror_uuids" .text, optional "state" .text, optional "description" .text,
  optional "last_update" .text]

def image : Layout := .record [
  optional "name" .text, optional "global_id" .text, optional "state" .text, optional "description" .text,
  optional "daemon_service" service, optional "last_update" .text, optional "peer_sites" (.listing peerSite)]

def pool : Layout := .record [
  required "summary" summary, optional "daemons" (.listing daemon), optional "images" (.listing image)]

/-! ## What is checked -/

mutual

def schema : Layout → Schema
  | text => Schema.text.schema
  | count => Schema.count.schema
  | flag => Schema.flag.schema
  | listing item => .list item.schema
  | record fields => .record (schemas fields)

def schemas : List (Field × Layout) → List (Field × Schema)
  | [] => []
  | (f, l) :: rest => (f, l.schema) :: schemas rest

end

end Layout

/-- A mismatch seen from further outside. -/
def Mismatched.under (path : List Part) (m : Mismatched) : Mismatched := ⟨m.mismatch, path ++ m.path⟩

lemma Mismatched.map_under_under (path path' : List Part) (ms : List Mismatched) :
    (ms.map (under path')).map (under path) = ms.map (under (path ++ path')) := by
  simp [under, Function.comp_def]

mutual

/-- Where a value lies shows in the paths of its faults and nowhere else. -/
theorem Schema.faults_under (path : List Part) (s : Schema) (v : Json) :
    s.faults path v = (s.faults [] v).map (.under path) := by
  cases s with
  | scalar check =>
    simp only [faults]
    cases check v <;> simp [Mismatched.under]
  | list item =>
    cases v with
    | array items =>
      simp only [faults, List.nil_append, List.map_flatMap]
      refine List.flatMap_congr fun p _ => ?_
      rw [Schema.faults_under (path ++ [Part.index p.2]) item p.1, Schema.faults_under [Part.index p.2] item p.1,
        Mismatched.map_under_under]
    | _ => simp [faults, Mismatched.under]
  | record fields =>
    cases v with
    | object ms =>
      simp only [faults]
      exact Schema.faultsOfFields_under path fields (.object ms)
    | _ => simp [faults, Mismatched.under]

theorem Schema.faultsOfFields_under (path : List Part) (fields : List (Field × Schema)) (v : Json) :
    faultsOfFields path fields v = (faultsOfFields [] fields v).map (.under path) := by
  match fields with
  | [] => rfl
  | (f, s) :: rest =>
    simp only [faultsOfFields, List.map_append, List.nil_append, Schema.faultsOfFields_under path rest v]
    congr 1
    cases f.find? v with
    | some found =>
      simp only
      rw [Schema.faults_under (path ++ [Part.key found.1]) s found.2,
        Schema.faults_under [Part.key found.1] s found.2,
        Mismatched.map_under_under]
    | none => cases f.required <;> simp [Mismatched.under]

end

namespace Layout

/-- The faults of a value against a layout, located from the value on. -/
def faults (l : Layout) (v : Json) : List Mismatched := l.schema.faults [] v

/-- The faults that one field of an object has. -/
def faultsAt (e : Field × Layout) (v : Json) : List Mismatched :=
  match e.1.find? v with
  | some (key, w) => (e.2.faults w).map (.under [.key key])
  | none => if e.1.required then [⟨.missing, [.key e.1.mainName]⟩] else []

lemma faults_listing (item : Layout) (vs : List Json) :
    (listing item).faults (.array vs) = vs.zipIdx.flatMap fun p => (item.faults p.1).map (.under [.index p.2]) := by
  simp only [faults, schema, Schema.faults, List.nil_append]
  exact List.flatMap_congr fun p _ => Schema.faults_under [.index p.2] item.schema p.1

lemma faults_record (fields : List (Field × Layout)) (ms : List (Text × Json)) :
    (record fields).faults (.object ms) = fields.flatMap fun e => faultsAt e (.object ms) := by
  simp only [faults, schema, Schema.faults]
  induction fields with
  | nil => rfl
  | cons e rest ih =>
    obtain ⟨f, l⟩ := e
    rw [schemas, Schema.faultsOfFields, List.flatMap_cons, ih, faultsAt]
    congr 1
    cases f.find? (.object ms) with
    | some found => exact Schema.faults_under [.key found.1] l.schema found.2
    | none => rfl

/-! ## Ranks -/

/-- No two fields of a record have a name in common, in any record of a layout. -/
inductive Distinct : Layout → Prop
  | text : Distinct .text
  | count : Distinct .count
  | flag : Distinct .flag
  | listing {item : Layout} (items : Distinct item) : Distinct (.listing item)
  | record {fields : List (Field × Layout)} (names : (fields.flatMap fun e => e.1.names).Nodup)
      (each : ∀ e ∈ fields, Distinct e.2) : Distinct (.record fields)

/-- A field goes by a name. -/
def goesBy (name : String) (e : Field × Layout) : Bool := name ∈ e.1.names

/-- The rank of a place: the positions of fields and the indices of items on the way to it. -/
def rank : Layout → List Part → List ℕ
  | record fields, .key name :: path =>
    fields.findIdx (goesBy name) :: ((fields.find? (goesBy name)).elim [] fun e => e.2.rank path)
  | listing item, .index n :: path => n :: item.rank path
  | _, _ => []
termination_by structural _ path => path

lemma distinct_pool : pool.Distinct := by
  have counts : stateCounts.Distinct := .record (by decide) (by simp [Distinct.count, optional])
  have summary : summary.Distinct := .record (by decide) (by simp [Distinct.text, counts, optional, required])
  have daemon : daemon.Distinct := .record (by decide) (by simp [Distinct.text, Distinct.flag, optional, optionalAs])
  have service : service.Distinct := .record (by decide) (by simp [Distinct.text, optional])
  have peerSite : peerSite.Distinct := .record (by decide) (by simp [Distinct.text, optional])
  have image : image.Distinct :=
    .record (by decide) (by simp [Distinct.text, service, Distinct.listing peerSite, optional])
  exact .record (by decide) (by simp [summary, Distinct.listing daemon, Distinct.listing image, optional, required])

section
variable {fields : List (Field × Layout)} {name : String}

lemma goesBy_iff (name : String) (e : Field × Layout) : goesBy name e = true ↔ name ∈ e.1.names := by simp [goesBy]

/-- Of the fields of a record only one goes by a name. -/
lemma rank_field (names : (fields.flatMap fun e => e.1.names).Nodup) {n : ℕ} (h : n < fields.length)
    (named : name ∈ fields[n].1.names) (path : List Part) :
    (record fields).rank (.key name :: path) = n :: fields[n].2.rank path := by
  have others : ∀ m, ∀ hm : m < n, goesBy name fields[m] = false := by
    intro m hm
    have apart := List.pairwise_iff_getElem.1 (List.nodup_flatMap.1 names).2 m n (by omega) h hm
    rw [← Bool.not_eq_true, goesBy_iff]
    exact fun both => apart both named
  have position : fields.findIdx (goesBy name) = n := by
    rw [List.findIdx_eq h]
    exact ⟨(goesBy_iff _ _).2 named, fun m hm => others m hm⟩
  have found : fields.find? (goesBy name) = some fields[n] := by
    rw [List.find?_eq_some_iff_getElem]
    exact ⟨(goesBy_iff _ _).2 named, n, h, rfl, fun m hm => by simp [others m hm]⟩
  rw [rank, position, found, Option.elim_some]

/-- The faults of a field lie under one of its names. -/
lemma path_of_mem_faultsAt {e : Field × Layout} {v : Json} {m : Mismatched} (h : m ∈ faultsAt e v) :
    ∃ name ∈ e.1.names, ∃ path, m.path = .key name :: path := by
  unfold faultsAt at h
  split at h
  · next key w found =>
    obtain ⟨inner, -, rfl⟩ := List.mem_map.1 h
    exact ⟨key, Field.mem_names_of_find? found, inner.path, rfl⟩
  · next missing =>
    split at h
    · obtain rfl := List.mem_singleton.1 h
      refine ⟨e.1.mainName, ?_, [], rfl⟩
      cases preferred : e.1.preferred <;> simp [Field.mainName, Field.names, preferred]
    · cases h

/-- Faults that come in blocks are in order if each block is and their ranks begin with the number of the block. -/
lemma pairwise_blocks {α : Type*} {l : Layout} {xs : List α} {block : α → List Mismatched}
    (each : ∀ x ∈ xs, (block x).Pairwise fun a b => l.rank a.path < l.rank b.path)
    (first : ∀ n, ∀ h : n < xs.length, ∀ m ∈ block xs[n], ∃ rest, l.rank m.path = n :: rest) :
    (xs.flatMap block).Pairwise fun a b => l.rank a.path < l.rank b.path := by
  rw [List.pairwise_flatMap]
  refine ⟨each, List.pairwise_iff_getElem.2 fun i j hi hj lt a ha b hb => ?_⟩
  obtain ⟨_, rank⟩ := first i hi a ha
  obtain ⟨_, rank'⟩ := first j hj b hb
  rw [rank, rank']
  exact List.cons_lt_cons_iff.2 (.inl lt)

/-- Faults of a value are in order further outside too. -/
lemma pairwise_under {l inner : Layout} {part : Part} {n : ℕ} {ms : List Mismatched}
    (rank : ∀ path, l.rank (part :: path) = n :: inner.rank path)
    (h : ms.Pairwise fun a b => inner.rank a.path < inner.rank b.path) :
    (ms.map (Mismatched.under [part])).Pairwise fun a b => l.rank a.path < l.rank b.path := by
  rw [List.pairwise_map]
  refine h.imp fun {a b} lt => ?_
  simpa [Mismatched.under, rank] using lt

/-- Faults come in the order of their ranks: as the fields are declared, and by index. -/
theorem pairwise_faults {l : Layout} (distinct : l.Distinct) (v : Json) :
    (l.faults v).Pairwise fun a b => l.rank a.path < l.rank b.path := by
  induction distinct generalizing v with
  | text =>
    cases v <;> simp [faults, schema, Schema.text, Form.scalar, Schema.faults]
  | count =>
    simp only [faults, schema, Schema.count, Form.scalar, Schema.faults]
    cases Schema.readCount v <;> simp
  | flag =>
    simp only [faults, schema, Schema.flag, Form.scalar, Schema.faults]
    cases Schema.readFlag v <;> simp
  | @listing item _ ih =>
    cases v with
    | array vs =>
      rw [faults_listing]
      refine pairwise_blocks (fun p _ => pairwise_under (fun path => rfl) (ih p.1)) fun n h m within => ?_
      obtain ⟨m, -, rfl⟩ := List.mem_map.1 within
      exact ⟨item.rank m.path, by simp [Mismatched.under, rank]⟩
    | _ => simp [faults, schema, Schema.faults]
  | @record fields names _ ih =>
    cases v with
    | object ms =>
      rw [faults_record]
      refine pairwise_blocks (fun e listed => ?_) fun n h m within => ?_
      · obtain ⟨n, hn, rfl⟩ := List.getElem_of_mem listed
        unfold faultsAt
        split
        · next key w found =>
          exact pairwise_under (rank_field names hn (Field.mem_names_of_find? found)) (ih _ listed w)
        · split <;> simp
      · obtain ⟨name, named, path, place⟩ := path_of_mem_faultsAt within
        exact ⟨_, place ▸ rank_field names h named path⟩
    | _ => simp [faults, schema, Schema.faults]

end

end Layout
end ReplicaWatch
