import Mathlib
import ReplicaWatch.Proofs.Json.Whole
import ReplicaWatch.Proofs.Layout

/-! What a status document says besides its status. Members that no field goes by, earlier ones of those with one
key, the plain name of a field whose preferred one is there, and the order of keys can be dropped from any record.
Main statement: documents that become equal so are decoded alike, to the same status or with the same faults. -/
namespace ReplicaWatch
namespace Layout

/-- One thing is dropped from a document: something in a record that does not count, or the order of two members. -/
inductive Drops : Layout → Json → Json → Prop
  | unnamed {fields : List (Field × Layout)} {key : Text} {v : Json} (before : List (Text × Json))
      {after : List (Text × Json)} (foreign : ∀ e ∈ fields, ∀ name ∈ e.1.names, key ≠ .ofString name) :
      Drops (.record fields) (.object (before ++ (key, v) :: after)) (.object (before ++ after))
  | repeated {fields : List (Field × Layout)} {key : Text} {v : Json} (before : List (Text × Json))
      {after : List (Text × Json)} (again : key ∈ after.map Prod.fst) :
      Drops (.record fields) (.object (before ++ (key, v) :: after)) (.object (before ++ after))
  | shadowed {fields : List (Field × Layout)} {e : Field × Layout} {preferred : String} {v : Json}
      (before : List (Text × Json)) {after : List (Text × Json)} (listed : e ∈ fields)
      (aliased : e.1.preferred = some preferred) (there : .ofString preferred ∈ (before ++ after).map Prod.fst) :
      Drops (.record fields) (.object (before ++ (.ofString e.1.name, v) :: after)) (.object (before ++ after))
  | order {fields : List (Field × Layout)} {key key' : Text} {v v' : Json} (before : List (Text × Json))
      {after : List (Text × Json)} (apart : key ≠ key') :
      Drops (.record fields) (.object (before ++ (key, v) :: (key', v') :: after))
        (.object (before ++ (key', v') :: (key, v) :: after))
  | member {fields : List (Field × Layout)} {e : Field × Layout} {name : String} {v w : Json}
      (before : List (Text × Json)) {after : List (Text × Json)} (listed : e ∈ fields) (named : name ∈ e.1.names)
      (inside : Drops e.2 v w) :
      Drops (.record fields) (.object (before ++ (.ofString name, v) :: after))
        (.object (before ++ (.ofString name, w) :: after))
  | item {item : Layout} {v w : Json} (before : List Json) {after : List Json} (inside : Drops item v w) :
      Drops (.listing item) (.array (before ++ v :: after)) (.array (before ++ w :: after))

/-- Two documents become equal once some things are dropped from either. -/
def Converge (l : Layout) : Json → Json → Prop := Relation.Join (Relation.ReflTransGen l.Drops)

/-- A field is found alike in two objects: with the same value, or with values of which one comes of the other by a
drop. -/
def FoundAlike (e : Field × Layout) (v w : Json) : Prop :=
  e.1.find? v = e.1.find? w ∨
    ∃ key d d', e.1.find? v = some (key, d.settled) ∧ e.1.find? w = some (key, d'.settled) ∧ e.2.Drops d d'

/-! ## What is found -/

/-- Two fields of a record that go by one name are one. -/
lemma eq_of_named {fields : List (Field × Layout)} (names : (fields.flatMap fun e => e.1.names).Nodup)
    {e e' : Field × Layout} (listed : e ∈ fields) (listed' : e' ∈ fields) {name : String} (named : name ∈ e.1.names)
    (named' : name ∈ e'.1.names) : e = e' := by
  obtain ⟨n, hn, rfl⟩ := List.getElem_of_mem listed
  obtain ⟨n', hn', rfl⟩ := List.getElem_of_mem listed'
  have rank := rank_field names hn named []
  have rank' := rank_field names hn' named' []
  obtain ⟨rfl, -⟩ := List.cons.inj (rank.symm.trans rank')
  rfl

/-- A member counts for nothing under another key, or if its key comes again. -/
lemma lookup_dropped {k key : Text} (v : Json) {before after : List (Text × Json)}
    (h : key ≠ k ∨ key ∈ after.map Prod.fst) :
    Json.lookup k (before ++ (key, v) :: after).reverse = Json.lookup k (before ++ after).reverse := by
  simp only [List.reverse_append, List.reverse_cons, Json.lookup_append]
  by_cases same : key = k
  · subst same
    have later : key ∈ after.map Prod.fst := h.resolve_left (by simp)
    have found : Json.lookup key after.reverse ≠ none := by
      rw [Ne, Json.lookup_eq_none_iff]
      simpa using later
    obtain ⟨w, hw⟩ := Option.ne_none_iff_exists'.1 found
    simp [hw]
  · simp [Json.lookup, same]

lemma lookup_order {key key' : Text} (apart : key ≠ key') (k : Text) (v v' : Json)
    (before after : List (Text × Json)) :
    Json.lookup k (before ++ (key, v) :: (key', v') :: after).reverse =
      Json.lookup k (before ++ (key', v') :: (key, v) :: after).reverse := by
  simp only [List.reverse_append, List.reverse_cons, Json.lookup_append]
  by_cases same : key = k
  · subst same
    simp [Json.lookup, Ne.symm apart]
  · by_cases same' : key' = k
    · subst same'
      simp [Json.lookup, apart]
    · simp [Json.lookup, same, same']

/-- What is found depends on what stands last under the names of a field. -/
lemma foundAlike_of_lookup {e : Field × Layout} {ms ms' : List (Text × Json)}
    (h : ∀ name ∈ e.1.names, Json.lookup (.ofString name) ms.reverse = Json.lookup (.ofString name) ms'.reverse) :
    FoundAlike e (Json.object ms).settled (Json.object ms').settled :=
  .inl <| Field.find?_congr fun name named => by rw [Json.member?_settled, Json.member?_settled, h name named]

lemma lookup_last {k : Text} (v : Json) (before : List (Text × Json)) {after : List (Text × Json)}
    (last : k ∉ after.map Prod.fst) : Json.lookup k (before ++ (k, v) :: after).reverse = some v := by
  have later : Json.lookup k after.reverse = none := by
    rw [Json.lookup_eq_none_iff, List.map_reverse, List.mem_reverse]
    exact last
  simp [Json.lookup_append, later, Json.lookup]

section
variable {fields : List (Field × Layout)} {e e' : Field × Layout} {before after : List (Text × Json)}

lemma foundAlike_shadowed (names : (fields.flatMap fun e => e.1.names).Nodup) {preferred : String} {v : Json}
    (listed : e ∈ fields) (aliased : e.1.preferred = some preferred)
    (there : .ofString preferred ∈ (before ++ after).map Prod.fst) (listed' : e' ∈ fields) :
    FoundAlike e' (Json.object (before ++ (.ofString e.1.name, v) :: after)).settled
      (Json.object (before ++ after)).settled := by
  by_cases named : e.1.name ∈ e'.1.names
  · obtain rfl := eq_of_named names listed listed' (by simp [Field.names]) named
    have different : Text.ofString e.1.name ≠ .ofString preferred := by
      intro same
      have apart := (List.nodup_flatMap.1 names).1 e listed
      simp [Field.names, aliased, Text.ofString_inj.1 same] at apart
    have given : Json.lookup (.ofString preferred) (before ++ after).reverse ≠ none := by
      rw [Ne, Json.lookup_eq_none_iff, List.map_reverse, List.mem_reverse, not_not]
      exact there
    obtain ⟨w, found⟩ := Option.ne_none_iff_exists'.1 given
    have found' := (lookup_dropped v (.inl different)).trans found
    left
    rw [Field.find?_preferred aliased (by rw [Json.member?_settled, found', Option.map_some]),
      Field.find?_preferred aliased (by rw [Json.member?_settled, found, Option.map_some])]
  · refine foundAlike_of_lookup fun name hname => lookup_dropped v (.inl fun same => ?_)
    exact named (Text.ofString_inj.1 same ▸ hname)

lemma foundAlike_member (names : (fields.flatMap fun e => e.1.names).Nodup) {name : String} {v w : Json}
    (listed : e ∈ fields) (named : name ∈ e.1.names) (inside : e.2.Drops v w) (listed' : e' ∈ fields) :
    FoundAlike e' (Json.object (before ++ (.ofString name, v) :: after)).settled
      (Json.object (before ++ (.ofString name, w) :: after)).settled := by
  have others {other : String} (h : other ≠ name ∨ .ofString name ∈ after.map Prod.fst) :
      Json.lookup (.ofString other) (before ++ (.ofString name, v) :: after).reverse =
        Json.lookup (.ofString other) (before ++ (.ofString name, w) :: after).reverse := by
    have h : Text.ofString name ≠ .ofString other ∨ .ofString name ∈ after.map Prod.fst :=
      h.imp_left fun different same => different (Text.ofString_inj.1 same).symm
    rw [lookup_dropped v h, lookup_dropped w h]
  by_cases hidden : .ofString name ∈ after.map Prod.fst
  · exact foundAlike_of_lookup fun other _ => others (.inr hidden)
  by_cases named' : name ∈ e'.1.names
  · obtain rfl := eq_of_named names listed listed' named named'
    -- The changed member is what is found, unless the preferred name stands beside it.
    by_cases shadowed : ∃ preferred u, e.1.preferred = some preferred ∧ preferred ≠ name ∧
        Json.lookup (.ofString preferred) (before ++ (.ofString name, w) :: after).reverse = some u
    · obtain ⟨preferred, u, aliased, different, found⟩ := shadowed
      have found' := (others (.inl different)).trans found
      left
      rw [Field.find?_preferred aliased (by rw [Json.member?_settled, found', Option.map_some]),
        Field.find?_preferred aliased (by rw [Json.member?_settled, found, Option.map_some])]
    · have none (preferred : String) (aliased : e.1.preferred = some preferred) (different : preferred ≠ name) :
          Json.lookup (.ofString preferred) (before ++ (.ofString name, w) :: after).reverse = none :=
        Option.eq_none_iff_forall_ne_some.2 fun u found => shadowed ⟨preferred, u, aliased, different, found⟩
      refine .inr ⟨name, v, w, ?_, ?_, inside⟩
      · refine Field.find?_named named ?_ fun preferred aliased different => ?_
        · rw [Json.member?_settled, lookup_last v before hidden, Option.map_some]
        · rw [Json.member?_settled, others (.inl different), none preferred aliased different, Option.map_none]
      · refine Field.find?_named named ?_ fun preferred aliased different => ?_
        · rw [Json.member?_settled, lookup_last w before hidden, Option.map_some]
        · rw [Json.member?_settled, none preferred aliased different, Option.map_none]
  · exact foundAlike_of_lookup fun other hother => others (.inl fun same => named' (same ▸ hother))

/-- Dropping something from a record leaves every field as it was found, but for a drop in its value. -/
lemma Drops.foundAlike (names : (fields.flatMap fun e => e.1.names).Nodup) {d d' : Json}
    (h : (record fields).Drops d d') :
    (∃ ms, d = .object ms) ∧ (∃ ms, d' = .object ms) ∧ ∀ e ∈ fields, FoundAlike e d.settled d'.settled := by
  cases h with
  | unnamed _ foreign =>
    refine ⟨⟨_, rfl⟩, ⟨_, rfl⟩, fun e listed => foundAlike_of_lookup fun name named => ?_⟩
    exact lookup_dropped _ (.inl (foreign e listed name named))
  | repeated _ again =>
    exact ⟨⟨_, rfl⟩, ⟨_, rfl⟩, fun e _ => foundAlike_of_lookup fun name _ => lookup_dropped _ (.inr again)⟩
  | shadowed _ listed aliased there =>
    exact ⟨⟨_, rfl⟩, ⟨_, rfl⟩, fun e => foundAlike_shadowed names listed aliased there⟩
  | order _ apart =>
    exact ⟨⟨_, rfl⟩, ⟨_, rfl⟩, fun e _ => foundAlike_of_lookup fun name _ => lookup_order apart _ _ _ _ _⟩
  | member _ listed named inside => exact ⟨⟨_, rfl⟩, ⟨_, rfl⟩, fun e => foundAlike_member names listed named inside⟩

end

/-! ## What is decoded -/

/-- A drop leaves the faults of a document as they are. -/
theorem Drops.faults_eq {l : Layout} (distinct : l.Distinct) {d d' : Json} (h : l.Drops d d') :
    l.faults d.settled = l.faults d'.settled := by
  induction distinct generalizing d d' with
  | text => cases h
  | count => cases h
  | flag => cases h
  | listing _ ih =>
    cases h with
    | item _ inside =>
      simp only [Json.settled, Json.settledItems_eq_map, List.map_append, List.map_cons, faults_listing,
        List.zipIdx_append, List.zipIdx_cons, List.flatMap_append, List.flatMap_cons, ih inside]
  | @record fields names _ ih =>
    obtain ⟨⟨ms, rfl⟩, ⟨ms', rfl⟩, alike⟩ := h.foundAlike names
    simp only [Json.settled] at alike ⊢
    rw [faults_record, faults_record]
    refine List.flatMap_congr fun e listed => ?_
    rcases alike e listed with same | ⟨key, v, w, found, found', inside⟩
    · simp only [faultsAt, same]
    · simp only [faultsAt, found, found', ih e listed inside]

end Layout

/-- A form takes the same value from documents of which one comes of the other by a drop. -/
def Form.Ignores {α : Type} (form : Form α) (l : Layout) : Prop :=
  ∀ d d', l.Drops d d' → form.take d.settled = form.take d'.settled

/-- Fields take the same value from objects in which they are found alike. -/
def Fields.Ignores {α : Type} (x : Fields α) (entries : List (Field × Layout)) : Prop :=
  ∀ v w, (∀ e ∈ entries, Layout.FoundAlike e v w) → x.take v = x.take w

section
variable {α β : Type}

lemma ignores_text (form : Form α) : form.Ignores .text := fun _ _ h => nomatch h

lemma ignores_count (form : Form α) : form.Ignores .count := fun _ _ h => nomatch h

lemma ignores_flag (form : Form α) : form.Ignores .flag := fun _ _ h => nomatch h

lemma ignores_listing {form : Form α} {item : Layout} (h : form.Ignores item) :
    form.list.Ignores (.listing item) := by
  intro d d' drops
  cases drops with
  | item _ inside =>
    simp [Form.list, Json.settled, Json.settledItems_eq_map, h _ _ inside]

/-- A single field, from which is taken what its form takes where it is found. -/
lemma ignores_field {x : Fields α} {form : Form α} {e : Field × Layout} (h : form.Ignores e.2) (missing : α)
    (take : ∀ v, x.take v = (e.1.find? v).elim missing fun found => form.take found.2) : x.Ignores [e] := by
  intro v w alike
  rcases alike e List.mem_cons_self with same | ⟨key, d, d', found, found', inside⟩
  · rw [take, take, same]
  · rw [take, take, found, found']
    exact h d d' inside

section
variable {form : Form α} {l : Layout} (name preferred : String) (h : form.Ignores l)
include h

lemma ignores_optional (fallback : α) : (Fields.optional name form fallback).Ignores [Layout.optional name l] :=
  ignores_field h fallback fun v => by
    cases found : (Field.mk name none false).find? v <;> simp [Fields.optional, Field.value?, Layout.optional, found]

lemma ignores_optionalAs (fallback : α) :
    (Fields.optionalAs name preferred form fallback).Ignores [Layout.optionalAs name preferred l] :=
  ignores_field h fallback fun v => by
    cases found : (Field.mk name (some preferred) false).find? v <;>
      simp [Fields.optionalAs, Field.value?, Layout.optionalAs, found]

lemma ignores_required : (Fields.required name form).Ignores [Layout.required name l] :=
  ignores_field h (form.take .null) fun v => by
    cases found : (Field.mk name none true).find? v <;> simp [Fields.required, Field.value?, Layout.required, found]

end

lemma Fields.Ignores.map {x : Fields α} {entries : List (Field × Layout)} (h : x.Ignores entries) (f : α → β) :
    (f <$> x).Ignores entries :=
  fun v w alike => congrArg f (h v w alike)

lemma Fields.Ignores.seq {f : Fields (α → β)} {x : Fields α} {entries entries' : List (Field × Layout)}
    (hf : f.Ignores entries) (hx : x.Ignores entries') : (f <*> x).Ignores (entries ++ entries') := by
  intro v w alike
  obtain ⟨first, rest⟩ := List.forall_mem_append.1 alike
  change f.take v (x.take v) = f.take w (x.take w)
  rw [hf v w first, hx v w rest]

lemma ignores_record {x : Fields α} {entries : List (Field × Layout)}
    (names : (entries.flatMap fun e => e.1.names).Nodup)
    (h : x.Ignores entries) : x.form.Ignores (.record entries) := by
  intro d d' drops
  obtain ⟨-, -, alike⟩ := drops.foundAlike names
  exact h _ _ alike

end

namespace Status

lemma ignores_stateCounts : StateCounts.form.Ignores Layout.stateCounts :=
  ignores_record (by decide) <| ((ignores_optional "unknown" (ignores_count _) 0).map StateCounts.mk)
    |>.seq (ignores_optional "error" (ignores_count _) 0)
    |>.seq (ignores_optional "syncing" (ignores_count _) 0)
    |>.seq (ignores_optional "starting_replay" (ignores_count _) 0)
    |>.seq (ignores_optional "replaying" (ignores_count _) 0)
    |>.seq (ignores_optional "stopping_replay" (ignores_count _) 0)
    |>.seq (ignores_optional "stopped" (ignores_count _) 0)

lemma ignores_summary : Summary.form.Ignores Layout.summary :=
  ignores_record (by decide) <| ((ignores_required "health" (ignores_text _)).map Summary.mk)
    |>.seq (ignores_required "daemon_health" (ignores_text _))
    |>.seq (ignores_required "image_health" (ignores_text _))
    |>.seq (ignores_optional "states" ignores_stateCounts .zero)

lemma ignores_daemon : Daemon.form.Ignores Layout.daemon :=
  ignores_record (by decide) <| ((ignores_optional "service_id" (ignores_text _) "").map Daemon.mk)
    |>.seq (ignores_optional "instance_id" (ignores_text _) "")
    |>.seq (ignores_optional "client_id" (ignores_text _) "")
    |>.seq (ignores_optional "hostname" (ignores_text _) "")
    |>.seq (ignores_optionalAs "version" "ceph_version" (ignores_text _) "")
    |>.seq (ignores_optionalAs "is_leader" "leader" (ignores_flag _) false)
    |>.seq (ignores_optional "health" (ignores_text _) "")

lemma ignores_service : Service.form.Ignores Layout.service :=
  ignores_record (by decide) <| ((ignores_optional "service_id" (ignores_text _) "").map Service.mk)
    |>.seq (ignores_optional "instance_id" (ignores_text _) "")
    |>.seq (ignores_optional "daemon_id" (ignores_text _) "")
    |>.seq (ignores_optional "hostname" (ignores_text _) "")

lemma ignores_peerSite : PeerSite.form.Ignores Layout.peerSite :=
  ignores_record (by decide) <| ((ignores_optional "site_name" (ignores_text _) "").map PeerSite.mk)
    |>.seq (ignores_optional "mirror_uuids" (ignores_text _) "")
    |>.seq (ignores_optional "state" (ignores_text _) "")
    |>.seq (ignores_optional "description" (ignores_text _) "")
    |>.seq (ignores_optional "last_update" (ignores_text _) "")

lemma ignores_image : Image.form.Ignores Layout.image :=
  ignores_record (by decide) <| ((ignores_optional "name" (ignores_text _) "").map Image.mk)
    |>.seq (ignores_optional "global_id" (ignores_text _) "")
    |>.seq (ignores_optional "state" (ignores_text _) "")
    |>.seq (ignores_optional "description" (ignores_text _) "")
    |>.seq (ignores_optional "daemon_service" ignores_service .blank)
    |>.seq (ignores_optional "last_update" (ignores_text _) "")
    |>.seq (ignores_optional "peer_sites" (ignores_listing ignores_peerSite) [])

lemma ignores_pool : Pool.form.Ignores Layout.pool :=
  ignores_record (by decide) <| ((ignores_required "summary" ignores_summary).map Pool.mk)
    |>.seq (ignores_optional "daemons" (ignores_listing ignores_daemon) [])
    |>.seq (ignores_optional "images" (ignores_listing ignores_image) [])

/-- A drop leaves the reading of a document as it is. -/
lemma read_drop {d d' : Json} (h : Layout.pool.Drops d d') :
    Pool.form.read d.settled = Pool.form.read d'.settled := by
  have faults : Pool.form.schema.faults [] d.settled = Pool.form.schema.faults [] d'.settled :=
    h.faults_eq Layout.distinct_pool
  simp only [Form.read, faults, ignores_pool d d' h]

lemma read_drops {d d' : Json} (h : Relation.ReflTransGen Layout.pool.Drops d d') :
    Pool.form.read d.settled = Pool.form.read d'.settled := by
  induction h with
  | refl => rfl
  | tail _ last ih => exact ih.trans (read_drop last)

lemma readDocument_whole {t : Text} {d : Json} (h : Json.readWhole t = some d) :
    readDocument Pool.form t = Pool.form.read d.settled := by
  rw [readDocument, Json.readStrict_eq_settled, h]
  rfl

/-- Documents that become equal once what does not count is dropped are decoded alike, given as texts or as bytes:
to one status, or with the same faults in the same order. -/
theorem decode_converging {t t' : Text} {d d' : Json} (h : Json.readWhole t = some d)
    (h' : Json.readWhole t' = some d')
    (converge : Layout.pool.Converge d d') :
    readDocument Pool.form t = readDocument Pool.form t' ∧
      ∀ output output', Utf8.decode false output = .ok t → Utf8.decode false output' = .ok t' →
        decode output = decode output' := by
  obtain ⟨common, drops, drops'⟩ := converge
  have same : readDocument Pool.form t = readDocument Pool.form t' := by
    rw [readDocument_whole h, readDocument_whole h', read_drops drops, read_drops drops']
  refine ⟨same, fun output output' decoded decoded' => ?_⟩
  rw [decode, decode, decoded, decoded']
  exact same

/-! ## Two ways to write a status -/

namespace Sample

open Json Layout

def verbose : Text := .ofString <|
  "\x7b\"site\": 1, \"summary\": \x7b\"health\": null, \"health\": \"OK\", \"daemon_health\": \"OK\", " ++
  "\"image_health\": \"OK\"\x7d, \"daemons\": [\x7b\"version\": 5, \"ceph_version\": \"17\"\x7d]\x7d"

def terse : Text := .ofString <|
  "\x7b\"daemons\": [\x7b\"ceph_version\": \"17\"\x7d], \"summary\": \x7b\"health\": \"OK\", " ++
  "\"daemon_health\": \"OK\", \"image_health\": \"OK\"\x7d\x7d"

def healths : List (Text × Json) := [
  (.ofString "health", .ofString "OK"), (.ofString "daemon_health", .ofString "OK"),
  (.ofString "image_health", .ofString "OK")]

/-- A health that is replaced. -/
def replaced : Text × Json := (.ofString "health", .null)

def versions : List (Text × Json) := [(.ofString "ceph_version", .ofString "17")]

/-- A version under its plain name, which is shadowed. -/
def plainVersion : Text × Json := (.ofString "version", .int 5)

def members (healths versions : List (Text × Json)) : List (Text × Json) :=
  [(.ofString "summary", .object healths), (.ofString "daemons", .array [.object versions])]

def verboseDocument : Json :=
  .object ((.ofString "site", .int 1) :: members (replaced :: healths) (plainVersion :: versions))

def terseDocument : Json := .object [
  (.ofString "daemons", .array [.object versions]), (.ofString "summary", .object healths)]

lemma verbose_written : readWhole verbose = some verboseDocument := by cbv

lemma terse_written : readWhole terse = some terseDocument := by cbv

lemma documents_converge : pool.Converge verboseDocument terseDocument := by
  have site : pool.Drops verboseDocument (.object (members (replaced :: healths) (plainVersion :: versions))) :=
    .unnamed [] (by simp [Layout.required, Layout.optional, Field.names, Text.ofString_inj])
  have health : summary.Drops (.object (replaced :: healths)) (.object healths) := .repeated [] (by simp [healths])
  have summary : pool.Drops (.object (members (replaced :: healths) (plainVersion :: versions)))
      (.object (members healths (plainVersion :: versions))) :=
    .member (e := Layout.required "summary" summary) [] (by simp) (by simp [Layout.required, Field.names]) health
  have version : daemon.Drops (.object (plainVersion :: versions)) (.object versions) :=
    .shadowed (e := Layout.optionalAs "version" "ceph_version" .text) []
      (by simp [Layout.optionalAs, Layout.optional]) rfl
      (by simp [versions])
  have daemons : pool.Drops (.object (members healths (plainVersion :: versions)))
      (.object (members healths versions)) :=
    .member (e := Layout.optional "daemons" (.listing daemon)) [(.ofString "summary", .object healths)]
      (by simp [Layout.optional]) (by simp [Layout.optional, Field.names]) (.item [] version)
  have order : pool.Drops (.object (members healths versions)) terseDocument :=
    .order [] (by simp [Text.ofString_inj])
  exact ⟨terseDocument, .tail (.tail (.tail (.single site) summary) daemons) order, .refl⟩

end Sample

theorem verbose_converging :
    Json.readWhole Sample.verbose = some Sample.verboseDocument ∧
      Json.readWhole Sample.terse = some Sample.terseDocument ∧
      Layout.pool.Converge Sample.verboseDocument Sample.terseDocument ∧
      readDocument Pool.form Sample.verbose = readDocument Pool.form Sample.terse ∧
      ∀ output output', Utf8.decode false output = .ok Sample.verbose → Utf8.decode false output' = .ok Sample.terse →
        decode output = decode output' :=
  ⟨Sample.verbose_written, Sample.terse_written, Sample.documents_converge,
    decode_converging Sample.verbose_written Sample.terse_written Sample.documents_converge⟩

end Status
end ReplicaWatch
