import Mathlib
import ReplicaWatch.Cache.Fetch
import ReplicaWatch.Proofs.Json.Members
import ReplicaWatch.Proofs.Layout

/-! Faults put into a document. A misfit takes the place of a value, or a field that has to be there is removed;
faults are apart if none of them lies within another. Main statement: a sound document into which faults were put
that are apart is refused with exactly these faults, in the order of their ranks. -/
namespace ReplicaWatch

namespace Layout

/-- A value does not fit what has to stand at its place, for one plain reason: where a text, a count, a flag, a list
or a record is due it is `string_type`, `int_type`, `bool_type`, `tuple_type` or `model_type`. -/
inductive Misfit : Layout → Json → Mismatch → Prop
  | text {w : Json} (other : ∀ t, w ≠ .string t) : Misfit .text w .notText
  | count {w : Json} (other : w.kind = .null ∨ w.kind = .array ∨ w.kind = .object) : Misfit .count w .notCount
  | flag {w : Json} (other : w.kind = .null ∨ w.kind = .array ∨ w.kind = .object) : Misfit .flag w .notFlag
  | listing {item : Layout} {w : Json} (given : w ≠ .null) (other : ∀ vs, w ≠ .array vs) :
      Misfit (.listing item) w .notList
  | record {fields : List (Field × Layout)} {w : Json} (other : ∀ ms, w ≠ .object ms) :
      Misfit (.record fields) w .notRecord

/-- A document comes of another by putting in one fault at a path. A field that is there keeps its name, one that is
not may be given any of its names, and no field gets a second name. -/
inductive Injects : Layout → List Part → Mismatch → Json → Json → Prop
  | here {l : Layout} {v w : Json} {m : Mismatch} (misfit : Misfit l w m) : Injects l [] m v w
  | item {item : Layout} {path : List Part} {m : Mismatch} {v w : Json} (before : List Json) {after : List Json}
      (inside : Injects item path m v w) :
      Injects (.listing item) (.index before.length :: path) m (.array (before ++ v :: after))
        (.array (before ++ w :: after))
  | field {fields : List (Field × Layout)} {e : Field × Layout} {name : String} {path : List Part} {m : Mismatch}
      {v w : Json} {ms : List (Text × Json)} (listed : e ∈ fields) (named : name ∈ e.1.names)
      (found : (Json.object ms).member? name = some v)
      (alone : ∀ other ∈ e.1.names, other ≠ name → (Json.object ms).member? other = none)
        (inside : Injects e.2 path m v w) :
      Injects (.record fields) (.key name :: path) m (.object ms) (.object (Json.insert (.ofString name) w ms))
  | added {fields : List (Field × Layout)} {e : Field × Layout} {name : String} {m : Mismatch} {w : Json}
      {ms : List (Text × Json)} (listed : e ∈ fields) (named : name ∈ e.1.names) (optional : e.1.required = false)
      (missing : ∀ other ∈ e.1.names, (Json.object ms).member? other = none) (misfit : Misfit e.2 w m) :
      Injects (.record fields) [.key name] m (.object ms) (.object (Json.insert (.ofString name) w ms))
  | removed {fields : List (Field × Layout)} {l : Layout} {name : String} {ms : List (Text × Json)}
      (listed : required name l ∈ fields) :
      Injects (.record fields) [.key name] .missing (.object ms) (.object (ms.filter fun m => m.1 ≠ .ofString name))

/-- A document comes of another by putting in faults one after the other, the last one first in the list. -/
inductive InjectsAll (l : Layout) (v : Json) : List Mismatched → Json → Prop
  | nothing : InjectsAll l v [] v
  | more {fs : List Mismatched} {f : Mismatched} {u w : Json} (before : InjectsAll l v fs u)
      (last : Injects l f.path f.mismatch u w) : InjectsAll l v (f :: fs) w

/-- Neither of two paths leads through the end of the other. -/
def Apart (p q : List Part) : Prop := ¬p <+: q ∧ ¬q <+: p

/-! ## What one fault does -/

section
variable {path path' : List Part} {m : Mismatch} {v w : Json}

lemma not_apart_nil (path : List Part) : ¬Apart path [] := fun apart => apart.2 (List.nil_prefix)

@[simp] lemma apart_cons_iff (part : Part) : Apart (part :: path) (part :: path') ↔ Apart path path' := by
  simp [Apart, List.cons_prefix_cons]

lemma Misfit.faults_eq {l : Layout} (h : Misfit l w m) : l.faults w = [⟨m, []⟩] := by
  cases h with
  | text other =>
    cases w with
    | string t => exact absurd rfl (other t)
    | _ => rfl
  | count other =>
    cases w <;> simp_all [Json.kind, faults, schema, Schema.count, Form.scalar, Schema.faults, Schema.readCount]
  | flag other =>
    cases w <;> simp_all [Json.kind, faults, schema, Schema.flag, Form.scalar, Schema.faults, Schema.readFlag]
  | listing given other =>
    cases w with
    | null => exact absurd rfl given
    | array vs => exact absurd rfl (other vs)
    | _ => rfl
  | record other =>
    cases w with
    | object ms => exact absurd rfl (other ms)
    | _ => rfl

/-- Another value under the names of one field leaves the faults of the other fields as they are. -/
lemma perm_faults_of_field {fields : List (Field × Layout)} {e : Field × Layout} {ms ms' : List (Text × Json)}
    {f : Mismatched} (names : (fields.flatMap fun e => e.1.names).Nodup) (listed : e ∈ fields)
    (same : ∀ name ∉ e.1.names, (Json.object ms').member? name = (Json.object ms).member? name)
    (h : (faultsAt e (.object ms')).Perm (f :: faultsAt e (.object ms))) :
    ((record fields).faults (.object ms')).Perm (f :: (record fields).faults (.object ms)) := by
  obtain ⟨before, after, rfl⟩ := List.append_of_mem listed
  obtain ⟨-, pairs⟩ := List.nodup_flatMap.1 names
  obtain ⟨-, later, earlier⟩ := List.pairwise_append.1 pairs
  have kept : ∀ e' ∈ before ++ after, faultsAt e' (.object ms') = faultsAt e' (.object ms) := by
    intro e' he'
    have disjoint : ∀ name ∈ e'.1.names, name ∉ e.1.names := by
      rcases List.mem_append.1 he' with he' | he'
      · exact fun name hn hn' => earlier e' he' e List.mem_cons_self hn hn'
      · exact fun name hn hn' => (List.pairwise_cons.1 later).1 e' he' hn' hn
    unfold faultsAt
    rw [Field.find?_congr fun name hn => same name (disjoint name hn)]
  have front : before.flatMap (fun e' => faultsAt e' (.object ms')) =
      before.flatMap fun e' => faultsAt e' (.object ms) :=
    List.flatMap_congr fun e' he' => kept e' (List.mem_append_left after he')
  have back : after.flatMap (fun e' => faultsAt e' (.object ms')) =
      after.flatMap fun e' => faultsAt e' (.object ms) :=
    List.flatMap_congr fun e' he' => kept e' (List.mem_append_right before he')
  simp only [faults_record, List.flatMap_append, List.flatMap_cons, front, back]
  exact ((h.append_right _).append_left _).trans List.perm_middle

/-- The faults of a field are faults of the record. -/
lemma mem_faults_of_mem_faultsAt {fields : List (Field × Layout)} {e : Field × Layout} {ms : List (Text × Json)}
    {f : Mismatched} (listed : e ∈ fields) (h : f ∈ faultsAt e (.object ms)) :
    f ∈ (record fields).faults (.object ms) := by
  rw [faults_record]
  exact List.mem_flatMap.2 ⟨e, listed, h⟩

lemma member?_insert (name other : String) (w : Json) (ms : List (Text × Json)) :
    (Json.object (Json.insert (.ofString name) w ms)).member? other =
      if name = other then some w else (Json.object ms).member? other := by
  simp only [Json.member?, Json.lookup_insert, Text.ofString_inj]

lemma member?_remove (name other : String) (ms : List (Text × Json)) :
    (Json.object (ms.filter fun m => m.1 ≠ .ofString name)).member? other =
      if name = other then none else (Json.object ms).member? other := by
  simp only [Json.member?, Json.lookup_filter, Text.ofString_inj]

/-- What a field has under a name that it was given. -/
lemma faultsAt_insert {e : Field × Layout} {name : String} {ms : List (Text × Json)} (named : name ∈ e.1.names)
    (alone : ∀ other ∈ e.1.names, other ≠ name → (Json.object ms).member? other = none) (w : Json) :
    faultsAt e (.object (Json.insert (.ofString name) w ms)) = (e.2.faults w).map (.under [.key name]) := by
  have found : e.1.find? (.object (Json.insert (.ofString name) w ms)) = some (name, w) := by
    refine Field.find?_alone named (by simp [member?_insert]) fun other hother apart => ?_
    rw [member?_insert, if_neg (Ne.symm apart), alone other hother apart]
  simp [faultsAt, found]

/-- A field that is given a value under a name of its own brings its faults and no others. -/
lemma perm_faults_insert {fields : List (Field × Layout)} {e : Field × Layout} {name : String}
    {ms : List (Text × Json)} {f : Mismatched} (names : (fields.flatMap fun e => e.1.names).Nodup)
    (listed : e ∈ fields) (named : name ∈ e.1.names)
    (alone : ∀ other ∈ e.1.names, other ≠ name → (Json.object ms).member? other = none)
    (h : ((e.2.faults w).map (.under [.key name])).Perm (f :: faultsAt e (.object ms))) :
    ((record fields).faults (.object (Json.insert (.ofString name) w ms))).Perm
      (f :: (record fields).faults (.object ms)) := by
  refine perm_faults_of_field names listed (fun other foreign => ?_) (faultsAt_insert named alone w ▸ h)
  have different : name ≠ other := fun same => foreign (same ▸ named)
  rw [member?_insert, if_neg different]

/-- A required field that is removed is missing, if it had no faults. -/
lemma perm_faults_remove {fields : List (Field × Layout)} {l : Layout} {name : String} {ms : List (Text × Json)}
    (names : (fields.flatMap fun e => e.1.names).Nodup) (listed : required name l ∈ fields)
    (sound : faultsAt (required name l) (.object ms) = []) :
    ((record fields).faults (.object (ms.filter fun m => m.1 ≠ .ofString name))).Perm
      (⟨.missing, [.key name]⟩ :: (record fields).faults (.object ms)) := by
  have own : (required name l).1.names = [name] := by simp [required, Field.names]
  refine perm_faults_of_field names listed (fun other foreign => ?_) ?_
  · have different : name ≠ other := fun same => foreign (same ▸ own ▸ List.mem_singleton_self name)
    rw [member?_remove, if_neg different]
  · have gone : (required name l).1.find? (.object (ms.filter fun m => m.1 ≠ .ofString name)) = none := by
      refine Field.find?_none fun other named => ?_
      obtain rfl : other = name := by simpa [own] using named
      rw [member?_remove, if_pos rfl]
    rw [sound, faultsAt, gone]
    exact .refl _

/-- A fault that is apart from those that are there is one more fault. -/
lemma Injects.perm {l : Layout} (distinct : l.Distinct) (h : Injects l path m v w)
    (apart : ∀ f ∈ l.faults v, Apart f.path path) : (l.faults w).Perm (⟨m, path⟩ :: l.faults v) := by
  induction h with
  | here misfit =>
    rw [misfit.faults_eq, List.eq_nil_iff_forall_not_mem.2 fun f hf => not_apart_nil _ (apart f hf)]
  | @item item path m v w before after inside ih =>
    cases distinct with | listing items =>
    simp only [faults_listing, List.zipIdx_append, List.zipIdx_cons, List.flatMap_append, List.flatMap_cons,
      Nat.zero_add] at apart ⊢
    have inner := ih items fun f hf => by
      have within := apart (f.under [.index before.length])
        (List.mem_append_right _ (List.mem_append_left _ (List.mem_map_of_mem hf)))
      simpa [Mismatched.under] using within
    have mapped := inner.map (Mismatched.under [.index before.length])
    exact ((mapped.append_right _).append_left _).trans List.perm_middle
  | @field fields e name path m v w ms listed named found alone inside ih =>
    cases distinct with | record names each =>
    have before : faultsAt e (.object ms) = (e.2.faults v).map (.under [.key name]) := by
      simp [faultsAt, Field.find?_alone named found alone]
    refine perm_faults_insert names listed named alone (before ▸ ?_)
    refine (ih (each e listed) fun f hf => ?_).map (Mismatched.under [.key name])
    have within := apart (f.under [.key name]) (mem_faults_of_mem_faultsAt listed (before ▸ List.mem_map_of_mem hf))
    simpa [Mismatched.under] using within
  | @added fields e name m w ms listed named optional missing misfit =>
    cases distinct with | record names each =>
    have before : faultsAt e (.object ms) = [] := by simp [faultsAt, Field.find?_none missing, optional]
    refine perm_faults_insert names listed named (fun other hother _ => missing other hother) ?_
    rw [before, misfit.faults_eq]
    exact .refl _
  | @removed fields l name ms listed =>
    cases distinct with | record names each =>
    have sound : faultsAt (required name l) (.object ms) = [] := by
      refine List.eq_nil_iff_forall_not_mem.2 fun f hf => ?_
      obtain ⟨other, hother, path, hpath⟩ := path_of_mem_faultsAt hf
      obtain rfl : other = name := by simpa [required, Field.names] using hother
      have within := apart f (mem_faults_of_mem_faultsAt listed hf)
      rw [hpath, apart_cons_iff] at within
      exact not_apart_nil _ within
    exact perm_faults_remove names listed sound

/-- Faults that are put in apart from each other are all found. -/
lemma InjectsAll.perm {l : Layout} (distinct : l.Distinct) {fs : List Mismatched} (sound : l.faults v = [])
    (h : InjectsAll l v fs w) (apart : (fs.map Mismatched.path).Pairwise Apart) : (l.faults w).Perm fs := by
  induction h with
  | nothing => rw [sound]
  | @more fs f u w before last ih =>
    rw [List.map_cons, List.pairwise_cons] at apart
    obtain ⟨first, rest⟩ := apart
    have earlier := ih rest
    refine (last.perm distinct fun g hg => ?_).trans (earlier.cons f)
    have other := first g.path (List.mem_map_of_mem (earlier.mem_iff.1 hg))
    exact ⟨other.2, other.1⟩

end

end Layout

namespace Status

lemma message_unreadable (pool : String) (causes : List Mismatched) :
    (FetchFailure.unreadable pool causes).message =
      s!"Failed to parse rbd mirror status for pool {pool}: {causes.length} validation error(s)" := by
  have regroup : "Failed to parse rbd mirror status for pool " ++ pool ++ ": " ++
      (toString causes.length ++ " validation error(s)") =
      "Failed to parse rbd mirror status for pool " ++ pool ++ ": " ++ toString causes.length ++
        " validation error(s)" :=
    String.append_assoc.symm
  exact regroup

/-- A sound document into which faults were put that are apart is refused with exactly these faults, in the order of
the fields and items that they lie in, and the message counts them. -/
theorem faults_collected {fs : List Mismatched} {v w : Json} {p : Pool} {t : Text} (sound : Pool.form.read v = .ok p)
    (injected : Layout.pool.InjectsAll v fs w) (apart : (fs.map Mismatched.path).Pairwise Layout.Apart)
    (given : fs ≠ [])
    (spelled : Json.readStrict t = some w) :
    ∃ causes : List Mismatched, causes.Perm fs ∧
      (causes.Pairwise fun a b => Layout.pool.rank a.path < Layout.pool.rank b.path) ∧
      readDocument Pool.form t = .error causes ∧
      (∀ output, Utf8.decode false output = .ok t →
        decode output = .error causes ∧
        ∀ (s : Session) (pool : String) (args : List String),
          (s.conclude pool args (.finished output)).1 = .error (.ofFetch (.unreadable pool causes))) ∧
      ∀ pool : String, (FetchFailure.unreadable pool causes).message =
        s!"Failed to parse rbd mirror status for pool {pool}: {fs.length} validation error(s)" := by
  have clean : Layout.pool.faults v = [] := by
    unfold Form.read at sound
    split at sound
    · assumption
    · cases sound
  have all : (Layout.pool.faults w).Perm fs := injected.perm Layout.distinct_pool clean apart
  have ranked := Layout.pairwise_faults Layout.distinct_pool w
  have read : Pool.form.read w = .error (Layout.pool.faults w) := by
    unfold Form.read
    split
    · next empty => exact absurd (List.nil_perm.1 (empty ▸ all)) given
    · rfl
  have document : readDocument Pool.form t = .error (Layout.pool.faults w) := by
    rw [readDocument, spelled]
    exact read
  generalize Layout.pool.faults w = causes at all ranked document
  refine ⟨causes, all, ranked, document, fun output decoded => ?_, fun pool => ?_⟩
  · have refused : decode output = .error causes := by rw [decode, decoded]; exact document
    exact ⟨refused, fun s pool args => by simp [Session.conclude, refused]⟩
  · rw [message_unreadable, all.length_eq]

/-! ## A damaged document -/

namespace Sample

open Json

/-- A document with two daemons and an image with two peer sites, given some parts that damage touches. -/
def document (health second : List (Text × Json)) (state : Json) : Json := .object [
  (.ofString "summary", .object (health ++
    [(.ofString "daemon_health", .ofString "OK"), (.ofString "image_health", .ofString "OK")])),
  (.ofString "daemons", .array [.object [], .object second]),
  (.ofString "images", .array [.object [
    (.ofString "peer_sites", .array [.object [], .object [(.ofString "state", state)]])]])]

def intact : Json := document [(.ofString "health", .ofString "OK")] [] (.ofString "up")

/-- A health is gone, one daemon leads by a list, and the state of a peer site is a number. -/
def damaged : Json := document [] [(.ofString "leader", .array [])] (.int 5)

def damagedText : Text := .ofString <|
  "\x7b\"summary\": \x7b\"daemon_health\": \"OK\", \"image_health\": \"OK\"\x7d, " ++
  "\"daemons\": [\x7b\x7d, \x7b\"leader\": []\x7d], " ++
  "\"images\": [\x7b\"peer_sites\": [\x7b\x7d, \x7b\"state\": 5\x7d]\x7d]\x7d"

def damage : List Mismatched := [
  ⟨.notFlag, [.key "daemons", .index 1, .key "leader"]⟩,
  ⟨.missing, [.key "summary", .key "health"]⟩,
  ⟨.notText, [.key "images", .index 0, .key "peer_sites", .index 1, .key "state"]⟩]

/-- A fault within a field that has one name. -/
lemma injects_within {fields : List (Field × Layout)} {l : Layout} {name : String} {path : List Part}
    {m : Mismatch} {v w : Json} {ms : List (Text × Json)} (needed : Bool)
    (listed : (⟨name, none, needed⟩, l) ∈ fields) (found : (Json.object ms).member? name = some v)
    (inside : l.Injects path m v w) :
    (Layout.record fields).Injects (.key name :: path) m (.object ms) (.object (Json.insert (.ofString name) w ms)) :=
  .field listed (by simp [Field.names]) found (by simp [Field.names]) inside

lemma damage_injected : Layout.pool.InjectsAll intact damage damaged := by
  have state : Layout.peerSite.Injects [.key "state"] .notText (.object [(.ofString "state", .ofString "up")])
      (.object [(.ofString "state", .int 5)]) :=
    injects_within (l := .text) false (by simp [Layout.optional]) rfl (.here (.text nofun))
  have sites : (Layout.listing Layout.peerSite).Injects [.index 1, .key "state"] .notText
      (.array [.object [], .object [(.ofString "state", .ofString "up")]])
      (.array [.object [], .object [(.ofString "state", .int 5)]]) := .item [.object []] state
  have image : Layout.image.Injects [.key "peer_sites", .index 1, .key "state"] .notText
      (.object [(.ofString "peer_sites", .array [.object [], .object [(.ofString "state", .ofString "up")]])])
      (.object [(.ofString "peer_sites", .array [.object [], .object [(.ofString "state", .int 5)]])]) :=
    injects_within (l := .listing Layout.peerSite) false (by simp [Layout.optional]) rfl sites
  have images : Layout.pool.Injects
      [.key "images", .index 0, .key "peer_sites", .index 1, .key "state"] .notText intact
      (document [(.ofString "health", .ofString "OK")] [] (.int 5)) :=
    injects_within (l := .listing Layout.image) false (by simp [Layout.optional]) rfl (.item [] image)
  have health : Layout.summary.Injects [.key "health"] .missing
      (.object [(.ofString "health", .ofString "OK"), (.ofString "daemon_health", .ofString "OK"),
        (.ofString "image_health", .ofString "OK")])
      (.object [(.ofString "daemon_health", .ofString "OK"), (.ofString "image_health", .ofString "OK")]) :=
    .removed (l := .text) (by simp)
  have summarized : Layout.pool.Injects [.key "summary", .key "health"] .missing
      (document [(.ofString "health", .ofString "OK")] [] (.int 5)) (document [] [] (.int 5)) :=
    injects_within (l := Layout.summary) true (by simp [Layout.required]) rfl health
  have leader : Layout.daemon.Injects [.key "leader"] .notFlag (.object [])
      (.object [(.ofString "leader", .array [])]) :=
    .added (e := Layout.optionalAs "is_leader" "leader" .flag) (by simp [Layout.optional, Layout.optionalAs])
      (by simp [Layout.optionalAs, Field.names]) rfl (fun _ _ => rfl) (.flag (by simp [Json.kind]))
  have daemons : Layout.pool.Injects [.key "daemons", .index 1, .key "leader"] .notFlag
      (document [] [] (.int 5)) damaged :=
    injects_within (l := .listing Layout.daemon) false (by simp [Layout.optional]) rfl (.item [.object []] leader)
  exact .more (.more (.more .nothing images) summarized) daemons

lemma intact_sound : Pool.form.read intact = .ok (Pool.form.take intact) := rfl

lemma damaged_spelled : readStrict damagedText = some damaged := by cbv

end Sample

theorem damaged_faults_collected :
    Pool.form.read Sample.intact = .ok (Pool.form.take Sample.intact) ∧
      Layout.pool.InjectsAll Sample.intact Sample.damage Sample.damaged ∧
      Json.readStrict Sample.damagedText = some Sample.damaged ∧
      ∃ causes : List Mismatched, causes.Perm Sample.damage ∧
        (causes.Pairwise fun a b => Layout.pool.rank a.path < Layout.pool.rank b.path) ∧
        readDocument Pool.form Sample.damagedText = .error causes ∧
        (∀ output, Utf8.decode false output = .ok Sample.damagedText →
          decode output = .error causes ∧
          ∀ (s : Session) (pool : String) (args : List String),
            (s.conclude pool args (.finished output)).1 = .error (.ofFetch (.unreadable pool causes))) ∧
        ∀ pool : String, (FetchFailure.unreadable pool causes).message =
          s!"Failed to parse rbd mirror status for pool {pool}: {Sample.damage.length} validation error(s)" :=
  ⟨Sample.intact_sound, Sample.damage_injected, Sample.damaged_spelled,
    faults_collected Sample.intact_sound Sample.damage_injected
      (by simp [Sample.damage, Layout.Apart, List.cons_prefix_cons]) (by simp [Sample.damage]) Sample.damaged_spelled⟩

end Status
end ReplicaWatch
