import Mathlib
import ReplicaWatch.Proofs.Bytes
import ReplicaWatch.Proofs.Coherence
import ReplicaWatch.Proofs.Forms
import ReplicaWatch.Proofs.Json.Reading

/-! The way of credentials from the objects of the cluster to those who ask for them. A secret spells the Base64 of
the key's UTF-8 in a description, and a configuration spells in a description a text that itself spells the list of
clusters. Main statement: resolving a namespace gives the key and the first monitor that its objects spell, for one
request of each. -/
namespace ReplicaWatch

/-! ## What objects spell -/

/-- Bytes are the UTF-8 of a text that spells a value. -/
def SpelledBy (bytes : List UInt8) (v : Json) : Prop :=
  ∃ cs, bytes = Utf8.encode cs ∧ Json.Spells false (.ofChars cs) (.spaced v)

/-- The data of a description has a field; what else they have does not matter. -/
def HasData (description : Json) (key : String) (field : Json) : Prop :=
  ∃ data, description.member? "data" = some data ∧ data.member? key = some field

namespace Credentials

/-- A secret that holds a key. -/
inductive HoldsKey (key : String) : Response → Prop
  | body {bytes : List UInt8} {description : Json} (spelled : SpelledBy bytes description)
      (field : HasData description secretKey (.string (.ofChars (Base64.encode (Utf8.encodeString key))))) :
      HoldsKey key (.body bytes)

end Credentials

namespace Cluster

/-- A text, whatever it holds; half of a surrogate pair is read as the replacement character. -/
def IsText (s : String) (v : Json) : Prop := ∃ t, v = .string t ∧ Text.asString t = s

/-- How an entry of the list is written. The identifier has two names. -/
def slots (monitor : String → Json → Prop) (c : Cluster) : List Slot :=
  [⟨["clusterID", "cluster_id"], IsText c.clusterId, c.clusterId = ""⟩, .list "monitors" monitor c.monitors]

/-- A configuration that lists clusters. The monitors of the first are texts without halves of surrogate pairs. -/
inductive ListedBy (first : Cluster) (later : List Cluster) : Response → Prop
  | body {bytes : List UInt8} {description entry : Json} {t : Text} {entries : List Json}
      (spelled : SpelledBy bytes description) (field : HasData description Credentials.configKey (.string t))
      (list : Json.Spells false t (.spaced (.array (entry :: entries))))
      (written : Has (first.slots fun s v => v = .ofString s) entry)
      (others : List.Forall₂ (fun c v => Has (c.slots IsText) v) later entries) : ListedBy first later (.body bytes)

end Cluster

/-! ## What is read from them -/

namespace Credentials

lemma readBody_eq {bytes : List UInt8} {v : Json} (h : SpelledBy bytes v) : readBody bytes = .ok v := by
  obtain ⟨cs, rfl, spells⟩ := h
  obtain ⟨c, rest, begins, ascii⟩ := spells.beginsAscii_spaced
  cases cs with
  | nil => cases begins
  | cons c' cs =>
    cases begins
    have given : ∀ d ∈ c :: cs, d.toNat ≠ 0 := fun d hd => spells.given (.char d) (List.mem_map_of_mem hd)
    simp [readBody, Encoding.decodeBody_encode ascii given, spells.read_eq]

lemma dataField_eq {description field : Json} {key : String} (h : HasData description key field)
    (given : field ≠ .null) : dataField description key = .ok (some field) := by
  obtain ⟨data, found, found'⟩ := h
  cases description with
  | object members =>
    cases data with
    | object fields =>
      have nonempty : fields ≠ [] := by
        rintro rfl
        cases found'
      simp only [dataField, found, Option.getD_some, Json.isSet, List.isEmpty_eq_false_iff.2 nonempty, Bool.not_false,
        if_true, found']
    | _ => cases found'
  | _ => cases found

/-- What UTF-8 and Base64 encode is decoded. -/
lemma decodeField_eq (k : String) :
    decodeField (.string (.ofChars (Base64.encode (Utf8.encodeString k)))) = .ok k := by
  have text : Utf8.decode false (Utf8.encodeString k) = .ok (.ofString k) := Utf8.decode_encode false k.toList
  simp [decodeField, Base64.decode_encode, text]

lemma keyOf_eq {key : String} {response : Response} (ns : String) (h : HoldsKey key response) :
    keyOf ns response = .ok key := by
  obtain ⟨spelled, field⟩ := h
  simp only [keyOf, readBody_eq spelled, dataField_eq field nofun, bind, Except.bind, decodeField_eq]

end Credentials

namespace Cluster

lemma recovers_isText (s : String) : Schema.text.Recovers (IsText s) s := by
  refine recovers_scalar ?_
  rintro _ ⟨t, rfl, rfl⟩
  rfl

lemma recovers_form {monitor : String → Json → Prop} (h : ∀ s, Schema.text.Recovers (monitor s) s) (c : Cluster) :
    form.Recovers (Has (c.slots monitor)) c :=
  ReplicaWatch.recovers_form <|
    ((recovers_optionalAs "cluster_id" "clusterID" (recovers_isText c.clusterId)).map Cluster.mk)
    |>.seq (recovers_optional "monitors" (recovers_list h c.monitors))

lemma readAll_eq {clusters : List Cluster} {entries : List Json}
    (h : List.Forall₂ (fun c v => form.read v = .ok c) clusters entries) : readAll entries = .ok clusters := by
  induction h with
  | nil => rfl
  | cons first _ ih => simp [readAll, first, ih]

lemma parse_eq {clusters : List Cluster} {t : Text} {entries : List Json}
    (list : Json.Spells false t (.spaced (.array entries))) (h : readAll entries = .ok clusters) :
    parse t = .ok clusters := by
  simp only [parse, list.readUnmarked_eq, h]

end Cluster

lemma Credentials.monitorOf_eq {first : Cluster} {later : List Cluster} {monitor : String} {monitors : List String}
    {response : Response} (ns : String) (h : Cluster.ListedBy first later response)
    (given : first.monitors = monitor :: monitors) : monitorOf ns response = .ok monitor := by
  obtain ⟨spelled, field, list, written, others⟩ := h
  have entries := Cluster.readAll_eq <| List.Forall₂.cons
    ((Cluster.recovers_form recovers_text first).read_eq written)
    (others.imp fun c v => (Cluster.recovers_form Cluster.recovers_isText c).read_eq)
  have parsed := Cluster.parse_eq list entries
  simp only [monitorOf, readBody_eq spelled, dataField_eq field nofun, bind, Except.bind, parsed, monitorIn, given]

namespace Session

/-- Where the credentials of an allowed namespace are not known and its objects spell a key and a list of clusters,
resolving them asks for the secret and then for the configuration, and gives the first monitor of the first cluster
with that key. -/
theorem resolve_spelled (s : Session) {ns key monitor : String} {monitors : List String} {first : Cluster}
    {later : List Cluster} (refresh : Bool) (permitted : ns ∈ s.cache.setup.allowed)
    (unknown : s.cache.known.get? ns = none) (secret : Credentials.HoldsKey key (s.world.respond (.secretOf ns)))
    (configuration : Cluster.ListedBy first later (s.world.respond (.configOf ns)))
    (given : first.monitors = monitor :: monitors) :
    let r := s.resolve (.ofString ns) refresh
    r.1 = .ok ⟨monitor, "admin", key⟩ ∧
      ∃ lines : List Log.Line, r.2.trace = s.trace ++ .asked (.secretOf ns) :: .asked (.configOf ns) ::
        .changed (.learned ns ⟨monitor, "admin", key⟩) :: lines.map .logged := by
  have key_eq := Credentials.keyOf_eq ns secret
  have monitor_eq := Credentials.monitorOf_eq ns configuration given
  have found : s.world.find ns = .ok ⟨monitor, "admin", key⟩ := by
    simp only [World.find, key_eq, monitor_eq, Credentials.clientId]
  have asks : s.world.asks ns = [.secretOf ns, .configOf ns] := by
    simp only [World.asks, key_eq]
  rw [resolve_afresh permitted (.inr unknown)]
  simp only [learn, lookup_eq, found, asks, log_trace, change_trace, List.append_assoc]
  exact ⟨trivial, _, rfl⟩

end Session

/-! ## A small cluster -/

namespace Sample

open Json

/-- A description whose data has one field. -/
def describing (name : String) (field : Text) : Json :=
  .object [member "data" (.object [member name (.string field)])]

lemma hasData_describing (name : String) (field : Text) : HasData (describing name field) name (.string field) :=
  ⟨.object [member name (.string field)], by simp [describing, member, Json.member?, lookup],
    by simp [member, Json.member?, lookup]⟩

lemma spells_describing {name : String} {field : Text} (printed : ∀ s ∈ Text.ofString name ++ field, 0x20 ≤ s.code) :
    Spells false (Text.ofString "\x7b\"data\": \x7b\"" ++ (quoted (Text.ofString name) ++
      (Text.ofString "\": \"" ++ (quoted field ++ Text.ofString "\"\x7d\x7d"))))
        (.spaced (describing name field)) := by
  obtain ⟨named, printed⟩ := List.forall_mem_append.1 printed
  have value : Spells false _ (.value (.string field)) := .text (.quoted printed) nofun
  have data := Spells.single (.named name named value)
  have whole := Spells.single (.named "data" (by decide +kernel) data)
  refine whole.bare.of_eq ?_
  have opening : Text.ofString "\x7b\"data\": \x7b\"" = [.char '\x7b', .char '\x22'] ++
      (quoted (Text.ofString "data") ++
      [.char '\x22', .char ':', .char ' ', .char '\x7b', .char '\x22']) := by decide +kernel
  have between : Text.ofString "\": \"" = [.char '\x22', .char ':', .char ' ', .char '\x22'] := by decide +kernel
  have closing : Text.ofString "\"\x7d\x7d" = [.char '\x22', .char '\x7d', .char '\x7d'] := by decide +kernel
  simp [opening, between, closing]

lemma secret_holdsKey : Credentials.HoldsKey "key" (secret "a2V5") := by
  have encoded : Text.ofChars (Base64.encode (Utf8.encodeString "key")) = Text.ofString "a2V5" := by decide +kernel
  have spells : Spells false (Text.ofString ("\x7b\"data\": \x7b\"ceph-secret\": \"" ++ "a2V5" ++ "\"\x7d\x7d"))
      (.spaced (describing Credentials.secretKey (Text.ofString "a2V5"))) :=
    (spells_describing (by decide +kernel)).of_eq (by decide +kernel)
  refine .body ⟨_, rfl, spells⟩ ?_
  rw [encoded]
  exact hasData_describing _ _

/-- The text of the configuration. -/
def clusters : Text := Text.ofString "[\x7b\"monitors\": [\"10.0.0.1\"]\x7d]"

/-- The only cluster of the configuration. -/
def entry : Json := .object [member "monitors" (.array [.ofString "10.0.0.1"])]

lemma clusters_spelled : Spells false clusters (.spaced (.array [entry])) := by
  have monitor : Spells false _ _ := .plain "10.0.0.1" (by decide +kernel)
  have monitors := Spells.named "monitors" (by decide +kernel) (.array (.lastItem monitor.bare))
  exact (Spells.array (.lastItem (Spells.single monitors).bare)).bare.of_eq (by decide +kernel)

lemma configuration_listedBy : Cluster.ListedBy ⟨"", ["10.0.0.1"]⟩ [] configuration := by
  have spells : Spells false (Text.ofString ("\x7b\"data\": \x7b\"csi-cluster-config-json\": " ++
      "\"[\x7b\\\"monitors\\\": [\\\"10.0.0.1\\\"]\x7d]\"\x7d\x7d"))
      (.spaced (describing Credentials.configKey clusters)) :=
    (spells_describing (by decide +kernel)).of_eq (by decide +kernel)
  have unnamed : ∀ name ∈ ["clusterID", "cluster_id"], entry.member? name = none := by
    simp [entry, member, Json.member?, lookup, Text.ofString_inj]
  have listed : entry.member? "monitors" = some (.array [.ofString "10.0.0.1"]) := by
    simp [entry, member, Json.member?, lookup]
  refine .body ⟨_, rfl, spells⟩ (hasData_describing _ _) clusters_spelled ⟨⟨_, rfl⟩, ?_⟩ .nil
  simp only [Cluster.slots, List.forall_mem_cons]
  exact ⟨.omitted trivial unnamed, .single listed (.array (.cons rfl .nil)), by simp⟩

end Sample

theorem Session.resolve_spelled_sample :
    let r := (Sample.run "a2V5" true [] []).resolve (.ofString "ns1") false
    r.1 = .ok ⟨"10.0.0.1", "admin", "key"⟩ ∧
      ∃ lines : List Log.Line, r.2.trace = [] ++ .asked (.secretOf "ns1") :: .asked (.configOf "ns1") ::
        .changed (.learned "ns1" ⟨"10.0.0.1", "admin", "key"⟩) :: lines.map .logged :=
  resolve_spelled (Sample.run "a2V5" true [] []) false (by decide) rfl Sample.secret_holdsKey
    Sample.configuration_listedBy rfl

end ReplicaWatch
