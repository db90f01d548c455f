import Mathlib
import ReplicaWatch.Proofs.CredentialChain
import ReplicaWatch.Proofs.SteadySweep

/-! Why there are no credentials for a namespace. What can be in the way of a lookup is said of the answers to its
two requests alone, and the obstacles are ranked. Main statement: a lookup fails for the obstacle of the lowest rank
and finds credentials if there is none, and it asks for the configuration unless the secret is in the way. -/
namespace ReplicaWatch

/-! ## Lists of clusters -/

namespace Cluster

/-- The identifier of an entry: under its preferred name if it is there, or else under the other. -/
def idOf? (v : Json) : Option Json := (v.member? "clusterID").or (v.member? "cluster_id")

/-- An entry is no cluster: no object, or its identifier is there and is no text, or its monitors are there and are
neither null nor a list of texts. -/
inductive Malformed (v : Json) : Prop
  | notObject (h : ∀ ms, v ≠ .object ms)
  | identifier {w} (there : idOf? v = some w) (other : ∀ t, w ≠ .string t)
  | monitors {w} (there : v.member? "monitors" = some w) (given : w ≠ .null)
      (other : ∀ items, w = .array items → ∃ item ∈ items, ∀ t, item ≠ .string t)

/-- A text lists entries, none of which is malformed; null lists none. -/
inductive Lists (t : Text) : List Json → Prop
  | null (spelled : Json.readUnmarked t = .ok .null) : Lists t []
  | entries {vs} (spelled : Json.readUnmarked t = .ok (.array vs)) (sound : ∀ v ∈ vs, ¬Malformed v) : Lists t vs

/-- What is wrong with a text that lists no clusters: it is no JSON, or neither a list nor null, or the first
malformed entry of its list has these faults. -/
inductive Faulty (t : Text) : ValueFault → Prop
  | notJson {fault} (spelled : Json.readUnmarked t = .error fault) : Faulty t (.json fault)
  | notList {v} (spelled : Json.readUnmarked t = .ok v) (given : v ≠ .null) (other : ∀ vs, v ≠ .array vs) :
      Faulty t .notList
  | entry {before v after} (spelled : Json.readUnmarked t = .ok (.array (before ++ v :: after)))
      (sound : ∀ w ∈ before, ¬Malformed w) (malformed : Malformed v) :
      Faulty t (.schema (form.schema.faults [] v))

/-- A text is no JSON, or neither null nor a list, or a list with a malformed entry anywhere. -/
def Unlistable (t : Text) : Prop :=
  (∃ fault, Json.readUnmarked t = .error fault) ∨
    ∃ v, Json.readUnmarked t = .ok v ∧ v ≠ .null ∧ ∀ vs, v = .array vs → ∃ entry ∈ vs, Malformed entry

/-- An entry names no monitor. -/
def Bare (v : Json) : Prop :=
  v.member? "monitors" = none ∨ v.member? "monitors" = some .null ∨ v.member? "monitors" = some (.array [])

/-- The first monitor that an entry names. -/
def Begins (v : Json) (monitor : String) : Prop :=
  ∃ t more, v.member? "monitors" = some (.array (.string t :: more)) ∧ Text.asString t = monitor

lemma faults_text_iff (path : List Part) (v : Json) : Schema.text.schema.faults path v = [] ↔ ∃ t, v = .string t := by
  cases v <;> simp [Schema.text, Form.scalar, Schema.faults]

lemma faults_texts_iff (path : List Part) (v : Json) :
    Schema.text.list.schema.faults path v = [] ↔
      v = .null ∨ ∃ items, v = .array items ∧ ∀ item ∈ items, ∃ t, item = .string t := by
  cases v with
  | array items =>
    simp only [Form.list, Schema.faults, List.flatMap_eq_nil_iff, reduceCtorEq, false_or, Json.array.injEq,
      exists_eq_left', Prod.forall, faults_text_iff]
    constructor
    · intro h item hi
      obtain ⟨n, hn, rfl⟩ := List.getElem_of_mem hi
      exact h _ n (List.mk_mem_zipIdx_iff_getElem?.2 (List.getElem?_eq_getElem hn))
    · exact fun h item n hn => h item (List.fst_mem_of_mem_zipIdx hn)
  | _ => simp [Form.list, Schema.faults]

/-- The fields of a cluster are without fault where those are that are there. -/
lemma faults_object_iff (ms : List (Text × Json)) :
    form.schema.faults [] (.object ms) = [] ↔
      (∀ w, idOf? (.object ms) = some w → ∃ t, w = .string t) ∧
        ∀ w, (Json.object ms).member? "monitors" = some w →
          w = .null ∨ ∃ items, w = .array items ∧ ∀ item ∈ items, ∃ t, item = .string t := by
  have parts : form.schema.faults [] (.object ms) = Schema.faultsOfFields []
      [(⟨"cluster_id", some "clusterID", false⟩, Schema.text.schema),
        (⟨"monitors", none, false⟩, Schema.text.list.schema)]
      (.object ms) := rfl
  rw [parts]
  simp only [Schema.faultsOfFields, List.append_nil, List.append_eq_nil_iff]
  refine and_congr ?_ ?_
  · simp only [Field.find?, idOf?, Option.bind_some]
    cases (Json.object ms).member? "clusterID" with
    | some w => simp [faults_text_iff]
    | none =>
      cases (Json.object ms).member? "cluster_id" with
      | some w => simp [faults_text_iff]
      | none => simp
  · simp only [Field.find?, Option.bind_none]
    cases (Json.object ms).member? "monitors" with
    | some w => simp [faults_texts_iff]
    | none => simp

/-- The form of a cluster finds no fault exactly with entries that are not malformed. -/
lemma faults_form_iff (v : Json) : form.schema.faults [] v = [] ↔ ¬Malformed v := by
  cases v with
  | object ms =>
    rw [faults_object_iff]
    constructor
    · rintro ⟨identifier, monitors⟩ malformed
      cases malformed with
      | notObject h => exact h ms rfl
      | identifier there other =>
        obtain ⟨t, rfl⟩ := identifier _ there
        exact other t rfl
      | monitors there given other =>
        obtain rfl | ⟨items, rfl, texts⟩ := monitors _ there
        · exact given rfl
        · obtain ⟨item, hi, notText⟩ := other items rfl
          obtain ⟨t, rfl⟩ := texts item hi
          exact notText t rfl
    · intro sound
      refine ⟨fun w there => ?_, fun w there => ?_⟩
      · by_contra other
        exact sound (.identifier there fun t ht => other ⟨t, ht⟩)
      · by_contra other
        obtain ⟨given, listed⟩ := not_or.1 other
        refine sound (.monitors there given fun items hw => ?_)
        by_contra texts
        refine listed ⟨items, hw, fun item hi => ?_⟩
        by_contra notText
        exact texts ⟨item, hi, fun t ht => notText ⟨t, ht⟩⟩
  | _ => exact iff_of_false nofun fun sound => sound (.notObject fun _ => nofun)

lemma readAll_sound {vs : List Json} (sound : ∀ v ∈ vs, ¬Malformed v) : readAll vs = .ok (vs.map form.take) := by
  induction vs with
  | nil => rfl
  | cons v rest ih =>
    obtain ⟨first, rest⟩ := List.forall_mem_cons.1 sound
    simp [readAll, Form.read, (faults_form_iff v).2 first, ih rest]

lemma readAll_malformed {before after : List Json} {v : Json} (sound : ∀ w ∈ before, ¬Malformed w)
    (malformed : Malformed v) : readAll (before ++ v :: after) = .error (.schema (form.schema.faults [] v)) := by
  induction before with
  | nil =>
    have faulty : form.schema.faults [] v ≠ [] := fun none => (faults_form_iff v).1 none malformed
    have read : form.read v = .error (form.schema.faults [] v) := by
      unfold Form.read
      split
      · next none => exact absurd none faulty
      · rfl
    simp [readAll, read]
  | cons w before ih =>
    obtain ⟨first, rest⟩ := List.forall_mem_cons.1 sound
    simp [readAll, Form.read, (faults_form_iff w).2 first, ih rest]

/-- A list has a first malformed entry, or none. -/
lemma exists_first_malformed {vs : List Json} (h : ∃ v ∈ vs, Malformed v) :
    ∃ before v after, vs = before ++ v :: after ∧ (∀ w ∈ before, ¬Malformed w) ∧ Malformed v := by
  induction vs with
  | nil => simp at h
  | cons v rest ih =>
    by_cases now : Malformed v
    · exact ⟨[], v, rest, rfl, by simp, now⟩
    · have later : ∃ w ∈ rest, Malformed w := by simpa [now] using h
      obtain ⟨before, w, after, rfl, sound, malformed⟩ := ih later
      exact ⟨v :: before, w, after, rfl, List.forall_mem_cons.2 ⟨now, sound⟩, malformed⟩

lemma Lists.parse_eq {t : Text} {vs : List Json} (h : Lists t vs) : parse t = .ok (vs.map form.take) := by
  cases h with
  | null spelled => simp [parse, spelled]
  | entries spelled sound => simp [parse, spelled, readAll_sound sound]

lemma Faulty.parse_eq {t : Text} {fault : ValueFault} (h : Faulty t fault) : parse t = .error fault := by
  cases h with
  | notJson spelled => simp [parse, spelled]
  | @notList v spelled given other =>
    cases v with
    | null => exact absurd rfl given
    | array vs => exact absurd rfl (other vs)
    | _ => simp [parse, spelled]
  | entry spelled sound malformed => simp [parse, spelled, readAll_malformed sound malformed]

lemma unlistable_iff (t : Text) : Unlistable t ↔ ∃ fault, Faulty t fault := by
  constructor
  · rintro (⟨fault, spelled⟩ | ⟨v, spelled, given, entries⟩)
    · exact ⟨_, .notJson spelled⟩
    · by_cases list : ∃ vs, v = .array vs
      · obtain ⟨vs, rfl⟩ := list
        obtain ⟨before, entry, after, rfl, sound, malformed⟩ := exists_first_malformed (entries vs rfl)
        exact ⟨_, .entry spelled sound malformed⟩
      · exact ⟨_, .notList spelled given fun vs hv => list ⟨vs, hv⟩⟩
  · rintro ⟨fault, faulty⟩
    cases faulty with
    | notJson spelled => exact .inl ⟨_, spelled⟩
    | notList spelled given other => exact .inr ⟨_, spelled, given, fun vs hv => absurd hv (other vs)⟩
    | @entry before v after spelled _ malformed =>
      refine .inr ⟨_, spelled, nofun, fun vs hv => ⟨v, ?_, malformed⟩⟩
      obtain rfl := Json.array.inj hv
      simp

lemma lists_or_faulty (t : Text) : (∃ vs, Lists t vs) ∨ ∃ fault, Faulty t fault := by
  by_cases unlistable : Unlistable t
  · exact .inr ((unlistable_iff t).1 unlistable)
  · left
    obtain ⟨json, sound⟩ := not_or.1 unlistable
    cases spelled : Json.readUnmarked t with
    | error fault => exact absurd ⟨fault, spelled⟩ json
    | ok v =>
      by_cases null : v = .null
      · exact ⟨[], .null (null ▸ spelled)⟩
      · by_contra none
        refine sound ⟨v, spelled, null, fun vs hv => ?_⟩
        by_contra all
        exact none ⟨vs, .entries (hv ▸ spelled) fun w hw malformed => all ⟨w, hw, malformed⟩⟩

lemma monitors_take (v : Json) :
    (form.take v).monitors = (v.member? "monitors").elim [] Schema.text.list.take := by
  change ((Field.mk "monitors" none false).value? v).elim [] Schema.text.list.take = _
  simp only [Field.value?, Field.find?, Option.bind_none]
  cases v.member? "monitors" <;> rfl

lemma Bare.monitors_eq {v : Json} (h : Bare v) : (form.take v).monitors = [] := by
  rw [monitors_take]
  rcases h with h | h | h <;> rw [h] <;> rfl

lemma Begins.monitors_eq {v : Json} {monitor : String} (h : Begins v monitor) :
    ∃ more, (form.take v).monitors = monitor :: more := by
  obtain ⟨t, more, h, rfl⟩ := h
  exact ⟨_, by rw [monitors_take, h]; rfl⟩

/-- An entry that is not malformed names no monitor, or a first one. -/
lemma bare_or_begins {v : Json} (sound : ¬Malformed v) : Bare v ∨ ∃ monitor, Begins v monitor := by
  cases there : v.member? "monitors" with
  | none => exact .inl (.inl there)
  | some w =>
    by_cases null : w = .null
    · exact .inl (.inr (.inl (null ▸ there)))
    · by_contra neither
      obtain ⟨bare, begins⟩ := not_or.1 neither
      refine sound (.monitors there null fun items hw => ?_)
      subst hw
      cases items with
      | nil => exact absurd (.inr (.inr there)) bare
      | cons item more => exact ⟨item, List.mem_cons_self, fun t ht => begins ⟨_, t, more, ht ▸ there, rfl⟩⟩

end Cluster

/-! ## Answers -/

namespace Credentials

/-- The data of a description are not set, or are an object in which a field is missing or null. -/
inductive Lacks (key : String) (description : Json) : Prop
  | unset (h : (dataOf description).isSet = false)
  | missing {fields} (h : dataOf description = .object fields) (none : (Json.object fields).member? key = none)
  | null {fields} (h : dataOf description = .object fields) (null : (Json.object fields).member? key = some .null)

/-- What there is in an answer where a text was wanted. -/
inductive Content where
  | refusal (status reason : Json)
  | nothing
  | text (t : Text)

/-- An answer is a refusal, or describes an object in whose data there is no field, or one with a text. -/
inductive Holds (key : String) : Response → Content → Prop
  | refused {status reason} : Holds key (.refused status reason) (.refusal status reason)
  | lacking {bytes members} (described : readBody bytes = .ok (.object members))
      (lacks : Lacks key (.object members)) :
      Holds key (.body bytes) .nothing
  | text {bytes description t} (described : readBody bytes = .ok description)
      (field : HasData description key (.string t)) : Holds key (.body bytes) (.text t)

/-- A text is Base64 of the UTF-8 of a key. -/
def Decodes (t : Text) (key : String) : Prop :=
  ∃ bytes decoded, Base64.decode t = .ok bytes ∧ Utf8.decode false bytes = .ok decoded ∧ Text.asString decoded = key

lemma dataField_none_iff (key : String) (members : List (Text × Json)) :
    dataField (.object members) key = .ok none ↔ Lacks key (.object members) := by
  have data : ((Json.object members).member? "data").getD .null = dataOf (.object members) := rfl
  simp only [dataField, data]
  constructor
  · intro h
    cases set : (dataOf (.object members)).isSet with
    | false => exact .unset set
    | true =>
      rw [set] at h
      generalize hd : dataOf (.object members) = d at h
      cases d with
      | object fields =>
        simp only [if_true] at h
        split at h
        · next none => exact .missing hd none
        · next null => exact .null hd null
        · cases h
      | _ => cases h
  · intro h
    cases h with
    | unset h => simp [h]
    | missing h none => simp [h, none]
    | null h null => simp [h, null]

lemma hasData_of_dataField {key : String} {members : List (Text × Json)} {v : Json}
    (h : dataField (.object members) key = .ok (some v)) : HasData (.object members) key v := by
  have data : ((Json.object members).member? "data").getD .null = dataOf (.object members) := rfl
  simp only [dataField, data] at h
  split at h
  · generalize hd : dataOf (.object members) = d at h
    cases d with
    | object fields =>
      simp only at h
      split at h
      · cases h
      · cases h
      · next there =>
        cases h
        cases found : (Json.object members).member? "data" with
        | none => simp [dataOf, found] at hd
        | some w =>
          simp only [dataOf, found, Option.getD_some] at hd
          exact ⟨_, found, hd ▸ there⟩
    | _ => cases h
  · cases h

lemma dataField_text {description : Json} {key : String} {t : Text} (field : HasData description key (.string t)) :
    dataField description key = .ok (some (.string t)) :=
  dataField_eq field (by simp)

lemma Holds.unique {key : String} {response : Response} {a b : Content} (h : Holds key response a)
    (h' : Holds key response b) : a = b := by
  cases h with
  | refused =>
    cases h'
    rfl
  | lacking described lacks =>
    cases h' with
    | lacking _ _ => rfl
    | text described' field =>
      cases described.symm.trans described'
      cases ((dataField_none_iff _ _).2 lacks).symm.trans (dataField_text field)
  | text described field =>
    cases h' with
    | lacking described' lacks =>
      cases described.symm.trans described'
      cases ((dataField_none_iff _ _).2 lacks).symm.trans (dataField_text field)
    | text described' field' =>
      cases described.symm.trans described'
      cases (dataField_text field).symm.trans (dataField_text field')
      rfl

/-- A legible answer is a refusal, or has no field, or one with a readable text. -/
lemma exists_holds {key : String} {readable : Json → Prop} {response : Response} (h : Legible key readable response)
    (text : ∀ v, readable v → ∃ t, v = .string t) :
    ∃ content, Holds key response content ∧ ∀ t, content = .text t → readable (.string t) := by
  cases response with
  | refused status reason => exact ⟨_, .refused, nofun⟩
  | body bytes =>
    obtain ⟨members, described, has⟩ := h
    obtain ⟨field, found, readable⟩ := hasReadable_iff.1 has
    cases field with
    | none => exact ⟨_, .lacking described ((dataField_none_iff key members).1 found), nofun⟩
    | some v =>
      have ok := readable v rfl
      obtain ⟨t, rfl⟩ := text v ok
      exact ⟨_, .text described (hasData_of_dataField found), fun u hu => Content.text.inj hu ▸ ok⟩

/-! ## Reading answers -/

section
variable {ns key : String} {response : Response} {t : Text}

lemma Holds.keyOf_refused {status reason : Json} (h : Holds secretKey response (.refusal status reason)) :
    keyOf ns response =
      .error (.ofCredential (.secretUnavailable ns secretName (Failure.refusalText status reason))) := by
  cases h
  rfl

lemma Holds.keyOf_nothing (h : Holds secretKey response .nothing) :
    keyOf ns response = .error (.ofCredential (.secretFieldMissing ns secretName secretKey)) := by
  cases h with
  | lacking described lacks =>
    simp only [keyOf, described, (dataField_none_iff _ _).2 lacks, bind, Except.bind]

lemma Holds.keyOf_decodes (h : Holds secretKey response (.text t)) (decodes : Decodes t key) :
    keyOf ns response = .ok key := by
  obtain ⟨bytes, decoded, base, utf, rfl⟩ := decodes
  cases h with
  | text described field =>
    simp only [keyOf, described, dataField_text field, bind, Except.bind, decodeField, base, utf]

lemma Holds.keyOf_undecodable (h : Holds secretKey response (.text t)) (ascii : IsAscii (.string t))
    (none : ∀ key, ¬Decodes t key) :
    keyOf ns response = .error (.ofCredential (.secretUnavailable ns secretName s!"undecodable {secretKey}")) := by
  obtain ⟨u, hu, ascii⟩ := ascii
  cases hu
  cases h with
  | text described field =>
    simp only [keyOf, described, dataField_text field, bind, Except.bind, decodeField]
    cases base : Base64.decode t with
    | error fault =>
      cases fault with
      | foreign => exact absurd ascii (decode_eq_foreign_iff.1 base)
      | _ => simp [isUndecodable]
    | ok bytes =>
      cases utf : Utf8.decode false bytes with
      | error fault => simp [isUndecodable, utf]
      | ok decoded => exact absurd ⟨bytes, decoded, base, utf, rfl⟩ (none _)

lemma Holds.monitorOf_refused {status reason : Json} (h : Holds configKey response (.refusal status reason)) :
    monitorOf ns response =
      .error (.ofCredential (.configUnavailable ns configName (Failure.refusalText status reason))) := by
  cases h
  rfl

lemma Holds.monitorOf_nothing (h : Holds configKey response .nothing) :
    monitorOf ns response = .error (.ofCredential (.configFieldMissing ns configName configKey)) := by
  cases h with
  | lacking described lacks =>
    simp only [monitorOf, described, (dataField_none_iff _ _).2 lacks, bind, Except.bind]

lemma Holds.monitorOf_faulty {fault : ValueFault} (h : Holds configKey response (.text t))
    (faulty : Cluster.Faulty t fault) :
    monitorOf ns response = .error (.ofCredential (.configUnreadable ns configKey fault.message)) := by
  cases h with
  | text described field =>
    simp only [monitorOf, described, dataField_text field, bind, Except.bind, faulty.parse_eq]

lemma Holds.monitorOf_lists {vs : List Json} (h : Holds configKey response (.text t)) (lists : Cluster.Lists t vs) :
    monitorOf ns response = monitorIn ns (vs.map Cluster.form.take) := by
  cases h with
  | text described field =>
    simp only [monitorOf, described, dataField_text field, bind, Except.bind, lists.parse_eq]

lemma monitorIn_bare {v : Json} (bare : Cluster.Bare v) (later : List Json) :
    monitorIn ns ((v :: later).map Cluster.form.take) = .error (.ofCredential (.noMonitor ns)) := by
  simp only [List.map_cons, monitorIn, bare.monitors_eq]

lemma monitorIn_begins {v : Json} {monitor : String} (begins : Cluster.Begins v monitor) (later : List Json) :
    monitorIn ns ((v :: later).map Cluster.form.take) = .ok monitor := by
  obtain ⟨more, first⟩ := begins.monitors_eq
  simp only [List.map_cons, monitorIn, first]

end

/-! ## Obstacles -/

/-- What can be in the way of a lookup. -/
inductive Obstacle where
  | secretRefused
  | secretLacking
  | secretUndecodable
  | configRefused
  | configLacking
  | configUnreadable
  | noCluster
  | noMonitor
  deriving DecidableEq, Repr

namespace Obstacle

/-- The order of obstacles: of several, the one of the lowest rank counts. -/
def rank : Obstacle → ℕ
  | secretRefused => 0
  | secretLacking => 1
  | secretUndecodable => 2
  | configRefused => 3
  | configLacking => 4
  | configUnreadable => 5
  | noCluster => 6
  | noMonitor => 7

/-- Whether the secret is in the way, and not the configuration. -/
def ofSecret (o : Obstacle) : Bool := o.rank < configRefused.rank

end Obstacle

/-- An obstacle is in the way of a lookup, given the answers to its requests, and has it fail for this cause. -/
inductive Hinders (ns : String) (secret config : Response) : Obstacle → CredentialFailure → Prop
  | secretRefused {status reason} (h : Holds secretKey secret (.refusal status reason)) :
      Hinders ns secret config .secretRefused (.secretUnavailable ns secretName (Failure.refusalText status reason))
  | secretLacking (h : Holds secretKey secret .nothing) :
      Hinders ns secret config .secretLacking (.secretFieldMissing ns secretName secretKey)
  | secretUndecodable {t} (h : Holds secretKey secret (.text t)) (none : ∀ key, ¬Decodes t key) :
      Hinders ns secret config .secretUndecodable (.secretUnavailable ns secretName s!"undecodable {secretKey}")
  | configRefused {status reason} (h : Holds configKey config (.refusal status reason)) :
      Hinders ns secret config .configRefused (.configUnavailable ns configName (Failure.refusalText status reason))
  | configLacking (h : Holds configKey config .nothing) :
      Hinders ns secret config .configLacking (.configFieldMissing ns configName configKey)
  | configUnreadable {t fault} (h : Holds configKey config (.text t)) (faulty : Cluster.Faulty t fault) :
      Hinders ns secret config .configUnreadable (.configUnreadable ns configKey fault.message)
  | noCluster {t} (h : Holds configKey config (.text t)) (lists : Cluster.Lists t []) :
      Hinders ns secret config .noCluster (.noCluster ns)
  | noMonitor {t first later} (h : Holds configKey config (.text t)) (lists : Cluster.Lists t (first :: later))
      (bare : Cluster.Bare first) : Hinders ns secret config .noMonitor (.noMonitor ns)

/-- An obstacle is in the way, and none of a lower rank is. -/
structure First (hinders : Obstacle → CredentialFailure → Prop) (o : Obstacle)
    (cause : CredentialFailure) : Prop where
  inWay : hinders o cause
  lowest : ∀ lower other, lower.rank < o.rank → ¬hinders lower other

/-- The credentials that are spelled by the answers to the requests of a lookup. -/
inductive Grants (secret config : Response) : Credentials → Prop
  | intro {t u key monitor first later} (hs : Holds secretKey secret (.text t)) (decodes : Decodes t key)
      (hc : Holds configKey config (.text u)) (lists : Cluster.Lists u (first :: later))
      (begins : Cluster.Begins first monitor) : Grants secret config ⟨monitor, clientId, key⟩

lemma exists_first (hinders : Obstacle → CredentialFailure → Prop) :
    (∃ o cause, First hinders o cause) ∨ ∀ o cause, ¬hinders o cause := by
  by_contra neither
  obtain ⟨none, some⟩ := not_or.1 neither
  refine some fun o cause => ?_
  -- An obstacle that is in the way is not the first, so that there is another of a lower rank.
  induction h : o.rank using Nat.strong_induction_on generalizing o cause with
  | _ n ih => exact fun hinders => none ⟨o, cause, hinders, fun lower other lt => ih _ (h ▸ lt) lower other rfl⟩

section
variable {ns : String} {secret config : Response} {o : Obstacle} {cause : CredentialFailure}

lemma exists_holds_secret (legible : Legible secretKey IsAscii secret) :
    ∃ content, Holds secretKey secret content ∧ ∀ t, content = .text t → IsAscii (.string t) :=
  exists_holds legible fun _ ⟨t, hv, _⟩ => ⟨t, hv⟩

lemma exists_holds_config (legible : Legible configKey IsText config) :
    ∃ content, Holds configKey config content := by
  obtain ⟨content, holds, -⟩ := exists_holds legible fun _ h => h
  exact ⟨content, holds⟩

/-- Where the secret is in the way, there is no key. -/
lemma Hinders.keyOf_eq (h : Hinders ns secret config o cause) (legible : Legible secretKey IsAscii secret)
    (about : o.ofSecret = true) : keyOf ns secret = .error (.ofCredential cause) := by
  cases h with
  | secretRefused h => exact h.keyOf_refused
  | secretLacking h => exact h.keyOf_nothing
  | @secretUndecodable t h none =>
    obtain ⟨content, holds, ascii⟩ := exists_holds_secret legible
    exact h.keyOf_undecodable (ascii t (holds.unique h)) none
  | _ => cases about

/-- Where the configuration is in the way, there is no monitor. -/
lemma Hinders.monitorOf_eq (h : Hinders ns secret config o cause) (about : o.ofSecret = false) :
    monitorOf ns config = .error (.ofCredential cause) := by
  cases h with
  | configRefused h => exact h.monitorOf_refused
  | configLacking h => exact h.monitorOf_nothing
  | configUnreadable h faulty => exact h.monitorOf_faulty faulty
  | noCluster h lists => exact h.monitorOf_lists lists
  | noMonitor h lists bare => exact (h.monitorOf_lists lists).trans (monitorIn_bare bare _)
  | _ => cases about

/-- Where the secret is not in the way, it holds a key. -/
lemma exists_key (legible : Legible secretKey IsAscii secret)
    (clear : ∀ o cause, o.ofSecret = true → ¬Hinders ns secret config o cause) :
    ∃ t key, Holds secretKey secret (.text t) ∧ Decodes t key := by
  obtain ⟨content, holds, -⟩ := exists_holds_secret legible
  cases content with
  | refusal status reason => exact absurd (.secretRefused holds) (clear _ _ rfl)
  | nothing => exact absurd (.secretLacking holds) (clear _ _ rfl)
  | text t =>
    by_contra none
    exact clear _ _ rfl (.secretUndecodable holds fun key decodes => none ⟨t, key, holds, decodes⟩)

/-- Where nothing is in the way, credentials are spelled. -/
lemma exists_grants (legible : Legible secretKey IsAscii secret) (legible' : Legible configKey IsText config)
    (clear : ∀ o cause, ¬Hinders ns secret config o cause) : ∃ c, Grants secret config c := by
  obtain ⟨t, key, hs, decodes⟩ := exists_key legible fun o cause _ => clear o cause
  obtain ⟨content, holds⟩ := exists_holds_config legible'
  cases content with
  | refusal status reason => exact absurd (.configRefused holds) (clear _ _)
  | nothing => exact absurd (.configLacking holds) (clear _ _)
  | text u =>
    rcases Cluster.lists_or_faulty u with ⟨vs, lists⟩ | ⟨fault, faulty⟩
    · cases vs with
      | nil => exact absurd (.noCluster holds lists) (clear _ _)
      | cons first later =>
        have sound : ¬Cluster.Malformed first := by
          cases lists with
          | entries _ sound => exact sound first List.mem_cons_self
        rcases Cluster.bare_or_begins sound with bare | ⟨monitor, begins⟩
        · exact absurd (.noMonitor holds lists bare) (clear _ _)
        · exact ⟨_, .intro hs decodes holds lists begins⟩
    · exact absurd (.configUnreadable holds faulty) (clear _ _)

end

end Credentials

/-! ## Lookups -/

namespace World

open Credentials

section
variable {w : World} {ns : String} {o : Obstacle} {cause : CredentialFailure}

/-- The obstacles to a lookup in a world. -/
def hinders (w : World) (ns : String) : Obstacle → CredentialFailure → Prop :=
  Hinders ns (w.respond (.secretOf ns)) (w.respond (.configOf ns))

lemma find_of_grants {c : Credentials} (h : Grants (w.respond (.secretOf ns)) (w.respond (.configOf ns)) c) :
    w.find ns = .ok c := by
  obtain ⟨hs, decodes, hc, lists, begins⟩ := h
  simp only [find, hs.keyOf_decodes decodes, hc.monitorOf_lists lists, monitorIn_begins begins]

variable (legible : Legible secretKey IsAscii (w.respond (.secretOf ns)))
include legible

lemma find_of_first (h : First (w.hinders ns) o cause) : w.find ns = .error (.ofCredential cause) := by
  cases about : o.ofSecret with
  | true => simp only [find, h.inWay.keyOf_eq legible about]
  | false =>
    -- The configuration counts only where the secret is not in the way, which then holds a key.
    have clear (lower : Obstacle) (other : CredentialFailure) (secret : lower.ofSecret = true) :
        ¬w.hinders ns lower other := by
      refine h.lowest lower other ?_
      have below := of_decide_eq_true secret
      have above := of_decide_eq_false about
      omega
    obtain ⟨t, key, holds, decodes⟩ := exists_key legible clear
    simp only [find, holds.keyOf_decodes decodes, h.inWay.monitorOf_eq about]

lemma asks_of_hinders (h : w.hinders ns o cause) (about : o.ofSecret = true) : w.asks ns = [.secretOf ns] := by
  simp only [asks, h.keyOf_eq legible about]

lemma asks_of_clear (clear : ∀ o cause, o.ofSecret = true → ¬w.hinders ns o cause) :
    w.asks ns = [.secretOf ns, .configOf ns] := by
  obtain ⟨t, key, holds, decodes⟩ := exists_key legible clear
  simp only [asks, holds.keyOf_decodes decodes]

end

end World

namespace Session

open Credentials

/-- Why credentials of an allowed namespace cannot be resolved that are not held, where the answers to both requests
are legible.

Resolving them fails with the cause of the obstacle of the lowest rank that is in the way, and gives the credentials
that the answers spell if there is none. The configuration is not asked for where the secret is in the way. It is
found unreadable exactly if the secret is not in the way and its text is no JSON, or is neither null nor a list, or
is a list with a malformed entry anywhere, whatever the first entry is. -/
theorem resolve_classified (s : Session) {ns : String} (refresh : Bool) (permitted : ns ∈ s.cache.setup.allowed)
    (unknown : s.cache.known.get? ns = none)
    (secret : Credentials.Legible secretKey IsAscii (s.world.respond (.secretOf ns)))
    (config : Credentials.Legible configKey IsText (s.world.respond (.configOf ns))) :
    let r := s.resolve (.ofString ns) refresh
    let before := s.trace.filterMap Event.request?
    let after := r.2.trace.filterMap Event.request?
    (∀ e, r.1 = .error e ↔ ∃ o cause, First (s.world.hinders ns) o cause ∧ e = .ofCredential cause) ∧
    ((∃ c, r.1 = .ok c) ↔ ∀ o cause, ¬s.world.hinders ns o cause) ∧
    (∀ c, r.1 = .ok c → Grants (s.world.respond (.secretOf ns)) (s.world.respond (.configOf ns)) c) ∧
    (∀ o cause, o.ofSecret = true → s.world.hinders ns o cause → after = before ++ [.secretOf ns]) ∧
    ((∀ o cause, o.ofSecret = true → ¬s.world.hinders ns o cause) →
      after = before ++ [.secretOf ns, .configOf ns]) ∧
    ((∃ reason, r.1 = .error (.ofCredential (.configUnreadable ns configKey reason))) ↔
      (∀ o cause, o.ofSecret = true → ¬s.world.hinders ns o cause) ∧
        ∃ t, Holds configKey (s.world.respond (.configOf ns)) (.text t) ∧ Cluster.Unlistable t) := by
  intro r before after
  obtain ⟨learned, -, -, requests⟩ := s.learn_eq ns
  have afresh : r = s.learn ns := resolve_afresh permitted (.inr unknown)
  have result : r.1 = s.world.find ns := afresh ▸ learned
  have asked : after = before ++ s.world.asks ns := by simp only [after, afresh, requests, before]
  have spelled (clear : ∀ o cause, ¬s.world.hinders ns o cause) :
      ∃ c, Grants (s.world.respond (.secretOf ns)) (s.world.respond (.configOf ns)) c ∧ s.world.find ns = .ok c := by
    obtain ⟨c, grants⟩ := exists_grants secret config clear
    exact ⟨c, grants, World.find_of_grants grants⟩
  have ends := exists_first (s.world.hinders ns)
  rw [result, asked]
  refine ⟨fun e => ⟨fun failed => ?_, ?_⟩, ⟨?_, fun clear => ?_⟩, fun c found => ?_, fun o cause about h => ?_,
    fun clear => ?_, ⟨?_, ?_⟩⟩
  · rcases ends with ⟨o, cause, first⟩ | clear
    · exact ⟨o, cause, first, Except.error.inj (failed.symm.trans (World.find_of_first secret first))⟩
    · obtain ⟨c, -, found⟩ := spelled clear
      cases failed.symm.trans found
  · rintro ⟨o, cause, first, rfl⟩
    exact World.find_of_first secret first
  · rintro ⟨c, found⟩
    rcases ends with ⟨o, cause, first⟩ | clear
    · cases found.symm.trans (World.find_of_first secret first)
    · exact clear
  · obtain ⟨c, -, found⟩ := spelled clear
    exact ⟨c, found⟩
  · rcases ends with ⟨o, cause, first⟩ | clear
    · cases found.symm.trans (World.find_of_first secret first)
    · obtain ⟨c', grants, found'⟩ := spelled clear
      cases found.symm.trans found'
      exact grants
  · rw [World.asks_of_hinders secret h about]
  · rw [World.asks_of_clear secret clear]
  · rintro ⟨reason, failed⟩
    rcases ends with ⟨o, cause, first⟩ | clear
    · have same := failed.symm.trans (World.find_of_first secret first)
      obtain ⟨inWay, lowest⟩ := first
      cases inWay with
      | configUnreadable h faulty =>
        refine ⟨fun lower other about => lowest lower other ?_, _, h, (Cluster.unlistable_iff _).2 ⟨_, faulty⟩⟩
        exact (of_decide_eq_true about).trans (by decide)
      | _ => cases same
    · obtain ⟨c, -, found⟩ := spelled clear
      cases failed.symm.trans found
  · rintro ⟨clear, t, holds, unlistable⟩
    obtain ⟨u, key, hs, decodes⟩ := exists_key secret clear
    obtain ⟨fault, faulty⟩ := (Cluster.unlistable_iff t).1 unlistable
    exact ⟨fault.message, by simp only [World.find, hs.keyOf_decodes decodes, holds.monitorOf_faulty faulty]⟩

/-- A configuration whose first entry has no monitors and whose second is a number. -/
def mistyped : Session :=
  Sample.run "a2V5" true [] [.setObject (.configOf "ns1") (.body (Utf8.encodeString
    ("\x7b\"data\": \x7b\"csi-cluster-config-json\": " ++ "\"[\x7b\\\"monitors\\\": []\x7d, 5]\"\x7d\x7d")))]

/-- Whether an operation failed because the configuration of that namespace is unreadable. -/
def isUnreadable {α : Type} : Except Failure α → Bool
  | .error (.cache (.credential (.configUnreadable ns key _))) => ns == "ns1" && key == configKey
  | _ => false

lemma eq_of_isUnreadable {α : Type} {result : Except Failure α} (h : isUnreadable result = true) :
    ∃ reason, result = .error (.ofCredential (.configUnreadable "ns1" configKey reason)) := by
  unfold isUnreadable at h
  split at h
  · simp only [Bool.and_eq_true, beq_iff_eq] at h
    obtain ⟨rfl, rfl⟩ := h
    exact ⟨_, rfl⟩
  · cases h

theorem mistyped_classified :
    let r := mistyped.resolve (.ofString "ns1") false
    (∃ reason, r.1 = .error (.ofCredential (.configUnreadable "ns1" configKey reason))) ∧
      (∃ o cause, First (mistyped.world.hinders "ns1") o cause ∧ r.1 = .error (.ofCredential cause)) ∧
      (∃ t, Holds configKey (mistyped.world.respond (.configOf "ns1")) (.text t) ∧ Cluster.Unlistable t) ∧
      r.2.trace.filterMap Event.request? = [.secretOf "ns1", .configOf "ns1"] := by
  obtain ⟨key, monitor, result, permitted, unknown, asked⟩ :
      (keyOf "ns1" (mistyped.world.respond (.secretOf "ns1"))).toOption = some "key" ∧
      isUnreadable (monitorOf "ns1" (mistyped.world.respond (.configOf "ns1"))) = true ∧
      isUnreadable (mistyped.resolve (.ofString "ns1") false).1 = true ∧
      "ns1" ∈ mistyped.cache.setup.allowed ∧ mistyped.cache.known.get? "ns1" = none ∧
      mistyped.trace.filterMap Event.request? = [] := by
    decide +kernel
  obtain ⟨_, monitor⟩ := eq_of_isUnreadable monitor
  obtain ⟨reason, failed⟩ := eq_of_isUnreadable result
  obtain ⟨failures, -, -, -, both, unreadable⟩ := resolve_classified mistyped false permitted unknown
    ((foreseen_keyOf_iff "ns1" _).1 (Sample.eq_ok_of_toOption key ▸ foreseen_ok _))
    ((foreseen_monitorOf_iff "ns1" _).1 (monitor ▸ foreseen_cache _))
  obtain ⟨o, cause, first, same⟩ := (failures _).1 failed
  obtain ⟨clear, text⟩ := unreadable.1 ⟨reason, failed⟩
  have requests := both clear
  rw [asked, List.nil_append] at requests
  exact ⟨⟨reason, failed⟩, ⟨o, cause, first, failed.trans (congrArg _ same)⟩, text, requests⟩

end Session
end ReplicaWatch
