import Mathlib
import ReplicaWatch.Proofs.LockDiscipline
import ReplicaWatch.Proofs.Refinement
import ReplicaWatch.Proofs.SteadySweep

/-! Descriptions that are of no pool. Main statement: whatever value is given for a pool, it is read or declined as
one of the wrong type, and an event about it ends well or is to come again, with two exceptions: where the
specification of a pool, or what it says of mirroring, is set and no object, and where the command for its status
cannot be called, another failure gets through. -/
namespace ReplicaWatch

namespace BlockPool

/-- A value that is set, but has no members since it is no object. -/
def Memberless (v : Json) : Prop := v.isSet = true ∧ ∀ members, v ≠ .object members

/-- A field of the metadata of a value, null if there is none. -/
def metadataOf (v : Json) (field : String) : Json := memberOrNull (memberOrNull v "metadata") field

/-- The description of a pool in which only the specification, or what it says of mirroring, is not as it is to be. -/
structure Misshapen (v : Json) : Prop where
  kind : isPoolKind (memberOrNull v "kind") = true
  uid : (metadataOf v "uid").isSet = true
  name : (metadataOf v "name").isSet = true
  ns : (metadataOf v "namespace").isSet = true
  shape : Memberless (memberOrNull v "spec") ∨ Memberless (memberOrNull (memberOrNull v "spec") "mirroring")

/-- What reading a pool or its identity may come to: what was wanted, or that the value is of the wrong type. -/
inductive Typed {α : Type} (v : Json) : Except Failure α → Prop
  | read (a : α) : Typed v (.ok a)
  | mismatch (reason : String) : Typed v (.error (.cache (.typeMismatch v.kind reason)))

variable {v : Json}

lemma memberIfSet_of_memberless (h : Memberless v) (name : String) : memberIfSet v name = .error .noMembers := by
  obtain ⟨set, other⟩ := h
  cases v with
  | object members => exact absurd rfl (other members)
  | _ => simp [memberIfSet, set]

lemma memberIfSet_of_not_memberless (h : ¬Memberless v) (name : String) :
    memberIfSet v name = .ok (memberOrNull v name) := by
  cases set : v.isSet with
  | false =>
    have none : v.member? name = none := by
      cases v with
      | object members =>
        obtain rfl : members = [] := by simpa [Json.isSet] using set
        rfl
      | _ => rfl
    simp [memberIfSet, memberOrNull, set, none]
  | true =>
    cases v with
    | object members => simp [memberIfSet, set]
    | _ => exact absurd ⟨set, by simp⟩ h

/-- Asking for mirroring fails where the specification, or what it says of mirroring, is set and no object. -/
lemma wantsMirroring_cases (v : Json) :
    (Memberless (memberOrNull v "spec") ∨ Memberless (memberOrNull (memberOrNull v "spec") "mirroring")) ∧
        wantsMirroring v = .error .noMembers ∨
      ¬(Memberless (memberOrNull v "spec") ∨ Memberless (memberOrNull (memberOrNull v "spec") "mirroring")) ∧
        ∃ mirrored, wantsMirroring v = .ok mirrored := by
  by_cases spec : Memberless (memberOrNull v "spec")
  · exact .inl ⟨.inl spec, by simp [wantsMirroring, memberIfSet_of_memberless spec, bind, Except.bind]⟩
  by_cases mirroring : Memberless (memberOrNull (memberOrNull v "spec") "mirroring")
  · refine .inl ⟨.inr mirroring, ?_⟩
    simp [wantsMirroring, memberIfSet_of_not_memberless spec, memberIfSet_of_memberless mirroring, bind, Except.bind]
  · refine .inr ⟨not_or.mpr ⟨spec, mirroring⟩, ?_⟩
    simp [wantsMirroring, memberIfSet_of_not_memberless spec, memberIfSet_of_not_memberless mirroring, bind,
      Except.bind, pure, Except.pure]

lemma typed_uidOf (v : Json) : Typed v (uidOf v) := by
  unfold uidOf
  split
  · split
    · split
      · exact .read _
      · exact .mismatch _
    · exact .mismatch _
  · exact .mismatch _

/-- There is an identity exactly if one is set among the metadata. -/
lemma uidOf_ok_iff (v : Json) :
    (∃ uid, uidOf v = .ok uid) ↔ (metadataOf v "uid").isSet = true := by
  cases v with
  | object members =>
    simp only [uidOf, metadataOf, memberOrNull]
    cases (Json.object members).member? "metadata" with
    | none => simp [Json.member?, Json.isSet, mismatch]
    | some metadata =>
      simp only [Option.bind_some, Option.getD_some]
      cases metadata.member? "uid" with
      | none => simp [Json.isSet, mismatch]
      | some uid => cases set : uid.isSet <;> simp [set, mismatch]
  | _ => simp [uidOf, metadataOf, memberOrNull, Json.member?, Json.isSet, mismatch]

/-- A value is read as a pool or is of the wrong type, unless it is a pool out of shape. -/
lemma ofJson_cases (v : Json) : ¬Misshapen v ∧ Typed v (ofJson v) ∨ Misshapen v ∧ ofJson v = .error .noMembers := by
  cases v with
  | object members =>
    simp only [ofJson]
    generalize Json.object members = v
    by_cases kind : isPoolKind (memberOrNull v "kind") = true
    case neg =>
      rw [if_neg kind]
      exact .inl ⟨fun h => kind h.kind, .mismatch _⟩
    rw [if_pos kind]
    cases identity : uidOf v with
    | error e =>
      have typed := typed_uidOf v
      rw [identity] at typed
      cases typed with
      | mismatch reason =>
        refine .inl ⟨fun h => ?_, .mismatch reason⟩
        obtain ⟨uid, there⟩ := (uidOf_ok_iff v).2 h.uid
        cases there.symm.trans identity
    | ok uid =>
      have uidSet := (uidOf_ok_iff v).1 ⟨uid, identity⟩
      simp only [bind, Except.bind]
      split
      · next unnamed =>
        refine .inl ⟨fun h => ?_, .mismatch _⟩
        have name := h.name
        have ns := h.ns
        simp only [metadataOf] at name ns
        simp [name, ns] at unnamed
      · next named =>
        simp only [Bool.or_eq_true, Bool.not_eq_true', not_or, Bool.not_eq_false] at named
        obtain ⟨shape, asked⟩ | ⟨shape, mirrored, asked⟩ := wantsMirroring_cases v
        · rw [asked]
          exact .inr ⟨⟨kind, uidSet, named.1, named.2, shape⟩, rfl⟩
        · rw [asked]
          exact .inl ⟨fun h => shape h.shape, .read _⟩
  | _ => exact .inl ⟨fun h => Bool.false_ne_true h.kind, .mismatch _⟩

/-- A pool that was read has the name and the namespace that its metadata give. -/
lemma names_of_ofJson {pool : BlockPool} (h : ofJson v = .ok pool) :
    pool.name = metadataOf v "name" ∧ pool.ns = metadataOf v "namespace" ∧
      pool.name.isSet = true ∧ pool.ns.isSet = true := by
  cases v with
  | object members =>
    simp only [ofJson, bind, Except.bind] at h
    split at h
    · split at h
      · cases h
      · split at h
        · cases h
        · next named =>
          split at h
          · cases h
          · cases h
            simpa [metadataOf] using named
    · cases h
  | _ => cases h

end BlockPool

/-- A cluster whose secrets and configurations can all be read. -/
def World.Legible (w : World) : Prop := ∀ ns,
  Credentials.Legible Credentials.secretKey Credentials.IsAscii (w.respond (.secretOf ns)) ∧
    Credentials.Legible Credentials.configKey Credentials.IsText (w.respond (.configOf ns))

namespace Session

open BlockPool

/-- A name that is a text, or not given at all. -/
def TextOrNull (v : Json) : Prop := v = .null ∨ ∃ t, v = .string t

/-- What following an event may come to: it is done, or is to come again since the cache failed. -/
inductive Followed : Except Failure Unit → Prop
  | done : Followed (.ok ())
  | again (cause : CacheFailure) : Followed (.error (.retry cause.message (some cause) 30))

variable {s : Session} {m : Meanwhile} {obj : Json}

/-- Adding the pool that an object describes comes to a command that cannot be called. -/
def AddUncallable (s : Session) (obj : Json) (fault : CallFault) : Prop :=
  ∃ pool, ofJson obj = .ok pool ∧ pool.mirrored = true ∧ s.Uncallable pool.name pool.ns fault

/-- Where the cluster can be read, fetching the status of a pool that is named by texts fails only as foreseen,
unless its command cannot be called. -/
lemma fetchRecord_legible_cases (legible : s.world.Legible) (m : Meanwhile) (pool ns : Text) :
    (∀ fault, ¬s.Uncallable (.string pool) (.string ns) fault) ∧
        Foreseen (s.fetchRecord m (.string pool) (.string ns)).1 ∨
      ∃ fault, s.Uncallable (.string pool) (.string ns) fault ∧
        (s.fetchRecord m (.string pool) (.string ns)).1 = .error (.call fault) := by
  by_cases callable : ∀ fault, ¬s.Uncallable (.string pool) (.string ns) fault
  · have looked (n : String) : s.Legible n := fun _ _ => ⟨(legible n).1, fun _ _ => (legible n).2⟩
    exact .inl ⟨callable, (foreseen_fetchRecord_iff s m pool ns).2 ⟨fun n _ => looked n, callable⟩⟩
  · obtain ⟨fault, uncallable⟩ := not_forall_not.1 callable
    exact .inr ⟨fault, uncallable, uncallable.fetchRecord m⟩

lemma not_null_of_isSet {v : Json} (set : v.isSet = true) (h : TextOrNull v) : ∃ t, v = .string t := by
  obtain rfl | there := h
  · cases set
  · exact there

/-- Where the cluster can be read, adding what is named by texts fails only as foreseen, unless it is a pool out of
shape or its command cannot be called. -/
lemma add_unread_cases (legible : s.world.Legible) (m : Meanwhile) (name : TextOrNull (metadataOf obj "name"))
    (ns : TextOrNull (metadataOf obj "namespace")) :
    ¬Misshapen obj ∧ (∀ fault, ¬s.AddUncallable obj fault) ∧ Foreseen (s.add m obj).1 ∨
      Misshapen obj ∧ s.add m obj = (.error .noMembers, s) ∨
      ∃ fault, s.AddUncallable obj fault ∧ (s.add m obj).1 = .error (.call fault) := by
  obtain ⟨sound, typed⟩ | ⟨misshapen, failed⟩ := ofJson_cases obj
  case inr => exact .inr (.inl ⟨misshapen, by simp only [add, failed]⟩)
  cases described : ofJson obj with
  | error e =>
    rw [described] at typed
    refine .inl ⟨sound, ?_, ?_⟩
    · rintro fault ⟨pool, read, -⟩
      cases described.symm.trans read
    · simp only [add, described]
      cases typed with
      | mismatch reason => exact foreseen_cache _
  | ok pool =>
    cases mirrored : pool.mirrored with
    | false =>
      refine .inl ⟨sound, ?_, ?_⟩
      · rintro fault ⟨pool', read, mirrored', -⟩
        cases described.symm.trans read
        cases mirrored.symm.trans mirrored'
      · simp only [add, described, mirrored]
        exact foreseen_ok _
    | true =>
      obtain ⟨hname, hns, nameSet, nsSet⟩ := names_of_ofJson described
      obtain ⟨t, ht⟩ := not_null_of_isSet nameSet (hname ▸ name)
      obtain ⟨u, hu⟩ := not_null_of_isSet nsSet (hns ▸ ns)
      have cases := fetchRecord_legible_cases legible m t u
      rw [← ht, ← hu] at cases
      have added : (s.add m obj).1 = (s.fetchRecord m pool.name pool.ns).1.map fun _ => () := by
        simp only [add, described, mirrored, if_true]
        rcases s.fetchRecord m pool.name pool.ns with ⟨_ | _, _⟩ <;> rfl
      rw [added]
      obtain ⟨callable, foreseen⟩ | ⟨fault, uncallable, failed⟩ := cases
      · refine .inl ⟨sound, ?_, (foreseen_map_iff _).2 foreseen⟩
        rintro fault ⟨pool', read, -, uncallable⟩
        cases described.symm.trans read
        exact callable fault uncallable
      · exact .inr (.inr ⟨fault, ⟨pool, described, mirrored, uncallable⟩, by rw [failed]; rfl⟩)

lemma foreseen_delete (s : Session) (obj : Json) : Foreseen (s.delete obj).1 := by
  have typed := typed_uidOf obj
  simp only [delete]
  generalize uidOf obj = identity at typed
  cases typed with
  | read uid => exact foreseen_ok _
  | mismatch reason => exact foreseen_cache _

lemma followed_of_foreseen {r : Except Failure Unit × Session} (h : Foreseen r.1) (ns name : String) :
    Followed (answerEvent ns name r).1 := by
  obtain ⟨result, t⟩ := r
  cases result with
  | ok done => exact .done
  | error e =>
    obtain ⟨cause, rfl⟩ := h e rfl
    exact .again cause

/-- Following an event ends well or has it come again, unless it tells of a pool that is not gone and is out of
shape or has a command that cannot be called. -/
lemma handle_cases (legible : s.world.Legible) (m : Meanwhile) {members : List (Text × Json)} {type : Json}
    (typed : (Json.object members).member? "type" = some type) (named : TextOrNull (metadataOf obj "name"))
    (placed : TextOrNull (metadataOf obj "namespace")) (ns name : String) :
    ¬(isDeletion type = false ∧ Misshapen obj) ∧ (∀ fault, ¬(isDeletion type = false ∧ s.AddUncallable obj fault)) ∧
        Followed (s.handle m (.object members) obj ns name).1 ∨
      (isDeletion type = false ∧ Misshapen obj) ∧ (s.handle m (.object members) obj ns name).1 = .error .noMembers ∨
      ∃ fault, (isDeletion type = false ∧ s.AddUncallable obj fault) ∧
        (s.handle m (.object members) obj ns name).1 = .error (.call fault) := by
  simp only [handle, typed]
  cases gone : isDeletion type with
  | true =>
    simp only [if_true]
    exact .inl ⟨by simp, by simp, followed_of_foreseen (s.foreseen_delete obj) ns name⟩
  | false =>
    simp only [Bool.false_eq_true, if_false, true_and]
    obtain ⟨sound, callable, foreseen⟩ | ⟨misshapen, failed⟩ | ⟨fault, uncallable, failed⟩ :=
      add_unread_cases legible m named placed
    · exact .inl ⟨sound, callable, followed_of_foreseen foreseen ns name⟩
    · rw [failed]
      exact .inr (.inl ⟨misshapen, rfl⟩)
    · refine .inr (.inr ⟨fault, uncallable, ?_⟩)
      generalize s.add m obj = r at failed
      obtain ⟨result, t⟩ := r
      cases failed
      rfl

end Session

namespace Operator

/-- The lock of a cache is free once an order has been obeyed. -/
def Free (o : Operator) : Prop := ∀ cache, o.cache = some cache → cache.locked = false

lemma Free.obey {o : Operator} (h : o.Free) (order : Order) : (o.obey order).2.Free := by
  intro cache there
  cases order with
  | start present =>
    rw [obey_start_snd] at there
    split at there
    · obtain ⟨_, -, -, kept | new⟩ := o.start_cases
      · exact h cache (kept ▸ there)
      · cases new.symm.trans there
        rfl
    · exact h cache there
  | stop =>
    obtain ⟨_, -, -, kept⟩ := o.stop_cases
    exact h cache (kept ▸ there)
  | take step =>
    cases held : o.cache with
    | none =>
      obtain ⟨-, -, none⟩ := step_of_none held step
      cases none.symm.trans there
    | some before =>
      simp only [Operator.obey, step_of_cache held, withSession] at there
      cases there
      exact Session.attempt_free (Session.orderly_nested _) (h before held) step

lemma Free.obeyAll {o : Operator} (h : o.Free) (orders : List Order) : (o.obeyAll orders).2.Free := by
  induction orders generalizing o with
  | nil => exact h
  | cons order rest ih => exact ih (h.obey order)

/-- What an operator that has a cache may reply to an event: it is done, or is to come again since the cache failed.
-/
inductive Served : Reply → Prop
  | done : Served (.answer .done)
  | again (cause : CacheFailure) : Served (.failure (.retry cause.message (some cause) 30))

open BlockPool Session in
/-- An operator serves an event as its session follows it. -/
lemma event_cases {o : Operator} (free : o.Free) (legible : o.world.Legible) {members : List (Text × Json)}
    {type obj : Json} (typed : (Json.object members).member? "type" = some type)
    (named : TextOrNull (metadataOf obj "name")) (placed : TextOrNull (metadataOf obj "namespace")) (ns name : String)
    {cache : Cache} (there : o.cache = some cache) :
    ¬(isDeletion type = false ∧ Misshapen obj) ∧
        (∀ fault, ¬(isDeletion type = false ∧ (o.session cache).AddUncallable obj fault)) ∧
        Served (o.step (.event (.object members) obj ns name)).1 ∨
      (isDeletion type = false ∧ Misshapen obj) ∧
        (o.step (.event (.object members) obj ns name)).1 = .failure .noMembers ∨
      ∃ fault, (isDeletion type = false ∧ (o.session cache).AddUncallable obj fault) ∧
        (o.step (.event (.object members) obj ns name)).1 = .failure (.call fault) := by
  rw [step_of_cache there, Session.step, attempt_of_free (free cache there), perform]
  have cases := handle_cases (s := o.session cache) legible
    (nested ((o.session cache).world.size + (Step.event (.object members) obj ns name).size + 1))
      typed named placed ns name
  generalize (o.session cache).handle _ (.object members) obj ns name = r at cases
  obtain ⟨result, t⟩ := r
  obtain ⟨sound, callable, followed⟩ | ⟨misshapen, failed⟩ | ⟨fault, uncallable, failed⟩ := cases
  · refine .inl ⟨sound, callable, ?_⟩
    cases followed with
    | done => exact .done
    | again cause => exact .again cause
  · cases failed
    exact .inr (.inl ⟨misshapen, rfl⟩)
  · cases failed
    exact .inr (.inr ⟨fault, uncallable, rfl⟩)

end Operator

open BlockPool Session in
/-- Any value is read as a pool or is of the wrong type, unless it is a pool out of shape, and the identity of any
value is read or missing. Where the answers of the cluster can be read, following an event that has a type, about a
value whose name and namespace are texts or not given, ends well or has the event come again, unless the event tells
of a pool that is not gone and is out of shape or has a command that cannot be called: then the failure to read it,
or to call that, gets through. So it is wherever the event is followed, while others take steps or not, and for an
operator after any orders; before there is a cache, every event is to come again. -/
theorem malformed_pools_declined (v : Json) :
    (¬Misshapen v ∧ Typed v (BlockPool.ofJson v) ∨ Misshapen v ∧ BlockPool.ofJson v = .error .noMembers) ∧
    Typed v (BlockPool.uidOf v) ∧
    ∀ (members : List (Text × Json)) (type : Json) (ns name : String),
      (Json.object members).member? "type" = some type → TextOrNull (metadataOf v "name") →
      TextOrNull (metadataOf v "namespace") →
      let unread := isDeletion type = false ∧ Misshapen v
      let uncallable := fun (s : Session) fault => isDeletion type = false ∧ s.AddUncallable v fault
      (∀ (s : Session) (m : Meanwhile), s.world.Legible →
        let result := (s.handle m (.object members) v ns name).1
        ¬unread ∧ (∀ fault, ¬uncallable s fault) ∧ Followed result ∨
          unread ∧ result = .error .noMembers ∨ ∃ fault, uncallable s fault ∧ result = .error (.call fault)) ∧
      ∀ (settings : Settings) (logging : Bool) (world : World) (tree : Files.Tree) (orders : List Operator.Order),
        let o := ((Operator.new settings logging world tree).obeyAll orders).2
        let reply := (o.step (.event (.object members) v ns name)).1
        o.world.Legible →
          (o.cache = none → reply = .failure (.retry "Mirror cache is not started" none 10)) ∧
          ∀ cache, o.cache = some cache →
            let s := o.session cache
            ¬unread ∧ (∀ fault, ¬uncallable s fault) ∧ Operator.Served reply ∨
              unread ∧ reply = .failure .noMembers ∨
              ∃ fault, uncallable s fault ∧ reply = .failure (.call fault) := by
  refine ⟨ofJson_cases v, typed_uidOf v, fun members type ns name typed named placed => ⟨?_, ?_⟩⟩
  · intro s m legible
    exact handle_cases legible m typed named placed ns name
  · intro settings logging world tree orders o reply legible
    have new : (Operator.new settings logging world tree).Free := nofun
    refine ⟨fun none => ?_, fun cache there => ?_⟩
    · simp only [reply, Operator.step, none]
    · exact Operator.event_cases (new.obeyAll orders) legible typed named placed ns name there

namespace Sample

lemma world_legible (outcomes : List Outcome) : (world "a2V5" outcomes).Legible := by
  intro ns
  by_cases there : ns = "ns1"
  · subst there
    have key : (Credentials.keyOf "ns1" (secret "a2V5")).toOption = some "key" := by decide +kernel
    have monitor : (Credentials.monitorOf "ns1" configuration).toOption = some "10.0.0.1" := by decide +kernel
    exact ⟨(Credentials.foreseen_keyOf_iff "ns1" _).1 (eq_ok_of_toOption key ▸ foreseen_ok _),
      (Credentials.foreseen_monitorOf_iff "ns1" _).1 (eq_ok_of_toOption monitor ▸ foreseen_ok _)⟩
  · have unknown (kind : ObjectKind) (name : String) :
        (world "a2V5" outcomes).respond ⟨kind, ns, name⟩ = .notFound := by
      have other (kind' : ObjectKind) (name' : String) : (⟨kind, ns, name⟩ : ObjectName) ≠ ⟨kind', "ns1", name'⟩ :=
        fun h => there (congrArg ObjectName.ns h)
      change ((World.empty.setObject _ _).setObject _ _).respond _ = _
      rw [World.respond_setObject, if_neg (other _ _), World.respond_setObject, if_neg (other _ _)]
      rfl
    rw [ObjectName.secretOf, ObjectName.configOf, unknown, unknown]
    exact ⟨trivial, trivial⟩

/-- The description of a pool with a given specification. -/
def specified (spec : Json) : Json :=
  .object [member "kind" (.ofString "CephBlockPool"),
    member "metadata" (.object [member "uid" (.ofString "u1"), member "name" (.ofString "pool1"),
      member "namespace" (.ofString "ns1")]),
    member "spec" spec]

lemma misshapen_specified {spec : Json}
    (shape : BlockPool.Memberless spec ∨ BlockPool.Memberless (BlockPool.memberOrNull spec "mirroring")) :
    BlockPool.Misshapen (specified spec) where
  kind := rfl
  uid := rfl
  name := rfl
  ns := rfl
  shape := shape

/-- An event that tells of such a pool, seen when the pools were listed. -/
def listed (spec : Json) : Step := .event (.object [member "type" .null]) (specified spec) "ns1" "pool1"

/-- An operator in the small cluster that has started. -/
def watching : Operator := ((Operator.new settings true (world "a2V5" []) .empty).obeyAll [.start fun _ => true]).2

lemma watching_started : watching.world = world "a2V5" [] ∧ watching.cache ≠ none := by
  simp only [watching, Operator.obeyAll, Operator.obey, Operator.connectAndStart_eq, Operator.start, Cache.build,
    Operator.new, settings, ensure_root]
  exact ⟨rfl, Option.some_ne_none _⟩

lemma listed_escapes {spec : Json}
    (shape : BlockPool.Memberless spec ∨ BlockPool.Memberless (BlockPool.memberOrNull spec "mirroring")) :
    (watching.step (listed spec)).1 = .failure .noMembers := by
  obtain ⟨world, cache⟩ := watching_started
  have new : (Operator.new settings true (Sample.world "a2V5" []) .empty).Free := nofun
  have free : watching.Free := new.obeyAll [.start fun _ => true]
  have typed : (Json.object [member "type" .null]).member? "type" = some .null := rfl
  have named : Session.TextOrNull (BlockPool.metadataOf (specified spec) "name") := .inr ⟨_, rfl⟩
  have placed : Session.TextOrNull (BlockPool.metadataOf (specified spec) "namespace") := .inr ⟨_, rfl⟩
  obtain ⟨cache, there⟩ := Option.ne_none_iff_exists'.mp cache
  obtain ⟨sound, -⟩ | ⟨-, escaped⟩ | ⟨_, ⟨-, pool, read, -⟩, -⟩ :=
    Operator.event_cases free (world ▸ world_legible []) typed named placed "ns1" "pool1" there
  · exact absurd ⟨rfl, misshapen_specified shape⟩ sound
  · exact escaped
  · obtain ⟨sound, -⟩ | ⟨-, unread⟩ := BlockPool.ofJson_cases (specified spec)
    · exact absurd (misshapen_specified shape) sound
    · cases unread.symm.trans read

end Sample

theorem listed_pool_declined :
    Sample.watching.world.Legible ∧
      (Sample.watching.step (Sample.listed (.object [Sample.member "mirroring" (.int 5)]))).1 =
        .failure .noMembers := by
  have misshapen : BlockPool.Misshapen (Sample.specified (.object [Sample.member "mirroring" (.int 5)])) :=
    Sample.misshapen_specified (.inr ⟨rfl, nofun⟩)
  obtain ⟨read, -, follow⟩ :=
    malformed_pools_declined (Sample.specified (.object [Sample.member "mirroring" (.int 5)]))
  obtain ⟨-, served⟩ := follow [Sample.member "type" .null] .null "ns1" "pool1" rfl (.inr ⟨_, rfl⟩) (.inr ⟨_, rfl⟩)
  obtain ⟨world, cache⟩ := Sample.watching_started
  obtain ⟨cache, there⟩ := Option.ne_none_iff_exists'.mp cache
  have legible : Sample.watching.world.Legible := world ▸ Sample.world_legible []
  obtain ⟨sound, -⟩ | ⟨-, failed⟩ | ⟨_, ⟨-, pool, described, -⟩, -⟩ := (served _ _ _ _ _ legible).2 cache there
  · exact absurd ⟨rfl, misshapen⟩ sound
  · exact ⟨legible, failed⟩
  · obtain ⟨sound, -⟩ | ⟨-, unread⟩ := read
    · exact absurd misshapen sound
    · cases unread.symm.trans described

/-- Here the whole specification is a number. -/
theorem numeric_specification_escapes :
    let v := Sample.specified (.int 5)
    BlockPool.ofJson v = .error .noMembers ∧ ¬BlockPool.Typed v (BlockPool.ofJson v) ∧
      (Sample.watching.step (Sample.listed (.int 5))).1 = .failure .noMembers ∧
      ¬Operator.Served (Sample.watching.step (Sample.listed (.int 5))).1 := by
  have shape : BlockPool.Memberless (.int 5) := ⟨rfl, nofun⟩
  have unread : BlockPool.ofJson (Sample.specified (.int 5)) = .error .noMembers := by
    obtain ⟨sound, -⟩ | ⟨-, unread⟩ := BlockPool.ofJson_cases (Sample.specified (.int 5))
    · exact absurd (Sample.misshapen_specified (.inl shape)) sound
    · exact unread
  have escaped := Sample.listed_escapes (.inl shape)
  refine ⟨unread, ?_, escaped, ?_⟩
  · rw [unread]
    nofun
  · rw [escaped]
    nofun

end ReplicaWatch
