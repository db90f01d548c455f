import Mathlib
import ReplicaWatch.Proofs.Prospects
import ReplicaWatch.Proofs.Refinement

/-! Additions and deletions of different pools in any order. They share the credentials that are held, and nothing
else. Where no command leaves time for others, a step comes to the same whichever of the other steps come before it.
Main statement: in every order each step has the same reply, and in the end the same is stored and the same
credentials are held. -/
namespace ReplicaWatch

/-- Ledgers that have the same at every key have the same entries. -/
lemma Ledger.perm_of_get? {κ α : Type} [DecidableEq κ] {m n : Ledger κ α} (h : ∀ k, m.get? k = n.get? k) :
    m.entries.Perm n.entries := by
  refine (List.perm_ext_iff_of_nodup (List.Nodup.of_map _ m.nodup) (List.Nodup.of_map _ n.nodup)).2 fun e => ?_
  obtain ⟨k, v⟩ := e
  rw [← get?_eq_some_iff, h k, get?_eq_some_iff]

namespace Step

/-- The object that a step adds, adds again or deletes. -/
def object? : Step → Option Json
  | add obj => some obj
  | update obj => some obj
  | delete obj => some obj
  | _ => none

/-- The identity of the pool that a step is about. -/
def uid? (step : Step) : Option String := step.object?.bind fun obj => (BlockPool.uidOf obj).toOption

/-- A step adds a pool of a name. -/
def Names (step : Step) (name : String) : Prop :=
  ∃ obj, (step = .add obj ∨ step = .update obj) ∧ BlockPool.Named obj name

/-- Two steps are about different pools: these have different identities and different names. -/
structure Apart (a b : Step) : Prop where
  uids : ∀ uid, a.uid? = some uid → b.uid? ≠ some uid
  names : ∀ name, a.Names name → ¬b.Names name

lemma Apart.symm {a b : Step} (h : a.Apart b) : b.Apart a :=
  ⟨fun uid hb ha => h.uids uid ha hb, fun name hb ha => h.names name ha hb⟩

/-- A step about an object adds it, or deletes it. -/
lemma object?_cases {step : Step} (one : step.object?.isSome = true) :
    (∃ obj, step = .add obj ∨ step = .update obj) ∨ ∃ obj, step = .delete obj := by
  cases step with
  | add obj => exact .inl ⟨obj, .inl rfl⟩
  | update obj => exact .inl ⟨obj, .inr rfl⟩
  | delete obj => exact .inr ⟨obj, rfl⟩
  | _ => cases one

lemma uid?_of_adds {step : Step} {obj : Json} (adds : step = .add obj ∨ step = .update obj) :
    step.uid? = (BlockPool.uidOf obj).toOption := by
  rcases adds with rfl | rfl <;> rfl

end Step

lemma BlockPool.uidOf_eq {obj : Json} {pool : BlockPool} (h : ofJson obj = .ok pool) : uidOf obj = .ok pool.uid := by
  unfold ofJson at h
  split at h
  · simp only [bind, Except.bind] at h
    split at h
    · split at h
      · cases h
      · next uid found =>
        rw [found]
        split at h
        · cases h
        · split at h
          · cases h
          · cases h
            rfl
    · cases h
  · cases h

lemma Reply.ofResult_fst {α : Type} (f : α → Answer) (r : Except Failure α × Session) :
    (ofResult f r).1 =
      match r.1 with
      | .ok a => answer (f a)
      | .error e => failure e := by
  obtain ⟨result, s⟩ := r
  cases result <;> rfl

namespace Session

/-- The namespace whose credentials a step uses, if it is not blocked. -/
def sought? (s : Session) (step : Step) : Option String :=
  if s.cache.locked then none
  else
    match step with
    | .add obj => s.cache.setup.sought? obj
    | .update obj => s.cache.setup.sought? obj
    | _ => none

section
variable {pools : String → Prop} {s t : Session} {step : Step}

lemma step_of_locked (held : s.cache.locked = true) (one : step.object?.isSome = true) :
    s.step step = (.blocked, s) := by
  rw [Session.step, attempt_of_locked held]
  cases step with
  | add obj => rfl
  | update obj => rfl
  | delete obj => rfl
  | _ => cases one

lemma step_adds (free : s.cache.locked = false) {obj : Json} (adds : step = .add obj ∨ step = .update obj) :
    ∃ m, Orderly m ∧ s.step step = Reply.ofResult (fun _ => .done) (s.add m obj) :=
  ⟨_, orderly_nested _, by rw [Session.step, attempt_of_free free, perform_add _ _ adds]⟩

lemma step_deletes (free : s.cache.locked = false) (obj : Json) :
    s.step (.delete obj) = Reply.ofResult (fun _ => .done) (s.delete obj) := by
  rw [Session.step, attempt_of_free free]
  rfl

lemma sought?_of_adds (free : s.cache.locked = false) {obj : Json} (adds : step = .add obj ∨ step = .update obj) :
    s.sought? step = s.cache.setup.sought? obj := by
  rcases adds with rfl | rfl <;> simp [sought?, free]

/-- What an addition is going to store is about the pool that the object describes. -/
lemma uidOf_of_verdict {obj : Json} {uid : String} {content : String × String × Status.Pool}
    (h : s.verdict obj = .ok (some (uid, content))) : BlockPool.uidOf obj = .ok uid := by
  unfold verdict at h
  cases described : BlockPool.ofJson obj with
  | error e =>
    rw [described] at h
    cases h
  | ok pool =>
    simp only [described, bind, Except.bind] at h
    split at h
    · split at h
      · cases h
      · cases h
        exact BlockPool.uidOf_eq described
    · cases h

lemma stored_removed (s : Session) (uid : String) : (s.change (.removed uid)).stored = s.stored.erase uid :=
  Ledger.map_erase _ _ _

/-- A step about a pool comes to the same where the same is to be expected for the pool. -/
lemma step_congr (one : step.object?.isSome = true) (h : Matches pools s t) (own : ∀ p, step.Names p → pools p)
    (still : s.world.Undisturbed) (still' : t.world.Undisturbed) :
    (s.step step).1 = (t.step step).1 ∧
      ∀ uid, s.stored.get? uid = t.stored.get? uid →
        (s.step step).2.stored.get? uid = (t.step step).2.stored.get? uid := by
  cases held : s.cache.locked with
  | true =>
    rw [step_of_locked held one, step_of_locked (h.locked ▸ held) one]
    exact ⟨rfl, fun _ same => same⟩
  | false =>
    have held' : t.cache.locked = false := h.locked ▸ held
    rcases Step.object?_cases one with ⟨obj, adds⟩ | ⟨obj, rfl⟩
    · obtain ⟨m, hm, hs⟩ := step_adds held adds
      obtain ⟨m', hm', ht⟩ := step_adds held' adds
      obtain ⟨reply, stored, -⟩ := add_undisturbed hm still obj
      obtain ⟨reply', stored', -⟩ := add_undisturbed hm' still' obj
      have verdict := h.verdict_eq obj fun p named => own p ⟨obj, adds, named⟩
      rw [hs, ht, Reply.ofResult_snd, Reply.ofResult_snd, Reply.ofResult_fst, Reply.ofResult_fst, reply,
        reply', stored, stored', verdict]
      refine ⟨rfl, fun uid same => ?_⟩
      split
      · rw [Ledger.get?_insert, Ledger.get?_insert, same]
      · exact same
    · rw [step_deletes held, step_deletes held']
      unfold delete
      cases BlockPool.uidOf obj with
      | error e => exact ⟨rfl, fun _ same => same⟩
      | ok removed =>
        refine ⟨rfl, fun uid same => ?_⟩
        simp only [stored_removed, Reply.ofResult_snd, Ledger.get?_erase, same]

/-- A step about a pool leaves everything else as it was, but has the credentials held that it uses. -/
lemma step_frame (one : step.object?.isSome = true) (still : s.world.Undisturbed) :
    (s.step step).2.world.Undisturbed ∧
      Matches (fun p => ¬step.Names p) s (s.step step).2 ∧
      (∀ uid, step.uid? ≠ some uid → (s.step step).2.stored.get? uid = s.stored.get? uid) ∧
      ∀ k, (s.step step).2.cache.known.get? k =
        if s.sought? step = some k then (s.credentialsOf k).toOption else s.cache.known.get? k := by
  cases held : s.cache.locked with
  | true =>
    rw [step_of_locked held one]
    refine ⟨still, .refl _ s, fun _ _ => rfl, fun k => ?_⟩
    simp [sought?, held]
  | false =>
    rcases Step.object?_cases one with ⟨obj, adds⟩ | ⟨obj, rfl⟩
    · obtain ⟨m, hm, hs⟩ := step_adds held adds
      obtain ⟨-, stored, known, left, others⟩ := add_undisturbed hm still obj
      rw [hs, Reply.ofResult_snd]
      refine ⟨left, others.mono fun p apart named => apart ⟨obj, adds, named⟩, fun uid other => ?_, fun k => ?_⟩
      · rw [stored]
        split
        · next written content verdict =>
          rw [Ledger.get?_insert, if_neg]
          rintro rfl
          exact other (by rw [Step.uid?_of_adds adds, uidOf_of_verdict verdict, Except.toOption])
        · rfl
      · rw [known k, sought?_of_adds held adds]
    · rw [step_deletes held, Reply.ofResult_snd]
      have idle : s.sought? (.delete obj) = none := by simp [sought?]
      simp only [idle]
      unfold delete
      cases found : BlockPool.uidOf obj with
      | error e => exact ⟨still, .refl _ s, fun _ _ => rfl, fun _ => rfl⟩
      | ok removed =>
        refine ⟨still, ⟨rfl, rfl, fun _ => rfl, fun _ _ => rfl⟩, fun uid other => ?_, fun _ => rfl⟩
        rw [stored_removed, Ledger.get?_erase, if_neg]
        rintro rfl
        exact other (by simp [Step.uid?, Step.object?, found, Except.toOption])

lemma Matches.sought?_eq (h : Matches pools s t) (step : Step) : s.sought? step = t.sought? step := by
  simp only [sought?, h.setup, h.locked]

/-! ## Runs -/

/-- In a run of steps about different pools, each step has the reply that it has alone and leaves for its pool what it
leaves alone. No other pool is touched, and the credentials are held that the steps use. -/
lemma takeAll_apart {steps : List Step} (still : s.world.Undisturbed)
    (one : ∀ step ∈ steps, step.object?.isSome = true) (apart : steps.Pairwise Step.Apart) :
    (s.takeAll steps).1 = steps.map (fun step => (s.step step).1) ∧
      (∀ step ∈ steps, ∀ uid, step.uid? = some uid →
        (s.takeAll steps).2.stored.get? uid = (s.step step).2.stored.get? uid) ∧
      (∀ uid, (∀ step ∈ steps, step.uid? ≠ some uid) → (s.takeAll steps).2.stored.get? uid = s.stored.get? uid) ∧
      ∀ k, (s.takeAll steps).2.cache.known.get? k =
        if some k ∈ steps.map s.sought? then (s.credentialsOf k).toOption else s.cache.known.get? k := by
  induction steps generalizing s with
  | nil => exact ⟨rfl, by simp, fun _ _ => rfl, fun _ => rfl⟩
  | cons first rest ih =>
    obtain ⟨one_first, one_rest⟩ := List.forall_mem_cons.1 one
    obtain ⟨apart_first, apart_rest⟩ := List.pairwise_cons.1 apart
    obtain ⟨left, others, untouched, known⟩ := step_frame one_first still
    obtain ⟨replies, written, unwritten, held⟩ := ih left one_rest apart_rest
    -- What the first step did makes no difference to the others, each taken alone.
    have same (step : Step) (hs : step ∈ rest) := step_congr (one_rest step hs) others
      (fun p named clash => (apart_first step hs).names p clash named) still left
    refine ⟨?_, ?_, fun uid absent => ?_, fun k => ?_⟩
    · rw [takeAll, replies, List.map_cons]
      exact congrArg _ (List.map_congr_left fun step hs => ((same step hs).1).symm)
    · intro step hs uid own
      rcases List.mem_cons.1 hs with rfl | hs
      · exact unwritten uid fun later hl => (apart_first later hl).uids uid own
      · -- The first step left the pool of this one alone.
        have before := untouched uid fun clash => (apart_first step hs).uids uid clash own
        exact (written step hs uid own).trans ((same step hs).2 uid before.symm).symm
    · obtain ⟨absent_first, absent_rest⟩ := List.forall_mem_cons.1 absent
      exact (unwritten uid absent_rest).trans (untouched uid absent_first)
    · have sought : rest.map (s.step first).2.sought? = rest.map s.sought? :=
        List.map_congr_left fun step _ => (others.sought?_eq step).symm
      rw [takeAll, held k, sought, known k, ← others.credentials]
      by_cases later : some k ∈ rest.map s.sought?
      · rw [if_pos later]
        exact (if_pos (List.mem_cons_of_mem _ later)).symm
      · simp only [later, if_false, List.map_cons, List.mem_cons, or_false, eq_comm]

/-- What a run of steps about different pools leaves does not depend on their order. -/
lemma takeAll_perm {steps steps' : List Step} (still : s.world.Undisturbed)
    (one : ∀ step ∈ steps, step.object?.isSome = true) (apart : steps.Pairwise Step.Apart)
    (perm : steps.Perm steps') :
    (∀ uid, (s.takeAll steps).2.stored.get? uid = (s.takeAll steps').2.stored.get? uid) ∧
      ∀ k, (s.takeAll steps).2.cache.known.get? k = (s.takeAll steps').2.cache.known.get? k := by
  obtain ⟨-, written, unwritten, held⟩ := takeAll_apart still one apart
  obtain ⟨-, written', unwritten', held'⟩ := takeAll_apart still (fun step hs => one step (perm.mem_iff.2 hs))
    ((perm.pairwise_iff fun h => h.symm).1 apart)
  refine ⟨fun uid => ?_, fun k => by simp only [held, held', (perm.map s.sought?).mem_iff]⟩
  by_cases own : ∃ step ∈ steps, step.uid? = some uid
  · obtain ⟨step, hs, own⟩ := own
    rw [written step hs uid own, written' step (perm.mem_iff.1 hs) uid own]
  · have absent : ∀ step ∈ steps, step.uid? ≠ some uid := fun step hs clash => own ⟨step, hs, clash⟩
    rw [unwritten uid absent, unwritten' uid fun step hs => absent step (perm.mem_iff.2 hs)]

end

/-- Pools are added, added again or deleted, no two steps being about the same pool, in a world in which no command
leaves time for others.

In every order each step has the reply that it has when it is the only one. At the end of every order the same pools
are stored with the same status under the same names, and the same credentials are held: only the order of the
entries may differ. -/
theorem different_pools_commute (s : Session) {steps steps' : List Step} (still : s.world.Undisturbed)
    (one : ∀ step ∈ steps, step.object?.isSome = true) (apart : steps.Pairwise Step.Apart)
    (perm : steps.Perm steps') :
    (s.takeAll steps).1 = steps.map (fun step => (s.step step).1) ∧
    (s.takeAll steps').1 = steps'.map (fun step => (s.step step).1) ∧
    (s.takeAll steps).2.cache.contents.Perm (s.takeAll steps').2.cache.contents ∧
    (s.takeAll steps).2.cache.known.entries.Perm (s.takeAll steps').2.cache.known.entries := by
  obtain ⟨stored, known⟩ := takeAll_perm still one apart perm
  refine ⟨(takeAll_apart still one apart).1, ?_, Ledger.perm_of_get? stored, Ledger.perm_of_get? known⟩
  exact (takeAll_apart still (fun step hs => one step (perm.mem_iff.2 hs))
    ((perm.pairwise_iff fun h => h.symm).1 apart)).1

/-- A pool is stored, and the credentials of its namespace are forgotten again. -/
def forgetful : Session :=
  Sample.run "a2V5" true [⟨.finished (Sample.document "OK"), []⟩]
    [.setEndings "pool2" [⟨.finished (Sample.document "ERROR"), []⟩], .add (Sample.pool "u0" "pool1" "ns1"),
      .invalidate .null]

/-- The pool is deleted, two others are added in its namespace, and for one more there is no command. -/
def exchange : List Step :=
  [.delete (Sample.pool "u0" "pool0" "ns1"), .add (Sample.pool "u1" "pool1" "ns1"),
    .add (Sample.pool "u2" "pool2" "ns1"), .update (Sample.pool "u3" "pool3" "ns1")]

lemma exchange_apart : exchange.Pairwise Step.Apart := by
  have uids : exchange.Pairwise fun a b => a.uid? ≠ b.uid? := by decide +kernel
  have added {uid p name : String} {step : Step}
      (described : BlockPool.ofJson (Sample.pool uid p "ns1") = .ok ⟨uid, .ofString p, .ofString "ns1", true⟩)
      (adds : step = .add (Sample.pool uid p "ns1") ∨ step = .update (Sample.pool uid p "ns1"))
      (h : step.Names name) : name = p := by
    obtain ⟨obj, adds', pool, t, described', named, rfl⟩ := h
    obtain rfl : Sample.pool uid p "ns1" = obj := by
      rcases adds with rfl | rfl <;> rcases adds' with h | h <;> cases h <;> rfl
    cases described.symm.trans described'
    cases named
    exact Text.asString_ofString p
  -- The names of these pools tell their identities.
  have named : ∀ step ∈ exchange, ∀ name, step.Names name →
      [("pool1", "u1"), ("pool2", "u2"), ("pool3", "u3")].lookup name = step.uid? := by
    intro step hs name h
    simp only [exchange, List.mem_cons, List.not_mem_nil, or_false] at hs
    rcases hs with rfl | rfl | rfl | rfl
    · obtain ⟨obj, adds | adds, -⟩ := h <;> cases adds
    · rw [added rfl (.inl rfl) h]
      decide +kernel
    · rw [added rfl (.inl rfl) h]
      decide +kernel
    · rw [added rfl (.inr rfl) h]
      decide +kernel
  refine uids.imp_of_mem fun {a b} ha hb apart => ⟨fun uid own clash => apart (own.trans clash.symm), ?_⟩
  exact fun name na nb => apart ((named a ha name na).symm.trans (named b hb name nb))

theorem exchange_commutes :
    (forgetful.takeAll exchange).2.cache.records.keys = ["u1", "u2"] ∧
      (forgetful.takeAll exchange.reverse).2.cache.records.keys = ["u2", "u1"] ∧
      (forgetful.takeAll exchange.reverse).1 = exchange.reverse.map (fun step => (forgetful.step step).1) ∧
      (forgetful.takeAll exchange).2.cache.contents.Perm (forgetful.takeAll exchange.reverse).2.cache.contents ∧
      (forgetful.takeAll exchange).2.cache.known.entries.Perm
        (forgetful.takeAll exchange.reverse).2.cache.known.entries := by
  have keys : (forgetful.takeAll exchange).2.cache.records.keys = ["u1", "u2"] ∧
      (forgetful.takeAll exchange.reverse).2.cache.records.keys = ["u2", "u1"] := by decide +kernel
  obtain ⟨-, replies, contents, known⟩ := different_pools_commute forgetful (by decide +kernel) (by decide +kernel)
    exchange_apart exchange.reverse_perm.symm
  exact ⟨keys.1, keys.2, replies, contents, known⟩

end Session
end ReplicaWatch
