import Mathlib
import ReplicaWatch.Proofs.Secrecy.Alike

/-! Alike sessions stay alike. Every operation of a session is followed in a session that holds other keys: both end
with the same result or the same failure, and only the keys still tell them apart. Main statement: alike steps give
alike replies and lead to alike sessions. -/
namespace ReplicaWatch

namespace Session

/-- The same sessions but for the keys of secrets. -/
structure Alike (s t : Session) : Prop where
  cache : s.cache.Alike t.cache
  world : s.world.Alike t.world
  trace : List.Forall₂ Event.Alike s.trace t.trace

/-- Operations of two sessions end alike: with related results, or with the same failure. -/
inductive EndAlike {α : Type} (R : α → α → Prop) : Except Failure α × Session → Except Failure α × Session → Prop
  | ok {a b s t} (related : R a b) (h : s.Alike t) : EndAlike R (.ok a, s) (.ok b, t)
  | error (e) {s t} (h : s.Alike t) : EndAlike R (.error e, s) (.error e, t)

/-- Steps of two sessions end alike. -/
def ReplyAlike (r r' : Reply × Session) : Prop := r.1.Alike r'.1 ∧ r.2.Alike r'.2

/-- Steps that others take in alike sessions lead to alike replies and sessions. -/
def MeanwhileAlike (m : Meanwhile) : Prop :=
  ∀ steps steps' s t, List.Forall₂ Step.Alike steps steps' → s.Alike t →
    List.Forall₂ Reply.Alike (m steps s).1 (m steps' t).1 ∧ (m steps s).2.Alike (m steps' t).2

section
variable {s t : Session}

/-! ## Moves -/

lemma Alike.note (h : s.Alike t) {e e' : Event} (he : e.Alike e') : (s.note e).Alike (t.note e') :=
  ⟨h.cache, h.world, List.rel_append h.trace (.cons he .nil)⟩

lemma Alike.log (h : s.Alike t) (level : Log.Level) (text : String) :
    (s.log level text).Alike (t.log level text) := by
  unfold Session.log
  rw [h.cache.setup]
  split
  · exact h.note (.logged _)
  · exact h

lemma Alike.setLocked (h : s.Alike t) (locked : Bool) : (s.setLocked locked).Alike (t.setLocked locked) :=
  ⟨⟨h.cache.setup, h.cache.known, h.cache.records, rfl⟩, h.world, h.trace⟩

lemma Alike.learned (h : s.Alike t) (ns : String) {c c' : Credentials} (hc : c.Alike c') :
    (s.change (.learned ns c)).Alike (t.change (.learned ns c')) :=
  ⟨h.cache.learned ns hc, h.world, List.rel_append h.trace (.cons (.learned ns hc) .nil)⟩

lemma Alike.change (h : s.Alike t) (change : Change) : (s.change change).Alike (t.change change) :=
  ⟨h.cache.apply change, h.world, List.rel_append h.trace (.cons (.changed change) .nil)⟩

/-! ## Credentials -/

lemma Alike.lookup (h : s.Alike t) (ns : String) : EndAlike Credentials.Alike (s.lookup ns) (t.lookup ns) := by
  have asked := h.note (.asked ⟨.secret, ns, Credentials.secretName⟩)
  have both := asked.note (.asked ⟨.configuration, ns, Credentials.configName⟩)
  have configuration : s.world.respond ⟨.configuration, ns, Credentials.configName⟩ =
      t.world.respond ⟨.configuration, ns, Credentials.configName⟩ :=
    (h.world.respond _).eq_of_configuration rfl
  have secret := h.world.respond ⟨.secret, ns, Credentials.secretName⟩
  simp only [Session.lookup, ask, note_world]
  rw [configuration]
  generalize s.world.respond ⟨.secret, ns, Credentials.secretName⟩ = r at secret ⊢
  generalize t.world.respond ⟨.secret, ns, Credentials.secretName⟩ = r' at secret ⊢
  cases secret with
  | same =>
    split
    · exact .error _ asked
    · split
      · exact .error _ both
      · exact .ok (.same _) both
  | keys _ read read' hk hk' =>
    simp only at read read'
    rw [read, read']
    simp only
    split
    · exact .error _ both
    · exact .ok (.keys _ hk hk') both

lemma Alike.learn (h : s.Alike t) (ns : String) : EndAlike Credentials.Alike (s.learn ns) (t.learn ns) := by
  have hl := h.lookup ns
  unfold Session.learn
  generalize s.lookup ns = r at hl ⊢
  generalize t.lookup ns = r' at hl ⊢
  cases hl with
  | ok hc hs =>
    simp only [hc.monitor_eq]
    exact .ok hc ((hs.learned ns hc).log _ _)
  | error e hs =>
    simp only
    split
    · exact .error _ (hs.log _ _)
    · exact .error _ hs

lemma Alike.resolvePermitted (h : s.Alike t) (ns : String) (refresh : Bool) :
    EndAlike Credentials.Alike (s.resolvePermitted ns refresh) (t.resolvePermitted ns refresh) := by
  have hk := h.cache.known.get? ns
  unfold Session.resolvePermitted
  generalize s.cache.known.get? ns = c at hk ⊢
  generalize t.cache.known.get? ns = c' at hk ⊢
  cases hk with
  | none => exact h.learn ns
  | some hc =>
    simp only
    split
    · exact h.learn ns
    · exact .ok hc h

lemma Alike.resolve (h : s.Alike t) (ns : Json) (refresh : Bool) :
    EndAlike Credentials.Alike (s.resolve ns refresh) (t.resolve ns refresh) := by
  unfold Session.resolve
  rw [h.cache.setup]
  split
  · exact .error _ h
  · exact h.resolvePermitted _ refresh

lemma Alike.invalidate (h : s.Alike t) (ns : Json) :
    EndAlike Eq (s.invalidate ns) (t.invalidate ns) := by
  have empty : s.cache.known.entries.isEmpty = t.cache.known.entries.isEmpty := by
    have keys := h.cache.known.keys_eq
    unfold Ledger.keys at keys
    rw [← List.isEmpty_map, keys, List.isEmpty_map]
  unfold Session.invalidate
  rw [empty]
  split
  · exact .ok rfl (h.change _)
  · split
    · exact .ok rfl (h.change _)
    · exact .ok rfl h
  · split
    · exact .ok rfl h
    · exact .error _ h
  · split
    · exact .ok rfl h
    · exact .error _ h
  · exact .ok rfl h

/-! ## Commands -/

lemma Alike.logFailure (h : s.Alike t) (exit : String) {args args' : List String}
    (same : Command.line args = Command.line args') (output : List UInt8) :
    (s.logFailure exit args output).Alike (t.logFailure exit args' output) := by
  simp only [Session.logFailure, argsText, same]
  split
  · exact (h.log _ _).log _ _
  · exact ((h.log _ _).log _ _).log _ _

lemma Alike.conclude (h : s.Alike t) (pool : String) {args args' : List String}
    (same : Command.line args = Command.line args') (ending : Ending) :
    EndAlike Eq (s.conclude pool args ending) (t.conclude pool args' ending) := by
  cases ending with
  | finished output =>
    simp only [Session.conclude]
    split
    · exact .ok rfl h
    · exact .error _ h
  | exited code output => exact .error _ (h.logFailure _ same output)
  | timedOut output =>
    simp only [Session.conclude, h.cache.setup]
    exact .error _ (h.logFailure _ same output)
  | unstarted number =>
    simp only [Session.conclude, h.cache.setup]
    exact .error _ h
  | uncallable fault => exact .error _ h

lemma Alike.launch (h : s.Alike t) (pool : String) {args args' : List String} (ha : Command.Alike args args') :
    (s.launch pool args).Alike (t.launch pool args') := by
  have began : ({ s with world := (s.world.takeOutcome pool).2 } : Session).Alike
      { t with world := (t.world.takeOutcome pool).2 } :=
    ⟨h.cache, (h.world.takeOutcome pool).2, h.trace⟩
  unfold Session.launch
  rw [h.cache.setup, h.cache.locked]
  exact began.note (.started ha _ _)

variable {m : Meanwhile} (hm : MeanwhileAlike m)
include hm

lemma Alike.run (h : s.Alike t) (pool : String) {args args' : List String} (ha : Command.Alike args args') :
    (s.run m pool args).1 = (t.run m pool args').1 ∧ (s.run m pool args).2.Alike (t.run m pool args').2 := by
  have ho := (h.world.takeOutcome pool).1
  have begun := h.launch pool ha
  rw [run_eq, run_eq]
  generalize (s.world.takeOutcome pool).1 = o at ho ⊢
  generalize (t.world.takeOutcome pool).1 = o' at ho ⊢
  cases ho with
  | mk ending hsteps =>
    obtain ⟨hreplies, hafter⟩ := hm _ _ _ _ hsteps begun
    exact ⟨rfl, hafter.note (.ended ending hreplies)⟩

lemma Alike.fetch (h : s.Alike t) (pool : String) {c c' : Credentials} (hc : c.Alike c') :
    EndAlike Eq (s.fetch m pool c) (t.fetch m pool c') := by
  unfold Session.fetch
  rw [hc.isEmpty_eq, h.cache.setup]
  split
  · exact .error _ h
  · obtain ⟨hending, hafter⟩ := h.run hm pool (Command.alike_status hc t.cache.setup.command pool)
    simp only [hending]
    exact hafter.conclude pool (Command.line_status hc _ _) _

lemma Alike.fetchRecord (h : s.Alike t) (pool ns : Json) :
    EndAlike Eq (s.fetchRecord m pool ns) (t.fetchRecord m pool ns) := by
  unfold Session.fetchRecord
  rw [h.cache.setup]
  split
  · exact .error _ h
  · next n _ =>
    have hr := h.resolvePermitted n false
    generalize s.resolvePermitted n false = r at hr ⊢
    generalize t.resolvePermitted n false = r' at hr ⊢
    cases hr with
    | error e hs => exact .error e hs
    | @ok c c' u v hc hs =>
      cases pool with
      | string p =>
        have hf := hs.fetch hm (Text.asString p) hc
        simp only
        generalize u.fetch m (Text.asString p) c = f at hf ⊢
        generalize v.fetch m (Text.asString p) c' = f' at hf ⊢
        cases hf with
        | error e hs => exact .error e hs
        | ok same hs =>
          subst same
          simp only [hs.trace.length_eq]
          exact .ok rfl hs
      | _ => exact .error _ hs

/-! ## Writing and sweeping -/

lemma Alike.add (h : s.Alike t) (obj : Json) : EndAlike Eq (s.add m obj) (t.add m obj) := by
  unfold Session.add
  split
  · exact .error _ h
  · next pool _ =>
    split
    · have hf := h.fetchRecord hm pool.name pool.ns
      generalize s.fetchRecord m pool.name pool.ns = r at hf ⊢
      generalize t.fetchRecord m pool.name pool.ns = r' at hf ⊢
      cases hf with
      | error e hs => exact .error e hs
      | ok same hs =>
        subst same
        exact .ok rfl (hs.change _)
    · exact .ok rfl (h.log _ _)

omit hm in
lemma Alike.delete (h : s.Alike t) (obj : Json) : EndAlike Eq (s.delete obj) (t.delete obj) := by
  unfold Session.delete
  split
  · exact .error _ h
  · exact .ok rfl (h.change _)

lemma Alike.addAll (h : s.Alike t) (items : List Json) : EndAlike Eq (s.addAll m items) (t.addAll m items) := by
  induction items generalizing s t with
  | nil => exact .ok rfl h
  | cons item rest ih =>
    have ha := h.add hm item
    unfold Session.addAll
    generalize s.add m item = r at ha ⊢
    generalize t.add m item = r' at ha ⊢
    cases ha with
    | error e hs => exact .error e hs
    | ok _ hs => exact ih hs

lemma Alike.replace (h : s.Alike t) (items : Json) : EndAlike Eq (s.replace m items) (t.replace m items) := by
  have cleared := h.change .cleared
  unfold Session.replace
  simp only
  split
  · exact cleared.addAll hm _
  · exact .error _ cleared

omit hm in
lemma Alike.stillHolds_eq (h : s.Alike t) (uid : String) (record : Record) :
    s.cache.stillHolds uid record = t.cache.stillHolds uid record := by
  rw [Cache.stillHolds, h.cache.records]
  rfl

lemma Alike.refresh (h : s.Alike t) (held : Bool) (uid : String) (record : Record) (tally : Tally) :
    EndAlike Eq (s.refresh m held uid record tally) (t.refresh m held uid record tally) := by
  have hf := h.fetchRecord hm (.ofString record.pool) (.ofString record.ns)
  unfold Session.refresh
  generalize s.fetchRecord m (.ofString record.pool) (.ofString record.ns) = r at hf ⊢
  generalize t.fetchRecord m (.ofString record.pool) (.ofString record.ns) = r' at hf ⊢
  cases hf with
  | error e hs =>
    simp only
    split
    · exact .ok rfl (hs.log _ _)
    · exact .error _ hs
  | ok same hs =>
    subst same
    simp only [hs.stillHolds_eq]
    split
    · exact .ok rfl (hs.change _)
    · exact .ok rfl hs

lemma Alike.sweep (h : s.Alike t) (held : Bool) (tally : Tally) (entries : List (String × Record)) :
    EndAlike Eq (s.sweep m held tally entries) (t.sweep m held tally entries) := by
  induction entries generalizing s t tally with
  | nil => exact .ok rfl h
  | cons entry rest ih =>
    have hr := h.refresh hm held entry.1 entry.2 tally
    unfold Session.sweep
    generalize s.refresh m held entry.1 entry.2 tally = r at hr ⊢
    generalize t.refresh m held entry.1 entry.2 tally = r' at hr ⊢
    cases hr with
    | error e hs => exact .error e hs
    | ok same hs =>
      subst same
      exact ih hs _

omit hm in
lemma Alike.sweepStart (h : s.Alike t) : s.sweepStart.Alike t.sweepStart := by
  unfold Session.sweepStart
  rw [h.cache.setup]
  exact (h.log _ _).setLocked _

lemma Alike.resync (h : s.Alike t) : EndAlike Eq (s.resync m) (t.resync m) := by
  have hs := h.sweepStart.sweep hm t.cache.setup.serialize ⟨0, 0, 0⟩ t.cache.records.entries
  rw [resync_eq, resync_eq, h.cache.setup, h.cache.records]
  generalize s.sweepStart.sweep m t.cache.setup.serialize ⟨0, 0, 0⟩ t.cache.records.entries = r at hs ⊢
  generalize t.sweepStart.sweep m t.cache.setup.serialize ⟨0, 0, 0⟩ t.cache.records.entries = r' at hs ⊢
  cases hs with
  | error e hs => exact .error e (hs.setLocked false)
  | ok same hs =>
    subst same
    exact .ok rfl ((hs.setLocked false).log _ _)

/-! ## Steps -/

lemma Alike.handle (h : s.Alike t) (event obj : Json) (ns name : String) :
    EndAlike Eq (s.handle m event obj ns name) (t.handle m event obj ns name) := by
  have answered {r r' : Except Failure Unit × Session} (hr : EndAlike Eq r r') :
      EndAlike Eq (answerEvent ns name r) (answerEvent ns name r') := by
    cases hr with
    | ok _ hs => exact .ok rfl hs
    | error e hs =>
      cases e with
      | cache e => exact .error _ (hs.note (.logged _))
      | _ => exact .error _ hs
  unfold Session.handle
  split
  · split
    · exact .error _ h
    · split
      · exact answered (h.delete obj)
      · exact answered (h.add hm obj)
  · exact .error _ h

omit hm in
lemma EndAlike.reply {α : Type} {r r' : Except Failure α × Session} (h : EndAlike Eq r r') (f : α → Answer) :
    ReplyAlike (Reply.ofResult f r) (Reply.ofResult f r') := by
  cases h with
  | ok same hs =>
    subst same
    exact ⟨.same _, hs⟩
  | error e hs => exact ⟨.same _, hs⟩

lemma Alike.perform (h : s.Alike t) {step step' : Step} (hstep : step.Alike step') :
    ReplyAlike (s.perform m step) (t.perform m step') := by
  have surroundings {w w' : World} (hw : w.Alike w') :
      ({ s with world := w } : Session).Alike { t with world := w' } := ⟨h.cache, hw, h.trace⟩
  cases hstep with
  | setObject hr => exact ⟨.same _, surroundings (h.world.setObject hr)⟩
  | setEndings pool ho => exact ⟨.same _, surroundings (h.world.setOutcomes pool ho)⟩
  | same =>
    cases step with
    | add obj => exact (h.add hm obj).reply _
    | update obj => exact (h.add hm obj).reply _
    | delete obj => exact (h.delete obj).reply _
    | replace items => exact (h.replace hm items).reply _
    | resync => exact (h.resync hm).reply _
    | event event obj ns name => exact (h.handle hm event obj ns name).reply _
    | invalidate ns => exact (h.invalidate ns).reply _
    | snapshot =>
      simp only [Session.perform, h.cache.records]
      exact ⟨.same _, h⟩
    | isAllowed ns =>
      simp only [Session.perform, h.cache.setup]
      cases t.cache.setup.isAllowed ns with
      | ok b => exact ⟨.same _, h⟩
      | error e => exact ⟨.same _, h⟩
    | resolve ns refresh =>
      simp only [Session.perform]
      have hr := h.resolve ns refresh
      generalize s.resolve ns refresh = r at hr ⊢
      generalize t.resolve ns refresh = r' at hr ⊢
      cases hr with
      | ok hc hs => exact ⟨.credentials hc, hs⟩
      | error e hs => exact ⟨.same _, hs⟩
    | setObject name r => exact ⟨.same _, surroundings (h.world.setObject (.same r))⟩
    | removeObject name => exact ⟨.same _, surroundings (h.world.removeObject name)⟩
    | setEndings pool outcomes =>
      exact ⟨.same _, surroundings (h.world.setOutcomes pool (List.forall₂_same.2 fun o _ => .refl o))⟩
    | clearSnapshot => exact ⟨.same _, h⟩
    | list => exact ⟨.same _, h⟩
    | listKeys => exact ⟨.same _, h⟩
    | get obj => exact ⟨.same _, h⟩
    | getByKey key => exact ⟨.same _, h⟩

lemma Alike.attempt (h : s.Alike t) {step step' : Step} (hstep : step.Alike step') :
    ReplyAlike (s.attempt m step) (t.attempt m step') := by
  have free : step.isLockFree = step'.isLockFree := by
    cases hstep <;> rfl
  unfold Session.attempt
  rw [h.cache.locked, free]
  split
  · exact ⟨.same _, h⟩
  · exact h.perform hm hstep

lemma Alike.attemptAll {steps steps' : List Step} (hsteps : List.Forall₂ Step.Alike steps steps') (h : s.Alike t) :
    List.Forall₂ Reply.Alike (s.attemptAll m steps).1 (t.attemptAll m steps').1 ∧
      (s.attemptAll m steps).2.Alike (t.attemptAll m steps').2 := by
  induction hsteps generalizing s t with
  | nil => exact ⟨.nil, h⟩
  | cons hstep _ ih =>
    obtain ⟨hreply, hafter⟩ := h.attempt hm hstep
    obtain ⟨hreplies, hend⟩ := ih hafter
    exact ⟨.cons hreply hreplies, hend⟩

end

/-- However deep steps are nested, alike steps keep sessions alike. -/
theorem meanwhileAlike_nested (depth : ℕ) : MeanwhileAlike (nested depth) := by
  induction depth with
  | zero =>
    intro steps steps' s t hsteps h
    exact ⟨List.forall₂_map_left_iff.2 (List.forall₂_map_right_iff.2 (hsteps.imp fun _ _ _ => .same _)), h⟩
  | succ depth ih => exact fun _ _ _ _ hsteps h => Alike.attemptAll ih hsteps h

variable {s t : Session}

lemma Alike.step (h : s.Alike t) {step step' : Step} (hstep : step.Alike step') :
    ReplyAlike (s.step step) (t.step step') := by
  unfold Session.step
  rw [h.world.size_eq, hstep.size_eq]
  exact h.attempt (meanwhileAlike_nested _) hstep

lemma Alike.takeAll {steps steps' : List Step} (hsteps : List.Forall₂ Step.Alike steps steps') (h : s.Alike t) :
    List.Forall₂ Reply.Alike (s.takeAll steps).1 (t.takeAll steps').1 ∧
      (s.takeAll steps).2.Alike (t.takeAll steps').2 := by
  induction hsteps generalizing s t with
  | nil => exact ⟨.nil, h⟩
  | cons hstep _ ih =>
    obtain ⟨hreply, hafter⟩ := h.step hstep
    obtain ⟨hreplies, hend⟩ := ih hafter
    exact ⟨.cons hreply hreplies, hend⟩

end Session

end ReplicaWatch
