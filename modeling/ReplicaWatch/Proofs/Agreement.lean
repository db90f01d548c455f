import Mathlib
import ReplicaWatch.Proofs.Coherence
import ReplicaWatch.Proofs.Secrecy.Alike

/-! Sessions that differ in nothing but what was logged. The stamps of records tell apart what was logged before
them, so that records are compared by the commands that they come from instead. Main statement: the same step has
the same result in sessions that agree, asks for the same and runs the same, and leaves sessions that agree. -/
namespace ReplicaWatch

namespace Event

/-- An event as a call of the cluster or of a command, without what others did meanwhile. -/
def call? : Event → Option Event
  | asked name => some (asked name)
  | started args timeout locked => some (started args timeout locked)
  | ended ending _ => some (ended ending [])
  | _ => none

def isEnd : Event → Bool
  | ended _ _ => true
  | _ => false

end Event

/-- The requests and the commands of a trace. -/
def calls (trace : List Event) : List Event := trace.filterMap Event.call?

@[simp] lemma calls_append (trace more : List Event) : calls (trace ++ more) = calls trace ++ calls more :=
  List.filterMap_append

lemma countP_isEnd_calls (trace : List Event) : (calls trace).countP Event.isEnd = trace.countP Event.isEnd := by
  induction trace with
  | nil => rfl
  | cons e rest ih =>
    unfold calls at ih ⊢
    cases e <;> simp [Event.call?, Event.isEnd, List.filterMap_cons, List.countP_cons, ih]

/-! ## Stamps -/

/-- A stamp is the moment right after the end of a command, before which a number of commands had ended. -/
def Stamped (trace : List Event) (stamp number : ℕ) : Prop :=
  ∃ before e after, trace = before ++ e :: after ∧ e.isEnd = true ∧ stamp = before.length + 1 ∧
    number = before.countP Event.isEnd

section
variable {trace : List Event} {stamp stamp' number number' : ℕ}

lemma Stamped.append (h : Stamped trace stamp number) (more : List Event) : Stamped (trace ++ more) stamp number := by
  obtain ⟨before, e, after, rfl, rest⟩ := h
  exact ⟨before, e, after ++ more, by simp, rest⟩

lemma stamped_concat {e : Event} (h : e.isEnd = true) (trace : List Event) :
    Stamped (trace ++ [e]) (trace ++ [e]).length (trace.countP Event.isEnd) :=
  ⟨trace, e, [], rfl, h, by simp, rfl⟩

lemma Stamped.lt (h : Stamped trace stamp number) (h' : Stamped trace stamp' number') (earlier : stamp < stamp') :
    number < number' := by
  obtain ⟨before, e, after, rfl, isEnd, rfl, rfl⟩ := h
  obtain ⟨before', e', after', same, -, rfl, rfl⟩ := h'
  -- The end of the first command is among the events before the end of the second.
  rcases List.append_eq_append_iff.1 same with ⟨between, rfl, hbetween⟩ | ⟨between, rfl, hbetween⟩
  · cases between with
    | nil => simp at earlier
    | cons x between =>
      obtain ⟨rfl, -⟩ := List.cons.inj hbetween
      simp [List.countP_append, isEnd]
  · simp at earlier

/-- Stamps are the same exactly if they are those of the same command. -/
lemma Stamped.eq_iff (h : Stamped trace stamp number) (h' : Stamped trace stamp' number') :
    stamp = stamp' ↔ number = number' := by
  rcases lt_trichotomy stamp stamp' with earlier | rfl | later
  · exact iff_of_false earlier.ne (h.lt h' earlier).ne
  · obtain ⟨before, e, after, rfl, -, rfl, rfl⟩ := h
    obtain ⟨before', e', after', same, -, hlength, rfl⟩ := h'
    obtain ⟨rfl, -⟩ := List.append_inj same (Nat.succ_injective hlength)
    exact iff_of_true rfl rfl
  · exact iff_of_false later.ne' (h'.lt h later).ne'

end

/-- Records of the same status, under the same names, and of the same command. -/
structure Record.Agrees (trace trace' : List Event) (r r' : Record) : Prop where
  pool : r.pool = r'.pool
  ns : r.ns = r'.ns
  status : r.status = r'.status
  stamps : ∃ number, Stamped trace r.stamp number ∧ Stamped trace' r'.stamp number

lemma Record.Agrees.append {trace trace' : List Event} {r r' : Record} (h : Record.Agrees trace trace' r r')
    (more more' : List Event) : Record.Agrees (trace ++ more) (trace' ++ more') r r' := by
  obtain ⟨number, hr, hr'⟩ := h.stamps
  exact ⟨h.pool, h.ns, h.status, number, hr.append more, hr'.append more'⟩

namespace Session

/-- Sessions that hold the same and in which the same was asked and run. -/
structure Agrees (s t : Session) : Prop where
  setup : s.cache.setup = t.cache.setup
  known : s.cache.known = t.cache.known
  locked : s.cache.locked = t.cache.locked
  world : s.world = t.world
  records : s.cache.records.Alike (fun _ => Record.Agrees s.trace t.trace) t.cache.records
  calls : calls s.trace = calls t.trace

/-- Operations of two sessions end in agreement: with related results, or with the same failure. -/
inductive EndAgrees {α : Type} (R : Session → Session → α → α → Prop) :
    Except Failure α × Session → Except Failure α × Session → Prop
  | ok {a b s t} (related : R s t a b) (h : s.Agrees t) : EndAgrees R (.ok a, s) (.ok b, t)
  | error (e) {s t} (h : s.Agrees t) : EndAgrees R (.error e, s) (.error e, t)

/-- The same result. -/
abbrev Equal {α : Type} (_ _ : Session) (a b : α) : Prop := a = b

/-- The same status, at the end of the same command. -/
def SameEnd (s t : Session) (a b : Status.Pool) : Prop :=
  a = b ∧ ∃ number, Stamped s.trace s.trace.length number ∧ Stamped t.trace t.trace.length number

/-- Steps that others take keep sessions in agreement. -/
structure KeepsAgreement (m : Meanwhile) : Prop where
  evolves : ∀ steps s, Evolves s (m steps s).2
  agrees : ∀ steps s t, s.Agrees t → (m steps s).2.Agrees (m steps t).2

section
variable {s t : Session}

/-! ## Moves -/

/-- Sessions stay in agreement whatever happens besides the same calls. -/
lemma Agrees.extend (h : s.Agrees t) (more more' : List Event)
    (same : ReplicaWatch.calls more = ReplicaWatch.calls more') :
    Agrees { s with trace := s.trace ++ more } { t with trace := t.trace ++ more' } where
  setup := h.setup
  known := h.known
  locked := h.locked
  world := h.world
  records := h.records.imp fun _ _ he => ⟨he.1, he.2.append more more'⟩
  calls := by rw [calls_append, calls_append, h.calls, same]

/-- Records that agree still do so later. -/
lemma agrees_later {u v : Session} (su : Evolves s u) (tv : Evolves t v) {r r' : Record}
    (hr : Record.Agrees s.trace t.trace r r') : Record.Agrees u.trace v.trace r r' := by
  obtain ⟨more, hmore, -, -⟩ := su.replay
  obtain ⟨more', hmore', -, -⟩ := tv.replay
  rw [hmore, hmore']
  exact hr.append more more'

lemma Agrees.note (h : s.Agrees t) (e : Event) : (s.note e).Agrees (t.note e) := h.extend _ _ rfl

lemma Agrees.noteLeft (h : s.Agrees t) (line : Log.Line) : (s.note (.logged line)).Agrees t := by
  have logged := h.extend [.logged line] [] rfl
  rwa [List.append_nil] at logged

lemma Agrees.log (h : s.Agrees t) (level : Log.Level) (text : String) :
    (s.log level text).Agrees (t.log level text) := by
  unfold Session.log
  rw [h.setup]
  split
  · exact h.note _
  · exact h

lemma Agrees.setLocked (h : s.Agrees t) (locked : Bool) : (s.setLocked locked).Agrees (t.setLocked locked) :=
  ⟨h.setup, h.known, rfl, h.world, h.records, h.calls⟩

lemma Agrees.withWorld (h : s.Agrees t) (world : World) :
    Agrees { s with world := world } { t with world := world } :=
  ⟨h.setup, h.known, h.locked, rfl, h.records, h.calls⟩

/-- Changes of sessions that agree, which leave alike stores and the same credentials. -/
lemma Agrees.change (h : s.Agrees t) (change change' : Change)
    (known : (s.cache.apply change).known = (t.cache.apply change').known)
    (records : (s.cache.apply change).records.Alike (fun _ => Record.Agrees s.trace t.trace)
      (t.cache.apply change').records) : (s.change change).Agrees (t.change change') where
  setup := by simpa using h.setup
  known := known
  locked := by simpa using h.locked
  world := h.world
  records := records.imp fun _ _ he => ⟨he.1, he.2.append _ _⟩
  calls := by
    rw [change_trace, change_trace, calls_append, calls_append, h.calls]
    rfl

lemma Agrees.stored (h : s.Agrees t) (uid : String) {r r' : Record} (hr : Record.Agrees s.trace t.trace r r') :
    (s.change (.stored uid r)).Agrees (t.change (.stored uid r')) :=
  h.change _ _ h.known (h.records.insert hr)

lemma Agrees.refreshed (h : s.Agrees t) (uid : String) {r r' : Record} (hr : Record.Agrees s.trace t.trace r r') :
    (s.change (.refreshed uid r)).Agrees (t.change (.refreshed uid r')) :=
  h.change _ _ h.known (h.records.insert hr)

lemma Agrees.removed (h : s.Agrees t) (uid : String) : (s.change (.removed uid)).Agrees (t.change (.removed uid)) :=
  h.change _ _ h.known (h.records.erase uid)

lemma Agrees.cleared (h : s.Agrees t) : (s.change .cleared).Agrees (t.change .cleared) :=
  h.change _ _ h.known Ledger.alike_empty

/-- A record is still there in both sessions or in neither. -/
lemma Agrees.stillHolds_eq (h : s.Agrees t) (uid : String) {r r' : Record}
    (hr : Record.Agrees s.trace t.trace r r') : s.cache.stillHolds uid r = t.cache.stillHolds uid r' := by
  have hget := h.records.get? uid
  unfold Cache.stillHolds
  generalize s.cache.records.get? uid = q at hget ⊢
  generalize t.cache.records.get? uid = q' at hget ⊢
  cases hget with
  | none => rfl
  | some hq =>
    obtain ⟨number, stamped, stamped'⟩ := hr.stamps
    obtain ⟨found, hfound, hfound'⟩ := hq.stamps
    rw [Option.any_some, Option.any_some, Bool.eq_iff_iff, beq_iff_eq, beq_iff_eq, hfound.eq_iff stamped,
      hfound'.eq_iff stamped']

/-! ## Credentials -/

lemma Agrees.learn (h : s.Agrees t) (ns : String) : EndAgrees Equal (s.learn ns) (t.learn ns) := by
  have asked : Agrees { s with world := t.world, trace := s.trace ++ (t.world.asks ns).map Event.asked }
      { t with trace := t.trace ++ (t.world.asks ns).map Event.asked } := (h.withWorld t.world).extend _ _ rfl
  simp only [Session.learn, lookup_eq, h.world]
  cases t.world.find ns with
  | ok c =>
    have learned := asked.change (.learned ns c) (.learned ns c)
      (congrArg (fun known => Ledger.insert known ns c) h.known) asked.records
    exact .ok rfl (learned.log _ _)
  | error e =>
    simp only
    split
    · exact .error _ (asked.log _ _)
    · exact .error _ asked

lemma Agrees.resolvePermitted (h : s.Agrees t) (ns : String) (refresh : Bool) :
    EndAgrees Equal (s.resolvePermitted ns refresh) (t.resolvePermitted ns refresh) := by
  unfold Session.resolvePermitted
  rw [h.known]
  split
  · split
    · exact h.learn ns
    · exact .ok rfl h
  · exact h.learn ns

lemma Agrees.resolve (h : s.Agrees t) (ns : Json) (refresh : Bool) :
    EndAgrees Equal (s.resolve ns refresh) (t.resolve ns refresh) := by
  unfold Session.resolve
  rw [h.setup]
  split
  · exact .error _ h
  · exact h.resolvePermitted _ refresh

lemma Agrees.invalidate (h : s.Agrees t) (scope : Json) : (s.invalidate scope).2.Agrees (t.invalidate scope).2 := by
  cases scope with
  | null => exact h.change _ _ rfl h.records
  | string ns =>
    simp only [Session.invalidate]
    split
    · exact h.change _ _ (congrArg (fun known => Ledger.erase known _) h.known) h.records
    · exact h
  | _ => exact h

/-! ## Commands -/

lemma Agrees.logFailure (h : s.Agrees t) (exit : String) (args : List String) (output : List UInt8) :
    (s.logFailure exit args output).Agrees (t.logFailure exit args output) := by
  simp only [Session.logFailure]
  split
  · exact (h.log _ _).log _ _
  · exact ((h.log _ _).log _ _).log _ _

lemma Agrees.conclude (h : s.Agrees t) {number : ℕ} (stamped : Stamped s.trace s.trace.length number)
    (stamped' : Stamped t.trace t.trace.length number) (pool : String) (args : List String) (ending : Ending) :
    EndAgrees SameEnd (s.conclude pool args ending) (t.conclude pool args ending) := by
  cases ending with
  | finished output =>
    simp only [Session.conclude]
    split
    · exact .ok ⟨rfl, number, stamped, stamped'⟩ h
    · exact .error _ h
  | exited code output => exact .error _ (h.logFailure _ _ output)
  | timedOut output =>
    simp only [Session.conclude, h.setup]
    exact .error _ (h.logFailure _ _ output)
  | unstarted number =>
    simp only [Session.conclude, h.setup]
    exact .error _ h
  | uncallable fault => exact .error _ h

lemma Agrees.launch (h : s.Agrees t) (pool : String) (args : List String) :
    (s.launch pool args).Agrees (t.launch pool args) := by
  unfold Session.launch
  rw [h.world, h.setup, h.locked]
  exact (h.withWorld _).note _

/-- A command that ends in both sessions has as many before it in both. -/
lemma Agrees.ended (h : s.Agrees t) (ending : Ending) (replies replies' : List Reply) :
    (s.note (.ended ending replies)).Agrees (t.note (.ended ending replies')) ∧
      ∃ number, Stamped (s.note (.ended ending replies)).trace (s.note (.ended ending replies)).trace.length number ∧
        Stamped (t.note (.ended ending replies')).trace (t.note (.ended ending replies')).trace.length number := by
  have number : s.trace.countP Event.isEnd = t.trace.countP Event.isEnd := by
    rw [← countP_isEnd_calls, h.calls, countP_isEnd_calls]
  refine ⟨h.extend _ _ rfl, _, stamped_concat (e := .ended ending replies) rfl s.trace, ?_⟩
  rw [number]
  exact stamped_concat (e := .ended ending replies') rfl t.trace

lemma Agrees.delete (h : s.Agrees t) (obj : Json) : EndAgrees Equal (s.delete obj) (t.delete obj) := by
  unfold Session.delete
  split
  · exact .error _ h
  · exact .ok rfl (h.removed _)

lemma Agrees.sweepStart (h : s.Agrees t) : s.sweepStart.Agrees t.sweepStart := by
  unfold Session.sweepStart
  rw [h.setup]
  exact (h.log _ _).setLocked _

variable {m : Meanwhile} (hm : KeepsAgreement m)
include hm

lemma Agrees.fetch (h : s.Agrees t) (pool : String) (c : Credentials) :
    EndAgrees SameEnd (s.fetch m pool c) (t.fetch m pool c) := by
  unfold Session.fetch
  rw [h.setup]
  split
  · exact .error _ h
  · simp only [run_eq, h.world]
    have after := hm.agrees (t.world.takeOutcome pool).1.meanwhile _ _
      (h.launch pool (Command.status t.cache.setup.command pool c))
    obtain ⟨ended, number, stamped, stamped'⟩ := after.ended (t.world.takeOutcome pool).1.ending _ _
    exact ended.conclude stamped stamped' pool _ _

lemma Agrees.fetchRecord (h : s.Agrees t) (pool ns : Json) :
    EndAgrees (fun u v => Record.Agrees u.trace v.trace) (s.fetchRecord m pool ns) (t.fetchRecord m pool ns) := by
  unfold Session.fetchRecord
  rw [h.setup]
  split
  · exact .error _ h
  · next n _ =>
    have hr := h.resolvePermitted n false
    generalize s.resolvePermitted n false = r at hr ⊢
    generalize t.resolvePermitted n false = r' at hr ⊢
    cases hr with
    | error e hs => exact .error e hs
    | @ok c _ u v same hs =>
      cases same
      cases pool with
      | string p =>
        have hf := hs.fetch hm (Text.asString p) c
        simp only
        generalize u.fetch m (Text.asString p) c = f at hf ⊢
        generalize v.fetch m (Text.asString p) c = f' at hf ⊢
        cases hf with
        | error e hs => exact .error e hs
        | ok fetched hs =>
          obtain ⟨rfl, stamps⟩ := fetched
          exact .ok ⟨rfl, rfl, rfl, stamps⟩ hs
      | _ => exact .error _ hs

/-! ## Writing and sweeping -/

lemma Agrees.add (h : s.Agrees t) (obj : Json) : EndAgrees Equal (s.add m obj) (t.add m obj) := by
  unfold Session.add
  split
  · exact .error _ h
  · next pool _ =>
    split
    · have hf := h.fetchRecord hm pool.name pool.ns
      generalize s.fetchRecord m pool.name pool.ns = r at hf ⊢
      generalize t.fetchRecord m pool.name pool.ns = r' at hf ⊢
      cases hf with
      | error e hs => exact .error e hs
      | ok fetched hs => exact .ok rfl (hs.stored _ fetched)
    · exact .ok rfl (h.log _ _)

lemma Agrees.addAll (h : s.Agrees t) (items : List Json) : EndAgrees Equal (s.addAll m items) (t.addAll m items) := by
  induction items generalizing s t with
  | nil => exact .ok rfl h
  | cons item rest ih =>
    have ha := h.add hm item
    unfold Session.addAll
    generalize s.add m item = r at ha ⊢
    generalize t.add m item = r' at ha ⊢
    cases ha with
    | error e hs => exact .error e hs
    | ok _ hs => exact ih hs

lemma Agrees.replace (h : s.Agrees t) (items : Json) : EndAgrees Equal (s.replace m items) (t.replace m items) := by
  unfold Session.replace
  simp only
  split
  · exact h.cleared.addAll hm _
  · exact .error _ h.cleared

lemma Agrees.refresh (h : s.Agrees t) (held : Bool) (uid : String) {r r' : Record}
    (hr : Record.Agrees s.trace t.trace r r') (tally : Tally) :
    EndAgrees Equal (s.refresh m held uid r tally) (t.refresh m held uid r' tally) := by
  have hf := h.fetchRecord hm (.ofString r.pool) (.ofString r.ns)
  have su := evolves_fetchRecord hm.evolves s (.ofString r.pool) (.ofString r.ns)
  have tv := evolves_fetchRecord hm.evolves t (.ofString r.pool) (.ofString r.ns)
  unfold Session.refresh
  rw [← hr.pool, ← hr.ns]
  generalize s.fetchRecord m (.ofString r.pool) (.ofString r.ns) = q at hf su ⊢
  generalize t.fetchRecord m (.ofString r.pool) (.ofString r.ns) = q' at hf tv ⊢
  cases hf with
  | error e hs =>
    simp only
    split
    · exact .ok rfl (hs.log _ _)
    · exact .error _ hs
  | ok fetched hs =>
    simp only [hs.stillHolds_eq uid (agrees_later su tv hr)]
    split
    · exact .ok rfl (hs.refreshed _ fetched)
    · exact .ok rfl hs

/-- Entries of two stores with the same keys, whose records agree. -/
def EntriesAgree (s t : Session) (entries entries' : List (String × Record)) : Prop :=
  List.Forall₂ (fun e e' => e.1 = e'.1 ∧ Record.Agrees s.trace t.trace e.2 e'.2) entries entries'

lemma Agrees.sweep (h : s.Agrees t) (held : Bool) (tally : Tally) {entries entries' : List (String × Record)}
    (he : EntriesAgree s t entries entries') :
    EndAgrees Equal (s.sweep m held tally entries) (t.sweep m held tally entries') := by
  induction entries generalizing s t tally entries' with
  | nil =>
    cases he
    exact .ok rfl h
  | cons entry rest ih =>
    obtain ⟨uid, r⟩ := entry
    cases he with
    | @cons _ entry' _ rest' hr hrest =>
      obtain ⟨_, r'⟩ := entry'
      obtain ⟨rfl, hr⟩ := hr
      have hrefresh := h.refresh hm held uid hr tally
      have su := evolves_refresh hm.evolves s held uid r tally
      have tv := evolves_refresh hm.evolves t held uid r' tally
      simp only [Session.sweep]
      generalize s.refresh m held uid r tally = q at hrefresh su ⊢
      generalize t.refresh m held uid r' tally = q' at hrefresh tv ⊢
      cases hrefresh with
      | error e hs => exact .error e hs
      | ok same hs =>
        cases same
        exact ih hs _ (hrest.imp fun _ _ he => ⟨he.1, agrees_later su tv he.2⟩)

lemma Agrees.resync (h : s.Agrees t) : EndAgrees Equal (s.resync m) (t.resync m) := by
  have entries : EntriesAgree s.sweepStart t.sweepStart s.cache.records.entries t.cache.records.entries :=
    h.records.imp fun _ _ he => ⟨he.1, agrees_later (evolves_sweepStart s) (evolves_sweepStart t) he.2⟩
  have hs := h.sweepStart.sweep hm t.cache.setup.serialize ⟨0, 0, 0⟩ entries
  rw [resync_eq, resync_eq, h.setup]
  generalize s.sweepStart.sweep m t.cache.setup.serialize ⟨0, 0, 0⟩ s.cache.records.entries = q at hs ⊢
  generalize t.sweepStart.sweep m t.cache.setup.serialize ⟨0, 0, 0⟩ t.cache.records.entries = q' at hs ⊢
  cases hs with
  | error e hs => exact .error e (hs.setLocked false)
  | ok same hs =>
    cases same
    exact .ok rfl ((hs.setLocked false).log _ _)

/-! ## Steps -/

lemma Agrees.handle (h : s.Agrees t) (event obj : Json) (ns name : String) :
    EndAgrees Equal (s.handle m event obj ns name) (t.handle m event obj ns name) := by
  have answered {r r' : Except Failure Unit × Session} (hr : EndAgrees Equal r r') :
      EndAgrees Equal (answerEvent ns name r) (answerEvent ns name r') := by
    cases hr with
    | ok _ hs => exact .ok rfl hs
    | error e hs =>
      cases e with
      | cache e => exact .error _ (hs.note _)
      | _ => exact .error _ hs
  unfold Session.handle
  split
  · split
    · exact .error _ h
    · split
      · exact answered (h.delete obj)
      · exact answered (h.add hm obj)
  · exact .error _ h

end

/-- Operations that end in agreement lead to sessions that agree. -/
lemma EndAgrees.agrees {α : Type} {R : Session → Session → α → α → Prop} {r r' : Except Failure α × Session}
    (h : EndAgrees R r r') : r.2.Agrees r'.2 := by
  cases h with
  | ok _ hs => exact hs
  | error _ hs => exact hs

/-- Operations with the same result give the same reply. -/
lemma EndAgrees.reply_eq {α : Type} {r r' : Except Failure α × Session} (h : EndAgrees Equal r r') (f : α → Answer) :
    (Reply.ofResult f r).1 = (Reply.ofResult f r').1 := by
  cases h with
  | ok same _ => rw [same]; rfl
  | error _ _ => rfl

section
variable {m : Meanwhile} (hm : KeepsAgreement m) {s t : Session}
include hm

lemma Agrees.perform (h : s.Agrees t) (step : Step) : (s.perform m step).2.Agrees (t.perform m step).2 := by
  cases step with
  | add obj => simpa [Session.perform] using (h.add hm obj).agrees
  | update obj => simpa [Session.perform] using (h.add hm obj).agrees
  | delete obj => simpa [Session.perform] using (h.delete obj).agrees
  | replace items => simpa [Session.perform] using (h.replace hm items).agrees
  | resync => simpa [Session.perform] using (h.resync hm).agrees
  | event event obj ns name => simpa [Session.perform] using (h.handle hm event obj ns name).agrees
  | resolve ns refresh => simpa [Session.perform] using (h.resolve ns refresh).agrees
  | invalidate ns => simpa [Session.perform] using h.invalidate ns
  | isAllowed ns => simpa [Session.perform] using h
  | setObject name response =>
    simp only [Session.perform, h.world]
    exact h.withWorld _
  | removeObject name =>
    simp only [Session.perform, h.world]
    exact h.withWorld _
  | setEndings pool outcomes =>
    simp only [Session.perform, h.world]
    exact h.withWorld _
  | _ => exact h

lemma Agrees.attempt (h : s.Agrees t) (step : Step) : (s.attempt m step).2.Agrees (t.attempt m step).2 := by
  unfold Session.attempt
  rw [h.locked]
  split
  · exact h
  · exact h.perform hm step

lemma Agrees.attemptAll (h : s.Agrees t) (steps : List Step) :
    (s.attemptAll m steps).2.Agrees (t.attemptAll m steps).2 := by
  induction steps generalizing s t with
  | nil => exact h
  | cons step rest ih => exact ih (h.attempt hm step)

end

/-- However deep steps are nested, they keep sessions in agreement. -/
theorem keepsAgreement_nested (depth : ℕ) : KeepsAgreement (nested depth) := by
  refine ⟨evolves_nested depth, ?_⟩
  induction depth with
  | zero => exact fun _ _ _ h => h
  | succ depth ih => exact fun steps _ _ h => h.attemptAll ⟨evolves_nested depth, ih⟩ steps

end Session
end ReplicaWatch
