import Mathlib
import ReplicaWatch.Proofs.Sweeping

/-! Two ways to sweep: under the lock from start to end, or without it. Main statement: where steps that others take
within the commands of sweeps leave the store alone, both ways come to the same, but for the lock that commands
find. -/
namespace ReplicaWatch

def Reply.isBlocked : Reply → Bool
  | blocked => true
  | _ => false

namespace Event

/-- Whether no step that others took within a command was blocked, as the replies to them tell. -/
def isUnblocked : Event → Bool
  | ended _ replies => replies.all fun reply => !reply.isBlocked
  | _ => true

/-- The event without the lock that a command found. -/
def unlocked : Event → Event
  | started args timeout _ => started args timeout false
  | e => e

end Event

namespace Session

/-- A step is blocked exactly if it is an operation of the store and attempted while the lock is held. -/
lemma isBlocked_attempt_iff (s : Session) (m : Meanwhile) (step : Step) :
    (s.attempt m step).1.isBlocked = true ↔ s.cache.locked = true ∧ step.isLockFree = false := by
  have performed : (s.perform m step).1.isBlocked = false := by
    have reply {α : Type} (f : α → Answer) (r : Except Failure α × Session) :
        (Reply.ofResult f r).1.isBlocked = false := by
      obtain ⟨result, t⟩ := r
      cases result <;> rfl
    cases step <;> first | rfl | exact reply _ _
  cases held : s.cache.locked with
  | false => simp [attempt_of_free held, performed]
  | true =>
    rw [attempt_of_locked held]
    cases free : step.isLockFree with
    | true => simp [performed]
    | false => simp [Reply.isBlocked]

/-- No step was blocked that others took within a command. -/
def Unblocked (s : Session) : Prop := ∀ e ∈ s.trace, e.isUnblocked = true

lemma Unblocked.of_append {s t : Session} {events : List Event} (h : t.trace = s.trace ++ events) (ht : t.Unblocked) :
    s.Unblocked := fun e he => ht e (by rw [h]; exact List.mem_append_left _ he)

lemma Unblocked.of_evolves {s t : Session} (h : Evolves s t) (ht : t.Unblocked) : s.Unblocked := by
  obtain ⟨events, htrace, -, -⟩ := h.replay
  exact ht.of_append htrace

/-- The session in which no sweep holds the lock. -/
def unlocked (s : Session) : Session :=
  ⟨{ s.cache with setup := { s.cache.setup with serialize := false }, locked := false }, s.world,
    s.trace.map Event.unlocked⟩

/-- What comes of an operation, in the session in which no sweep holds the lock. -/
def released {α : Type} (r : α × Session) : α × Session := (r.1, r.2.unlocked)

/-! ## Operations of the resolver -/

section
variable (s : Session)

@[simp] lemma unlocked_note (e : Event) : (s.note e).unlocked = s.unlocked.note e.unlocked := by
  simp [unlocked, note]

@[simp] lemma unlocked_log (level : Log.Level) (text : String) :
    (s.log level text).unlocked = s.unlocked.log level text := by
  unfold log
  split
  · next logging => exact (s.unlocked_note _).trans (if_pos logging).symm
  · next silent => exact (if_neg silent).symm

lemma unlocked_setLocked (locked : Bool) : (s.setLocked locked).unlocked = s.unlocked := rfl

@[simp] lemma unlocked_change (change : Change) : (s.change change).unlocked = s.unlocked.change change := by
  cases change <;> simp [unlocked, Session.change, Cache.apply, Event.unlocked]

lemma unlocked_lookup (ns : String) : s.unlocked.lookup ns = released (s.lookup ns) := by
  have asked (s : Session) (name : ObjectName) : s.unlocked.ask name = released (s.ask name) := by
    simp [ask, released, Event.unlocked]
    rfl
  simp only [lookup, asked, released]
  split
  · rfl
  · split <;> rfl

lemma unlocked_learn (ns : String) : s.unlocked.learn ns = released (s.learn ns) := by
  simp only [learn, unlocked_lookup]
  generalize s.lookup ns = r
  obtain ⟨result, t⟩ := r
  cases result with
  | ok c => simp [released]
  | error e =>
    simp only [released]
    split <;> simp

lemma unlocked_resolvePermitted (ns : String) (refresh : Bool) :
    s.unlocked.resolvePermitted ns refresh = released (s.resolvePermitted ns refresh) := by
  have known : s.unlocked.cache.known = s.cache.known := rfl
  simp only [resolvePermitted, unlocked_learn, known]
  split
  · split <;> rfl
  · rfl

lemma unlocked_resolve (ns : Json) (refresh : Bool) :
    s.unlocked.resolve ns refresh = released (s.resolve ns refresh) := by
  have permit : s.unlocked.cache.setup.permit ns = s.cache.setup.permit ns := rfl
  simp only [resolve, unlocked_resolvePermitted, permit]
  split <;> rfl

lemma unlocked_invalidate (ns : Json) : s.unlocked.invalidate ns = released (s.invalidate ns) := by
  cases ns with
  | null => simp [invalidate, released]
  | string t =>
    simp only [invalidate]
    split <;> simp [released]
  | _ => rfl

lemma unlocked_delete (obj : Json) : s.unlocked.delete obj = released (s.delete obj) := by
  simp only [delete]
  split
  · rfl
  · simp [released]

lemma unlocked_logFailure (exit : String) (args : List String) (output : List UInt8) :
    s.unlocked.logFailure exit args output = (s.logFailure exit args output).unlocked := by
  simp only [logFailure]
  split <;> simp

lemma unlocked_conclude (pool : String) (args : List String) (ending : Ending) :
    s.unlocked.conclude pool args ending = released (s.conclude pool args ending) := by
  cases ending with
  | finished output =>
    simp only [conclude]
    split <;> rfl
  | exited code output => simp [conclude, released, unlocked_logFailure]
  | timedOut output =>
    simp only [conclude, released, unlocked_logFailure]
    rfl
  | unstarted number => rfl
  | uncallable fault => rfl

lemma unlocked_launch (pool : String) (args : List String) :
    s.unlocked.launch pool args = (s.launch pool args).unlocked := by
  simp [launch, unlocked, note, Event.unlocked]

end

/-! ## Operations that run commands -/

/-- Steps of others come to the same in the session in which no sweep holds the lock, if none of them is blocked. -/
def Released (m : Meanwhile) : Prop :=
  ∀ steps s, s.cache.setup.serialize = true → (m steps s).2.Unblocked →
    (∀ reply ∈ (m steps s).1, reply.isBlocked = false) → m steps s.unlocked = released (m steps s)

section
variable {m : Meanwhile} (hm : Orderly m) (same : Released m)
variable {s : Session} (serialize : s.cache.setup.serialize = true)
include same serialize

lemma released_run {pool : String} {args : List String} (smooth : (s.run m pool args).2.Unblocked) :
    s.unlocked.run m pool args = released (s.run m pool args) := by
  have world : s.unlocked.world = s.world := rfl
  rw [run_eq] at smooth ⊢
  rw [run_eq, world, unlocked_launch]
  have during : ((m (s.world.takeOutcome pool).1.meanwhile (s.launch pool args)).2).Unblocked :=
    fun e he => smooth e (List.mem_append_left _ he)
  have replies : ∀ reply ∈ (m (s.world.takeOutcome pool).1.meanwhile (s.launch pool args)).1,
      reply.isBlocked = false := by
    simpa [Event.isUnblocked] using smooth _ (List.mem_append_right _ (List.mem_singleton_self _))
  rw [same _ (s.launch pool args) serialize during replies]
  simp [released, Event.unlocked]

lemma released_fetch {pool : String} {c : Credentials} (smooth : (s.fetch m pool c).2.Unblocked) :
    s.unlocked.fetch m pool c = released (s.fetch m pool c) := by
  have setup : s.unlocked.cache.setup.command = s.cache.setup.command := rfl
  simp only [fetch, setup] at smooth ⊢
  split
  · rfl
  · next given =>
    simp only [given] at smooth
    have ran := smooth.of_evolves (evolves_conclude _ _ _ _)
    rw [released_run same serialize ran]
    exact unlocked_conclude _ _ _ _

lemma released_fetchRecord {pool ns : Json} (smooth : (s.fetchRecord m pool ns).2.Unblocked) :
    s.unlocked.fetchRecord m pool ns = released (s.fetchRecord m pool ns) := by
  have permit : s.unlocked.cache.setup.permit ns = s.cache.setup.permit ns := rfl
  simp only [fetchRecord, permit, unlocked_resolvePermitted] at smooth ⊢
  split
  · rfl
  · next n hn =>
    have moves := evolves_resolvePermitted s (Setup.permit_eq_ok_iff.1 hn).2 false
    simp only [hn] at smooth
    generalize s.resolvePermitted n false = r at moves smooth ⊢
    obtain ⟨result, t⟩ := r
    cases result with
    | error e => rfl
    | ok c =>
      cases pool with
      | string p =>
        have ran : (t.fetch m (Text.asString p) c).2.Unblocked := by
          simp only at smooth
          split at smooth
          · next h =>
            rw [h]
            exact smooth
          · next h =>
            rw [h]
            exact smooth
        have unlocked := released_fetch same (moves.setup_eq ▸ serialize) ran
        simp only [released] at unlocked ⊢
        simp only [unlocked]
        generalize t.fetch m (Text.asString p) c = f
        obtain ⟨result, u⟩ := f
        cases result with
        | error e => rfl
        | ok status => simp [Session.unlocked]
      | _ => rfl

lemma released_add {obj : Json} (smooth : (s.add m obj).2.Unblocked) :
    s.unlocked.add m obj = released (s.add m obj) := by
  simp only [add] at smooth ⊢
  split
  · rfl
  · next pool hp =>
    simp only [hp] at smooth
    split
    · next mirrored =>
      simp only [mirrored, if_true] at smooth
      have fetched : (s.fetchRecord m pool.name pool.ns).2.Unblocked := by
        split at smooth
        · next h =>
          rw [h]
          exact smooth
        · next h =>
          rw [h]
          exact smooth.of_append (change_trace _ _)
      rw [released_fetchRecord same serialize fetched]
      simp only [released]
      generalize s.fetchRecord m pool.name pool.ns = r
      obtain ⟨result, t⟩ := r
      cases result with
      | error e => rfl
      | ok record => simp
    · simp [released]

include hm

lemma released_addAll {items : List Json} (smooth : (s.addAll m items).2.Unblocked) :
    s.unlocked.addAll m items = released (s.addAll m items) := by
  induction items generalizing s with
  | nil => rfl
  | cons item rest ih =>
    have moves := evolves_add hm.evolves s item
    have others (t : Session) := evolves_addAll hm.evolves t rest
    have first : (s.add m item).2.Unblocked := by
      simp only [addAll] at smooth
      split at smooth
      · next h =>
        rw [h]
        exact smooth
      · next h =>
        rw [h]
        exact smooth.of_evolves (others _)
    simp only [addAll, released_add same serialize first, released] at smooth ⊢
    generalize s.add m item = r at moves smooth ⊢
    obtain ⟨result, t⟩ := r
    cases result with
    | error e => rfl
    | ok _ => exact ih (moves.setup_eq ▸ serialize) smooth

lemma released_replace {items : Json} (smooth : (s.replace m items).2.Unblocked) :
    s.unlocked.replace m items = released (s.replace m items) := by
  have cleared : s.unlocked.change .cleared = (s.change .cleared).unlocked := (s.unlocked_change _).symm
  simp only [replace, cleared] at smooth ⊢
  split
  · next all listed =>
    simp only [listed] at smooth
    have serialize : (s.change .cleared).cache.setup.serialize = true := serialize
    exact released_addAll hm same serialize smooth
  · rfl

/-! ## Sweeps -/

/-- A sweep that holds the lock and one that does not come to the same, since what they are to refresh is there. -/
lemma released_refresh {start : Session} {uid : String} {record : Record} {rest : List (String × Record)}
    (ahead : Ahead start true s ((uid, record) :: rest)) {tally : Tally}
    (smooth : (s.refresh m true uid record tally).2.Unblocked) :
    s.unlocked.refresh m false uid record tally = released (s.refresh m true uid record tally) := by
  have stored := ahead.calm_stored hm (.inl rfl) (.ofString record.pool) (.ofString record.ns)
  have fetched : (s.fetchRecord m (.ofString record.pool) (.ofString record.ns)).2.Unblocked := by
    have cases := refresh_cases s m true uid record tally
    generalize s.fetchRecord m (.ofString record.pool) (.ofString record.ns) = r at cases ⊢
    generalize s.refresh m true uid record tally = r' at cases smooth
    obtain ⟨result, u⟩ := r
    cases cases with
    | wrote may => exact smooth.of_append (change_trace _ _)
    | skipped yields => exact smooth
    | failed cause => exact smooth.of_append (log_trace _ _ _)
    | ended other => exact smooth
  simp only [refresh, released_fetchRecord same serialize fetched, released]
  generalize s.fetchRecord m (.ofString record.pool) (.ofString record.ns) = r at stored
  obtain ⟨result, u⟩ := r
  cases result with
  | error e =>
    simp only
    split <;> simp
  | ok fresh =>
    have holds : u.unlocked.cache.stillHolds uid record = true := by
      change (u.cache.records.get? uid).any _ = true
      simp [stored]
    simp [holds]

lemma released_sweep {start : Session} {entries : List (String × Record)} (ahead : Ahead start true s entries)
    {tally : Tally} (smooth : (s.sweep m true tally entries).2.Unblocked) :
    s.unlocked.sweep m false tally entries = released (s.sweep m true tally entries) := by
  induction entries generalizing s tally with
  | nil => rfl
  | cons entry rest ih =>
    have moves := evolves_refresh hm.evolves s true entry.1 entry.2 tally
    have others (t : Session) (tally : Tally) := evolves_sweep hm.evolves t true tally rest
    have first : (s.refresh m true entry.1 entry.2 tally).2.Unblocked := by
      simp only [sweep] at smooth
      split at smooth
      · next h =>
        rw [h]
        exact smooth
      · next h =>
        rw [h]
        exact smooth.of_evolves (others _ _)
    have next {done : Tally} {t : Session} (h : s.refresh m true entry.1 entry.2 tally = (.ok done, t)) :
        Ahead start true t rest := ahead.next hm h
    simp only [sweep, released_refresh hm same serialize ahead first, released] at smooth ⊢
    generalize s.refresh m true entry.1 entry.2 tally = r at moves smooth next ⊢
    obtain ⟨result, t⟩ := r
    cases result with
    | error e => rfl
    | ok done => exact ih (moves.setup_eq ▸ serialize) (next rfl) smooth

lemma released_resync (smooth : (s.resync m).2.Unblocked) : s.unlocked.resync m = released (s.resync m) := by
  have start : s.unlocked.sweepStart = s.sweepStart.unlocked := by
    simp only [sweepStart, ← unlocked_log, unlocked_setLocked]
    rfl
  have short : s.unlocked.cache.setup.serialize = false := rfl
  have records : s.unlocked.cache.records = s.cache.records := rfl
  have ahead := s.sweepStart_ahead
  rw [serialize] at ahead
  rw [resync_eq] at smooth ⊢
  rw [resync_eq, start, short, records]
  rw [serialize] at smooth ⊢
  have swept : (s.sweepStart.sweep m true ⟨0, 0, 0⟩ s.cache.records.entries).2.Unblocked := by
    split at smooth
    · next h =>
      rw [h]
      exact smooth
    · next t h =>
      rw [h]
      have done : (t.setLocked false).Unblocked := smooth.of_append (log_trace _ _ _)
      exact done
  have serialized : s.sweepStart.cache.setup.serialize = true := (evolves_sweepStart s).setup_eq ▸ serialize
  rw [released_sweep hm same serialized ahead swept]
  generalize s.sweepStart.sweep m true ⟨0, 0, 0⟩ s.cache.records.entries = r
  obtain ⟨result, t⟩ := r
  cases result with
  | error e => rfl
  | ok tally =>
    simp only [released, unlocked_log, unlocked_setLocked]
    rfl

/-! ## Steps -/

omit hm same serialize in
lemma released_reply {α : Type} (f : α → Answer) (r : Except Failure α × Session) :
    Reply.ofResult f (released r) = released (Reply.ofResult f r) := by
  obtain ⟨result, t⟩ := r
  cases result <;> rfl

omit hm in
lemma released_handle {event obj : Json} {ns name : String} (smooth : (s.handle m event obj ns name).2.Unblocked) :
    s.unlocked.handle m event obj ns name = released (s.handle m event obj ns name) := by
  have answered (r : Except Failure Unit × Session) :
      answerEvent ns name (released r) = released (answerEvent ns name r) := by
    obtain ⟨result, t⟩ := r
    cases result with
    | ok _ => rfl
    | error e => cases e with
      | cache e => simp [answerEvent, released, Event.unlocked]
      | _ => rfl
  cases event with
  | object members =>
    cases typed : (Json.object members).member? "type" with
    | none => simp [handle, typed, released]
    | some type =>
      simp only [handle, typed] at smooth ⊢
      cases gone : isDeletion type with
      | true => simp only [unlocked_delete, if_true, answered]
      | false =>
        have added : (s.add m obj).2.Unblocked := by
          simp only [gone, Bool.false_eq_true, if_false] at smooth
          exact smooth.of_evolves (evolves_answerEvent (.refl _) _ _)
        simp only [Bool.false_eq_true, if_false, released_add same serialize added, answered]
  | _ => rfl

lemma released_perform {step : Step} (smooth : (s.perform m step).2.Unblocked) :
    s.unlocked.perform m step = released (s.perform m step) := by
  cases step with
  | add obj =>
    simp only [perform, Reply.ofResult_snd] at smooth ⊢
    rw [released_add same serialize smooth, released_reply]
  | update obj =>
    simp only [perform, Reply.ofResult_snd] at smooth ⊢
    rw [released_add same serialize smooth, released_reply]
  | delete obj => simp only [perform, unlocked_delete, released_reply]
  | replace items =>
    simp only [perform, Reply.ofResult_snd] at smooth ⊢
    rw [released_replace hm same serialize smooth, released_reply]
  | resync =>
    simp only [perform, Reply.ofResult_snd] at smooth ⊢
    rw [released_resync hm same serialize smooth, released_reply]
  | event event obj ns name =>
    simp only [perform, Reply.ofResult_snd] at smooth ⊢
    rw [released_handle same serialize smooth, released_reply]
  | resolve ns refresh => simp only [perform, unlocked_resolve, released_reply]
  | invalidate ns => simp only [perform, unlocked_invalidate, released_reply]
  | isAllowed ns => exact released_reply Answer.allowed (s.cache.setup.isAllowed ns, s)
  | _ => rfl

/-- A step that is not blocked is performed, in both sessions. -/
lemma released_attempt {step : Step} (smooth : (s.attempt m step).2.Unblocked)
    (goes : (s.attempt m step).1.isBlocked = false) : s.unlocked.attempt m step = released (s.attempt m step) := by
  have performed : s.attempt m step = s.perform m step := by
    have needs : ¬(s.cache.locked = true ∧ step.isLockFree = false) := by
      rw [← isBlocked_attempt_iff s m step, goes]
      exact Bool.false_ne_true
    cases held : s.cache.locked with
    | false => exact attempt_of_free held m step
    | true =>
      have free : step.isLockFree = true := by
        simpa [held] using needs
      rw [attempt_of_locked held, free]
      rfl
  rw [performed] at smooth ⊢
  rw [attempt_of_free rfl]
  exact released_perform hm same serialize smooth

lemma released_attemptAll {steps : List Step} (smooth : (s.attemptAll m steps).2.Unblocked)
    (go : ∀ reply ∈ (s.attemptAll m steps).1, reply.isBlocked = false) :
    s.unlocked.attemptAll m steps = released (s.attemptAll m steps) := by
  induction steps generalizing s with
  | nil => rfl
  | cons step rest ih =>
    have moves := evolves_attempt hm.evolves s step
    have first := smooth.of_evolves (evolves_attemptAll hm.evolves (s.attempt m step).2 rest)
    have replied : (s.attempt m step).1.isBlocked = false := go _ List.mem_cons_self
    have others : (s.attempt m step).2.unlocked.attemptAll m rest =
        released ((s.attempt m step).2.attemptAll m rest) :=
      ih (moves.setup_eq ▸ serialize) smooth fun reply hr => go reply (List.mem_cons_of_mem _ hr)
    simp only [attemptAll, released_attempt hm same serialize first replied, released, others]

end

lemma released_nested (depth : ℕ) : Released (nested depth) := by
  induction depth with
  | zero => exact fun _ _ _ _ _ => rfl
  | succ depth ih =>
    exact fun steps s serialize smooth go => released_attemptAll (orderly_nested depth) ih serialize smooth go

/-! ## Runs -/

lemma takeAll_append (s : Session) (steps more : List Step) :
    (s.takeAll (steps ++ more)).2 = ((s.takeAll steps).2.takeAll more).2 := by
  induction steps generalizing s with
  | nil => rfl
  | cons step rest ih => exact ih _

lemma evolves_takeAll (s : Session) (steps : List Step) : Evolves s (s.takeAll steps).2 := by
  induction steps generalizing s with
  | nil => exact .refl s
  | cons step rest ih => exact (evolves_attempt (evolves_nested _) s step).trans (ih _)

lemma released_takeAll {s : Session} (serialize : s.cache.setup.serialize = true) (free : s.cache.locked = false)
    {steps : List Step} (smooth : (s.takeAll steps).2.Unblocked) :
    s.unlocked.takeAll steps = released (s.takeAll steps) := by
  induction steps generalizing s with
  | nil => rfl
  | cons step rest ih =>
    have moves : Evolves s (s.step step).2 := evolves_attempt (evolves_nested _) s step
    have still : (s.step step).2.cache.locked = false := (keeps_attempt (keeps_nested _) s step).locked.trans free
    have goes : (s.step step).1.isBlocked = false := by
      rw [← Bool.not_eq_true, Session.step, isBlocked_attempt_iff, free]
      simp
    have before : (s.step step).2.Unblocked := smooth.of_evolves (evolves_takeAll _ rest)
    have first : s.unlocked.step step = released (s.step step) :=
      released_attempt (orderly_nested _) (released_nested _) serialize before goes
    have others : (s.step step).2.unlocked.takeAll rest = released ((s.step step).2.takeAll rest) :=
      ih (moves.setup_eq ▸ serialize) still smooth
    simp only [takeAll, first, released, others]

/-- A sweep that holds the lock skips nothing. -/
lemma sweep_skipped {s t : Session} {m : Meanwhile} {tally done : Tally} {entries : List (String × Record)}
    (h : s.sweep m true tally entries = (.ok done, t)) : done.skipped = tally.skipped := by
  induction entries generalizing s tally with
  | nil =>
    cases h
    rfl
  | cons entry rest ih =>
    simp only [sweep] at h
    split at h
    · cases h
    · next counted u hr =>
      have cases := refresh_cases s m true entry.1 entry.2 tally
      rw [hr] at cases
      rw [ih h]
      generalize s.fetchRecord m (.ofString entry.2.pool) (.ofString entry.2.ns) = r at cases
      obtain ⟨_, v⟩ := r
      cases cases with
      | wrote may => rfl
      | skipped yields => cases yields
      | failed cause => rfl

lemma resync_skipped {s t : Session} {m : Meanwhile} {tally : Tally} (serialize : s.cache.setup.serialize = true)
    (h : s.resync m = (.ok tally, t)) : tally.skipped = 0 := by
  obtain ⟨u, swept⟩ := resync_swept h
  rw [serialize] at swept
  exact sweep_skipped swept

/-- Only sweeps answer with a tally. -/
lemma attempt_skipped {s : Session} {m : Meanwhile} {step : Step} {tally : Tally}
    (serialize : s.cache.setup.serialize = true) (h : (s.attempt m step).1 = .answer (.swept tally)) :
    tally.skipped = 0 := by
  have answered {α : Type} {f : α → Answer} {r : Except Failure α × Session}
      (h : (Reply.ofResult f r).1 = .answer (.swept tally)) : ∃ a, r = (.ok a, r.2) ∧ f a = .swept tally := by
    obtain ⟨result, t⟩ := r
    cases result with
    | ok a => exact ⟨a, rfl, Reply.answer.inj h⟩
    | error e => cases h
  unfold attempt at h
  split at h
  · cases h
  · cases step with
    | resync =>
      obtain ⟨done, swept, hd⟩ := answered h
      cases hd
      exact resync_skipped serialize swept
    | add _ | update _ | delete _ | replace _ | isAllowed _ | resolve _ _ | invalidate _ | event _ _ _ _ =>
      obtain ⟨_, _, hd⟩ := answered h
      cases hd
    | _ => cases h

lemma takeAll_skipped {s : Session} (serialize : s.cache.setup.serialize = true) {steps : List Step} {tally : Tally}
    (h : .answer (.swept tally) ∈ (s.takeAll steps).1) : tally.skipped = 0 := by
  induction steps generalizing s with
  | nil => cases h
  | cons step rest ih =>
    have moves : Evolves s (s.step step).2 := evolves_attempt (evolves_nested _) s step
    rcases List.mem_cons.1 h with h | h
    · exact attempt_skipped serialize h.symm
    · exact ih (moves.setup_eq ▸ serialize) h

/-- A cache that sweeps under the lock or not, before anything happens. -/
def starting (cache : Cache) (world : World) (serialize : Bool) : Session :=
  ⟨{ cache with setup := { cache.setup with serialize := serialize }, locked := false }, world, []⟩

/-- Two caches that differ only in how they sweep take the same steps in the same surroundings. Suppose that no step
is blocked where sweeps hold the lock. Since exactly the operations of the store that find the lock held are, this
is to say that the steps that others take within the commands of sweeps leave the store alone. Then after each
number of steps both caches have replied the same, hold the same and have left the same trace, but for the lock that
commands found held; and no sweep has skipped anything. -/
theorem strategies_agree (cache : Cache) (world : World) (steps : List Step)
    (unblocked : ((starting cache world true).takeAll steps).2.Unblocked) (n : ℕ) :
    ((starting cache world false).takeAll (steps.take n)).1 = ((starting cache world true).takeAll (steps.take n)).1 ∧
    ((starting cache world false).takeAll (steps.take n)).2.cache.records =
      ((starting cache world true).takeAll (steps.take n)).2.cache.records ∧
    ((starting cache world false).takeAll (steps.take n)).2.cache.known =
      ((starting cache world true).takeAll (steps.take n)).2.cache.known ∧
    ((starting cache world false).takeAll (steps.take n)).2.world =
      ((starting cache world true).takeAll (steps.take n)).2.world ∧
    ((starting cache world false).takeAll (steps.take n)).2.trace =
      ((starting cache world true).takeAll (steps.take n)).2.trace.map Event.unlocked ∧
    ∀ tally, .answer (.swept tally) ∈ ((starting cache world true).takeAll (steps.take n)).1 → tally.skipped = 0 := by
  have whole := takeAll_append (starting cache world true) (steps.take n) (steps.drop n)
  rw [List.take_append_drop] at whole
  have smooth : ((starting cache world true).takeAll (steps.take n)).2.Unblocked := by
    rw [whole] at unblocked
    exact unblocked.of_evolves (evolves_takeAll _ _)
  have same : (starting cache world false).takeAll (steps.take n) =
      released ((starting cache world true).takeAll (steps.take n)) := released_takeAll rfl rfl smooth
  rw [same]
  exact ⟨rfl, rfl, rfl, rfl, rfl, fun tally => takeAll_skipped rfl⟩

/-- While a pool is added, another one is deleted and a sweep runs; and while the next sweep runs a command, the key
is changed and asked for, and the pool gets other commands to come. -/
def steadyWorld : World :=
  Sample.world "a2V5"
    [⟨.finished (Sample.document "OK"), [.delete (Sample.pool "u2" "pool1" "ns1"), .resync]⟩,
      ⟨.finished (Sample.document "ERROR"), [.setObject (.secretOf "ns1") (Sample.secret "bmV3"), .invalidate .null,
        .resolve (.ofString "ns1") true, .setEndings "pool1" [⟨.timedOut [], []⟩]]⟩]

def steadySteps : List Step := [.add (Sample.pool "u1" "pool1" "ns1"), .resync, .resync]

theorem steady_strategies_agree :
    ((starting (.new (Sample.setup true)) steadyWorld true).takeAll steadySteps).2.Unblocked ∧
      ((starting (.new (Sample.setup true)) steadyWorld false).takeAll (steadySteps.take 3)).2.trace =
        ((starting (.new (Sample.setup true)) steadyWorld true).takeAll (steadySteps.take 3)).2.trace.map
          Event.unlocked ∧
      ((starting (.new (Sample.setup true)) steadyWorld false).takeAll
        (steadySteps.take 3)).2.cache.records.entries =
          [("u1", ⟨18, "pool1", "ns1", ⟨⟨"ERROR", "OK", "OK", .zero⟩, [], []⟩⟩)] := by
  have unblocked : ((starting (.new (Sample.setup true)) steadyWorld true).takeAll steadySteps).2.Unblocked := by
    unfold Unblocked
    decide +kernel
  obtain ⟨-, records, -, -, trace, -⟩ :=
    strategies_agree (.new (Sample.setup true)) steadyWorld steadySteps unblocked 3
  refine ⟨unblocked, trace, ?_⟩
  rw [records]
  decide +kernel

end Session
end ReplicaWatch
