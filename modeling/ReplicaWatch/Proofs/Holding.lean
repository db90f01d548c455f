import Mathlib
import ReplicaWatch.Proofs.Reachable

/-! Holding the lock. Operations of the resolver are quiet: they run no command and leave the store and the lock
alone. Main statement: whatever steps others take, they leave the lock as they found it, and they write nothing to
the store while it is held. -/
namespace ReplicaWatch

/-- Whether an event is no part of a command and writes nothing to the store. -/
def Event.isQuiet : Event → Bool
  | asked _ => true
  | logged _ => true
  | changed (.learned _ _) => true
  | changed (.forgot _) => true
  | changed .forgotAll => true
  | _ => false

namespace Session

/-- Only quiet events happen from one session to another. -/
structure Quiet (s t : Session) : Prop where
  events : ∃ events, t.trace = s.trace ++ events ∧ ∀ e ∈ events, e.isQuiet = true
  records : t.cache.records = s.cache.records
  locked : t.cache.locked = s.cache.locked

/-! ## Quiet operations -/

section
variable {s t u : Session}

lemma Quiet.refl (s : Session) : Quiet s s := ⟨⟨[], by simp, by simp⟩, rfl, rfl⟩

lemma Quiet.trans (h : Quiet s t) (h' : Quiet t u) : Quiet s u := by
  obtain ⟨l, hl, quiet⟩ := h.events
  obtain ⟨l', hl', quiet'⟩ := h'.events
  refine ⟨⟨l ++ l', by rw [hl', hl, List.append_assoc], fun e he => ?_⟩, h'.records.trans h.records,
    h'.locked.trans h.locked⟩
  exact (List.mem_append.1 he).elim (quiet e) (quiet' e)

lemma quiet_note (s : Session) {e : Event} (h : e.isQuiet = true) : Quiet s (s.note e) :=
  ⟨⟨[e], rfl, by simpa using h⟩, rfl, rfl⟩

lemma quiet_change (s : Session) {change : Change} (h : (Event.changed change).isQuiet = true) :
    Quiet s (s.change change) := by
  refine ⟨⟨[.changed change], rfl, by simpa using h⟩, ?_, by simp⟩
  cases change with
  | stored uid record => cases h
  | refreshed uid record => cases h
  | removed uid => cases h
  | cleared => cases h
  | _ => rfl

lemma quiet_log (s : Session) (level : Log.Level) (text : String) : Quiet s (s.log level text) := by
  unfold log
  split
  · exact quiet_note s rfl
  · exact .refl s

lemma quiet_lookup (s : Session) (ns : String) : Quiet s (s.lookup ns).2 := by
  have secret (s : Session) (name : ObjectName) : Quiet s (s.ask name).2 := quiet_note s rfl
  simp only [lookup]
  split
  · exact secret s _
  · split
    · exact (secret s _).trans (secret _ _)
    · exact (secret s _).trans (secret _ _)

lemma quiet_learn (s : Session) (ns : String) : Quiet s (s.learn ns).2 := by
  have h := s.quiet_lookup ns
  simp only [learn]
  split
  · next hl =>
    rw [hl] at h
    exact (h.trans (quiet_change _ rfl)).trans (quiet_log _ _ _)
  · next hl =>
    rw [hl] at h
    split
    · exact h.trans (quiet_log _ _ _)
    · exact h

lemma quiet_resolvePermitted (s : Session) (ns : String) (refresh : Bool) :
    Quiet s (s.resolvePermitted ns refresh).2 := by
  simp only [resolvePermitted]
  split
  · split
    · exact s.quiet_learn ns
    · exact .refl s
  · exact s.quiet_learn ns

lemma quiet_of_resolved {ns : String} {refresh : Bool} {result : Except Failure Credentials}
    (h : s.resolvePermitted ns refresh = (result, t)) : Quiet s t := by
  have quiet := s.quiet_resolvePermitted ns refresh
  rwa [h] at quiet

lemma quiet_resolve (s : Session) (ns : Json) (refresh : Bool) : Quiet s (s.resolve ns refresh).2 := by
  simp only [resolve]
  split
  · exact .refl s
  · exact s.quiet_resolvePermitted _ refresh

lemma quiet_invalidate (s : Session) (ns : Json) : Quiet s (s.invalidate ns).2 := by
  cases ns with
  | null => exact quiet_change s rfl
  | string t =>
    simp only [invalidate]
    split
    · exact quiet_change s rfl
    · exact .refl s
  | _ => exact .refl s

lemma quiet_logFailure (s : Session) (exit : String) (args : List String) (output : List UInt8) :
    Quiet s (s.logFailure exit args output) := by
  simp only [logFailure]
  split
  · exact (quiet_log _ _ _).trans (quiet_log _ _ _)
  · exact ((quiet_log _ _ _).trans (quiet_log _ _ _)).trans (quiet_log _ _ _)

lemma quiet_conclude (s : Session) (pool : String) (args : List String) (ending : Ending) :
    Quiet s (s.conclude pool args ending).2 := by
  cases ending with
  | finished output =>
    simp only [conclude]
    split <;> exact .refl s
  | exited code output => exact s.quiet_logFailure _ _ _
  | timedOut output => exact s.quiet_logFailure _ _ _
  | unstarted number => exact .refl s
  | uncallable fault => exact .refl s

/-- Steps that need no lock are quiet, but for what they change in the surroundings. -/
lemma quiet_perform {step : Step} (free : step.isLockFree = true) (s : Session) (m : Meanwhile) :
    Quiet s (s.perform m step).2 := by
  cases step with
  | resolve ns refresh => simpa [perform] using s.quiet_resolve ns refresh
  | invalidate ns => simpa [perform] using s.quiet_invalidate ns
  | setObject name response => exact ⟨⟨[], by simp [perform], by simp⟩, rfl, rfl⟩
  | removeObject name => exact ⟨⟨[], by simp [perform], by simp⟩, rfl, rfl⟩
  | setEndings pool outcomes => exact ⟨⟨[], by simp [perform], by simp⟩, rfl, rfl⟩
  | _ => cases free

end

/-! ## Fetching -/

/-- What a fetch comes to: it is refused, finds no credentials, has no text to name the pool by, or runs to the end
of its command. -/
inductive Fetches (s : Session) (m : Meanwhile) (pool ns : Json) : Except Failure Record × Session → Prop
  | refused {e} (h : s.cache.setup.permit ns = .error e) : Fetches s m pool ns (.error e, s)
  | unresolved {n e t} (permitted : s.cache.setup.permit ns = .ok n)
      (resolved : s.resolvePermitted n false = (.error e, t)) : Fetches s m pool ns (.error e, t)
  | misnamed {n c t} (permitted : s.cache.setup.permit ns = .ok n)
      (resolved : s.resolvePermitted n false = (.ok c, t)) (nameless : ∀ p, pool ≠ .string p) :
      Fetches s m pool ns (.error .wrongKind, t)
  | ended {n c t p result u} (permitted : s.cache.setup.permit ns = .ok n)
      (resolved : s.resolvePermitted n false = (.ok c, t)) (named : pool = .string p)
      (fetched : t.fetch m (Text.asString p) c = (result, u)) :
      Fetches s m pool ns (result.map (Record.mk u.trace.length (Text.asString p) n), u)

lemma fetchRecord_cases (s : Session) (m : Meanwhile) (pool ns : Json) :
    Fetches s m pool ns (s.fetchRecord m pool ns) := by
  unfold fetchRecord
  split
  · next refused => exact .refused refused
  · next permitted =>
    split
    · next resolved => exact .unresolved permitted resolved
    · next resolved =>
      cases pool with
      | string p =>
        simp only
        split
        · next fetched => exact .ended permitted resolved rfl fetched
        · next fetched => exact .ended permitted resolved rfl fetched
      | _ => exact .misnamed permitted resolved fun _ => by simp

/-! ## The lock -/

/-- The lock is as it was, and while it is held nothing is written to the store. -/
structure Keeps (s t : Session) : Prop where
  locked : t.cache.locked = s.cache.locked
  records : s.cache.locked = true → t.cache.records = s.cache.records

section
variable {s t u : Session}

lemma Keeps.refl (s : Session) : Keeps s s := ⟨rfl, fun _ => rfl⟩

lemma Keeps.trans (h : Keeps s t) (h' : Keeps t u) : Keeps s u :=
  ⟨h'.locked.trans h.locked, fun held => (h'.records (h.locked.trans held)).trans (h.records held)⟩

lemma Quiet.keeps (h : Quiet s t) : Keeps s t := ⟨h.locked, fun _ => h.records⟩

lemma keeps_change (free : s.cache.locked = false) (change : Change) : Keeps s (s.change change) :=
  ⟨by simp, fun held => by rw [free] at held; cases held⟩

/-- A step that is attempted while the lock is held needs no lock, or is blocked and changes nothing. -/
lemma attempt_of_locked (held : s.cache.locked = true) (m : Meanwhile) (step : Step) :
    s.attempt m step = if step.isLockFree then s.perform m step else (.blocked, s) := by
  cases free : step.isLockFree <;> simp [attempt, held, free]

lemma attempt_of_free (free : s.cache.locked = false) (m : Meanwhile) (step : Step) :
    s.attempt m step = s.perform m step := by
  simp [attempt, free]

end

section
variable {m : Meanwhile} (hm : ∀ steps s, Keeps s (m steps s).2)
include hm

lemma keeps_run (s : Session) (pool : String) (args : List String) : Keeps s (s.run m pool args).2 := by
  rw [run_eq]
  have begun : Keeps s (s.launch pool args) := ⟨rfl, fun _ => rfl⟩
  exact (begun.trans (hm _ _)).trans ⟨rfl, fun _ => rfl⟩

lemma keeps_fetch (s : Session) (pool : String) (c : Credentials) : Keeps s (s.fetch m pool c).2 := by
  simp only [fetch]
  split
  · exact .refl s
  · exact (keeps_run hm s _ _).trans (quiet_conclude _ _ _ _).keeps

lemma keeps_fetchRecord (s : Session) (pool ns : Json) : Keeps s (s.fetchRecord m pool ns).2 := by
  have cases := fetchRecord_cases s m pool ns
  generalize s.fetchRecord m pool ns = r at cases ⊢
  cases cases with
  | refused h => exact .refl s
  | unresolved _ resolved => exact (quiet_of_resolved resolved).keeps
  | misnamed _ resolved _ => exact (quiet_of_resolved resolved).keeps
  | @ended n c t p _ _ _ resolved _ fetched =>
    have hf := keeps_fetch hm t (Text.asString p) c
    rw [fetched] at hf
    exact (quiet_of_resolved resolved).keeps.trans hf

section
variable {s : Session} (free : s.cache.locked = false)
include free

lemma keeps_add (obj : Json) : Keeps s (s.add m obj).2 := by
  simp only [add]
  split
  · exact .refl s
  · next pool _ =>
    split
    · have hf := keeps_fetchRecord hm s pool.name pool.ns
      split
      · next h =>
        rw [h] at hf
        exact hf
      · next h =>
        rw [h] at hf
        exact hf.trans (keeps_change (hf.locked.trans free) _)
    · exact (quiet_log _ _ _).keeps

omit hm in
lemma keeps_delete (obj : Json) : Keeps s (s.delete obj).2 := by
  simp only [delete]
  split
  · exact .refl s
  · exact keeps_change free _

lemma keeps_addAll (items : List Json) : Keeps s (s.addAll m items).2 := by
  induction items generalizing s with
  | nil => exact .refl s
  | cons item rest ih =>
    have ha := keeps_add hm free item
    simp only [addAll]
    split
    · next h =>
      rw [h] at ha
      exact ha
    · next h =>
      rw [h] at ha
      exact ha.trans (ih (ha.locked.trans free))

lemma keeps_replace (items : Json) : Keeps s (s.replace m items).2 := by
  have cleared : Keeps s (s.change .cleared) := keeps_change free _
  simp only [replace]
  split
  · exact cleared.trans (keeps_addAll hm (cleared.locked.trans free) _)
  · exact cleared

end

lemma refresh_locked (s : Session) (held : Bool) (uid : String) (record : Record) (tally : Tally) :
    (s.refresh m held uid record tally).2.cache.locked = s.cache.locked := by
  have hf := (keeps_fetchRecord hm s (.ofString record.pool) (.ofString record.ns)).locked
  simp only [refresh]
  split
  · next h =>
    rw [h] at hf
    split <;> simpa using hf
  · next h =>
    rw [h] at hf
    split <;> simpa using hf

omit hm in
/-- However a sweep ends, the lock is free then. -/
lemma resync_free (s : Session) (m : Meanwhile) : (s.resync m).2.cache.locked = false := by
  rw [resync_eq]
  split
  · rfl
  · rw [log_cache]
    rfl

lemma keeps_handle {s : Session} (free : s.cache.locked = false) (event obj : Json) (ns name : String) :
    Keeps s (s.handle m event obj ns name).2 := by
  have answered {r : Except Failure Unit × Session} (h : Keeps s r.2) : Keeps s (answerEvent ns name r).2 := by
    unfold answerEvent
    split
    · exact h.trans (quiet_note _ rfl).keeps
    · exact h
  simp only [handle]
  split
  · split
    · exact .refl s
    · apply answered
      split
      · exact keeps_delete free obj
      · exact keeps_add hm free obj
  · exact .refl s

lemma keeps_perform {s : Session} (free : s.cache.locked = false) (step : Step) : Keeps s (s.perform m step).2 := by
  cases step with
  | add obj => simpa [perform] using keeps_add hm free obj
  | update obj => simpa [perform] using keeps_add hm free obj
  | delete obj => simpa [perform] using keeps_delete free obj
  | replace items => simpa [perform] using keeps_replace hm free items
  | event event obj ns name => simpa [perform] using keeps_handle hm free event obj ns name
  | resync =>
    have done : (s.perform m .resync).2.cache.locked = false := by simpa [perform] using s.resync_free m
    exact ⟨done.trans free.symm, fun held => by rw [free] at held; cases held⟩
  | isAllowed ns => simpa [perform] using Keeps.refl s
  | resolve ns refresh => exact (quiet_perform rfl s m).keeps
  | invalidate ns => exact (quiet_perform rfl s m).keeps
  | setObject name response => exact (quiet_perform rfl s m).keeps
  | removeObject name => exact (quiet_perform rfl s m).keeps
  | setEndings pool outcomes => exact (quiet_perform rfl s m).keeps
  | _ => exact .refl s

lemma keeps_attempt (s : Session) (step : Step) : Keeps s (s.attempt m step).2 := by
  cases held : s.cache.locked with
  | false =>
    rw [attempt_of_free held]
    exact keeps_perform hm held step
  | true =>
    rw [attempt_of_locked held]
    split
    · next free => exact (quiet_perform free s m).keeps
    · exact .refl s

lemma keeps_attemptAll (s : Session) (steps : List Step) : Keeps s (s.attemptAll m steps).2 := by
  induction steps generalizing s with
  | nil => exact .refl s
  | cons step rest ih => exact (keeps_attempt hm s step).trans (ih _)

end

/-- However deep steps are nested, they leave the lock as they found it and write nothing while it is held. -/
theorem keeps_nested (depth : ℕ) (steps : List Step) (s : Session) : Keeps s (nested depth steps s).2 := by
  induction depth generalizing steps s with
  | zero => exact .refl s
  | succ depth ih => exact keeps_attemptAll ih s steps

end Session
end ReplicaWatch
