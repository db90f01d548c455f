import Mathlib
import ReplicaWatch.Proofs.Reachable

/-! What can become of a session. Every step is made of a few moves: the surroundings change, the cluster is asked,
credentials are learned, content is dropped, and a command runs with credentials that are held when it starts, after
which what it reported may be written. Main statement: a step is made of such moves whenever the steps nested in its
commands are, so that what every move preserves holds in every reachable session. -/
namespace ReplicaWatch

/-- The names of the only objects that are read for a namespace. -/
def ObjectName.secretOf (ns : String) : ObjectName := ⟨.secret, ns, Credentials.secretName⟩

def ObjectName.configOf (ns : String) : ObjectName := ⟨.configuration, ns, Credentials.configName⟩

namespace Change

/-- The record that a change writes. -/
def record? : Change → Option (String × Record)
  | stored uid record => some (uid, record)
  | refreshed uid record => some (uid, record)
  | _ => none

/-- Whether a change is one of the store. -/
def isOfStore : Change → Bool
  | stored _ _ => true
  | refreshed _ _ => true
  | removed _ => true
  | cleared => true
  | _ => false

/-- Whether a change only takes content away. -/
def drops : Change → Bool
  | removed _ => true
  | cleared => true
  | forgot _ => true
  | forgotAll => true
  | _ => false

lemma record?_of_drops {change : Change} (h : change.drops = true) : change.record? = none := by
  cases change with
  | stored uid record => cases h
  | refreshed uid record => cases h
  | _ => rfl

end Change

/-- Other changes leave the store as it is. -/
lemma Cache.records_apply (c : Cache) {change : Change} (other : change.isOfStore = false) :
    (c.apply change).records = c.records := by
  cases change with
  | stored uid record => cases other
  | refreshed uid record => cases other
  | removed uid => cases other
  | cleared => cases other
  | _ => rfl

namespace Session

inductive Evolves : Session → Session → Prop
  | refl (s) : Evolves s s
  | trans {s t u} (h : Evolves s t) (h' : Evolves t u) : Evolves s u
  | surroundings (s) (world : World) : Evolves s { s with world := world }
  | lock (s) (locked : Bool) (h : locked = true → s.cache.setup.serialize = true) : Evolves s (s.setLocked locked)
  | logged (s) (line : Log.Line) : Evolves s (s.note (.logged line))
  | asked (s) {ns name} (permitted : ns ∈ s.cache.setup.allowed)
      (readable : name = ObjectName.secretOf ns ∨ name = ObjectName.configOf ns) : Evolves s (s.note (.asked name))
  | learned (s) {ns c} (permitted : ns ∈ s.cache.setup.allowed)
      (key : Credentials.keyOf ns (s.world.respond (.secretOf ns)) = .ok c.key)
      (monitor : Credentials.monitorOf ns (s.world.respond (.configOf ns)) = .ok c.monitor)
      (id : c.id = Credentials.clientId) :
      Evolves s (((s.note (.asked (.secretOf ns))).note (.asked (.configOf ns))).change (.learned ns c))
  | dropped (s) {change : Change} (h : change.drops = true) : Evolves s (s.change change)
  | command {s t ns pool c} (held : s.cache.known.get? ns = some c)
      (during : Evolves (s.launch pool (Command.status s.cache.setup.command pool c)) t) (ending : Ending)
      (replies : List Reply) : Evolves s (t.note (.ended ending replies))
  | committed {s t ns pool c output status uid} (held : s.cache.known.get? ns = some c)
      (during : Evolves (s.launch pool (Command.status s.cache.setup.command pool c)) t) (replies : List Reply)
      (decoded : Status.decode output = .ok status) {change : Change}
      (written : change.record? = some (uid, ⟨t.trace.length + 1, pool, ns, status⟩)) :
      Evolves s ((t.note (.ended (.finished output) replies)).change change)

lemma evolves_log (s : Session) (level : Log.Level) (text : String) : Evolves s (s.log level text) := by
  unfold log
  split
  · exact .logged s _
  · exact .refl s

/-! ## Credentials -/

lemma lookup_trace {s t : Session} {ns : String} {c : Credentials} (h : s.lookup ns = (.ok c, t)) :
    t = (s.note (.asked (.secretOf ns))).note (.asked (.configOf ns)) ∧
      Credentials.keyOf ns (s.world.respond (.secretOf ns)) = .ok c.key ∧
      Credentials.monitorOf ns (s.world.respond (.configOf ns)) = .ok c.monitor ∧ c.id = Credentials.clientId := by
  simp only [lookup, ask] at h
  split at h
  · cases h
  · next key hkey =>
    split at h
    · cases h
    · next monitor hmonitor =>
      cases h
      exact ⟨rfl, hkey, hmonitor, rfl⟩

lemma evolves_lookup (s : Session) {ns : String} (permitted : ns ∈ s.cache.setup.allowed) :
    Evolves s (s.lookup ns).2 := by
  have secret : Evolves s (s.note (.asked (.secretOf ns))) := .asked s permitted (.inl rfl)
  have both : Evolves s ((s.note (.asked (.secretOf ns))).note (.asked (.configOf ns))) :=
    secret.trans (.asked _ permitted (.inr rfl))
  simp only [lookup, ask]
  split
  · exact secret
  · split
    · exact both
    · exact both

lemma evolves_learn (s : Session) {ns : String} (permitted : ns ∈ s.cache.setup.allowed) :
    Evolves s (s.learn ns).2 := by
  have h := evolves_lookup s permitted
  simp only [learn]
  split
  · next c t hl =>
    obtain ⟨rfl, hkey, hmonitor, hid⟩ := lookup_trace hl
    exact (Evolves.learned s permitted hkey hmonitor hid).trans (evolves_log _ _ _)
  · next e t hl =>
    rw [hl] at h
    split
    · exact h.trans (evolves_log _ _ _)
    · exact h

/-- Credentials that were resolved are held. -/
lemma held_of_resolvePermitted {s t : Session} {ns : String} {refresh : Bool} {c : Credentials}
    (h : s.resolvePermitted ns refresh = (.ok c, t)) : t.cache.known.get? ns = some c := by
  have learned : s.learn ns = (.ok c, t) → t.cache.known.get? ns = some c := by
    intro h
    simp only [learn] at h
    split at h
    · cases h
      simp [Cache.apply, Ledger.get?_insert]
    · split at h <;> cases h
  simp only [resolvePermitted] at h
  split at h
  · next c' hk =>
    split at h
    · exact learned h
    · cases h
      exact hk
  · exact learned h

lemma evolves_resolvePermitted (s : Session) {ns : String} (permitted : ns ∈ s.cache.setup.allowed) (refresh : Bool) :
    Evolves s (s.resolvePermitted ns refresh).2 := by
  simp only [resolvePermitted]
  split
  · split
    · exact evolves_learn s permitted
    · exact .refl s
  · exact evolves_learn s permitted

lemma evolves_resolve (s : Session) (ns : Json) (refresh : Bool) : Evolves s (s.resolve ns refresh).2 := by
  simp only [resolve]
  split
  · exact .refl s
  · next n hn => exact evolves_resolvePermitted s (Setup.permit_eq_ok_iff.1 hn).2 refresh

lemma evolves_invalidate (s : Session) (ns : Json) : Evolves s (s.invalidate ns).2 := by
  cases ns with
  | null => exact .dropped s rfl
  | string t =>
    simp only [invalidate]
    split
    · exact .dropped s rfl
    · exact .refl s
  | _ => exact .refl s

/-! ## Commands -/

lemma evolves_logFailure (s : Session) (exit : String) (args : List String) (output : List UInt8) :
    Evolves s (s.logFailure exit args output) := by
  simp only [logFailure]
  split
  · exact (evolves_log _ _ _).trans (evolves_log _ _ _)
  · exact ((evolves_log _ _ _).trans (evolves_log _ _ _)).trans (evolves_log _ _ _)

lemma evolves_conclude (s : Session) (pool : String) (args : List String) (ending : Ending) :
    Evolves s (s.conclude pool args ending).2 := by
  cases ending with
  | finished output =>
    simp only [conclude]
    split <;> exact .refl s
  | exited code output => exact evolves_logFailure s _ _ _
  | timedOut output => exact evolves_logFailure s _ _ _
  | unstarted number => exact .refl s
  | uncallable fault => exact .refl s

/-- A status is only concluded from a command that finished. -/
lemma conclude_eq_ok {s t : Session} {pool : String} {args : List String} {ending : Ending} {status : Status.Pool}
    (h : s.conclude pool args ending = (.ok status, t)) :
    t = s ∧ ∃ output, ending = .finished output ∧ Status.decode output = .ok status := by
  cases ending with
  | finished output =>
    simp only [conclude] at h
    split at h
    · next hd =>
      cases h
      exact ⟨rfl, output, rfl, hd⟩
    · cases h
  | exited code output => cases h
  | timedOut output => cases h
  | unstarted number => cases h
  | uncallable fault => cases h

section
variable {m : Meanwhile} (hm : ∀ steps s, Evolves s (m steps s).2)
include hm

lemma evolves_fetch (s : Session) (pool : String) {ns : String} {c : Credentials}
    (held : s.cache.known.get? ns = some c) :
    Evolves s (s.fetch m pool c).2 := by
  simp only [fetch]
  split
  · exact .refl s
  · rw [run_eq]
    exact (Evolves.command held (hm _ _) _ _).trans (evolves_conclude _ _ _ _)

/-- What was fetched may be written at once. -/
lemma evolves_fetch_change {s t : Session} {ns pool uid : String} {c : Credentials} {status : Status.Pool}
    (held : s.cache.known.get? ns = some c) (h : s.fetch m pool c = (.ok status, t)) {change : Change}
    (written : change.record? = some (uid, ⟨t.trace.length, pool, ns, status⟩)) : Evolves s (t.change change) := by
  simp only [fetch] at h
  split at h
  · cases h
  · simp only [run_eq] at h
    obtain ⟨rfl, output, hending, decoded⟩ := conclude_eq_ok h
    rw [hending] at written ⊢
    exact .committed held (hm _ _) _ decoded (by simpa using written)

lemma evolves_fetchRecord (s : Session) (pool ns : Json) : Evolves s (s.fetchRecord m pool ns).2 := by
  simp only [fetchRecord]
  split
  · exact .refl s
  · next n hn =>
    have hr := evolves_resolvePermitted s (Setup.permit_eq_ok_iff.1 hn).2 false
    split
    · next hl =>
      rw [hl] at hr
      exact hr
    · next c t hl =>
      rw [hl] at hr
      cases pool with
      | string p =>
        have hf := evolves_fetch hm t (Text.asString p) (held_of_resolvePermitted hl)
        simp only
        split
        · next h =>
          rw [h] at hf
          exact hr.trans hf
        · next h =>
          rw [h] at hf
          exact hr.trans hf
      | _ => exact hr

lemma evolves_fetchRecord_change {s t : Session} {pool ns : Json} {uid : String} {record : Record}
    (h : s.fetchRecord m pool ns = (.ok record, t)) {change : Change}
    (written : change.record? = some (uid, record)) :
    Evolves s (t.change change) := by
  simp only [fetchRecord] at h
  split at h
  · cases h
  · next n hn =>
    have hr := evolves_resolvePermitted s (Setup.permit_eq_ok_iff.1 hn).2 false
    split at h
    · cases h
    · next c u hl =>
      rw [hl] at hr
      split at h
      · split at h
        · cases h
        · next hf =>
          cases h
          exact hr.trans (evolves_fetch_change hm (held_of_resolvePermitted hl) hf written)
      · cases h

/-! ## Writing and sweeping -/

lemma evolves_add (s : Session) (obj : Json) : Evolves s (s.add m obj).2 := by
  simp only [add]
  split
  · exact .refl s
  · next pool _ =>
    split
    · have hf := evolves_fetchRecord hm s pool.name pool.ns
      split
      · next h =>
        rw [h] at hf
        exact hf
      · next h => exact evolves_fetchRecord_change hm h rfl
    · exact evolves_log _ _ _

omit hm in
lemma evolves_delete (s : Session) (obj : Json) : Evolves s (s.delete obj).2 := by
  simp only [delete]
  split
  · exact .refl s
  · exact .dropped s rfl

lemma evolves_addAll (s : Session) (items : List Json) : Evolves s (s.addAll m items).2 := by
  induction items generalizing s with
  | nil => exact .refl s
  | cons item rest ih =>
    have ha := evolves_add hm s item
    simp only [addAll]
    split
    · next h =>
      rw [h] at ha
      exact ha
    · next h =>
      rw [h] at ha
      exact ha.trans (ih _)

lemma evolves_replace (s : Session) (items : Json) : Evolves s (s.replace m items).2 := by
  have hc : Evolves s (s.change .cleared) := .dropped s rfl
  simp only [replace]
  split
  · exact hc.trans (evolves_addAll hm _ _)
  · exact hc

lemma evolves_refresh (s : Session) (held : Bool) (uid : String) (record : Record) (tally : Tally) :
    Evolves s (s.refresh m held uid record tally).2 := by
  have hf := evolves_fetchRecord hm s (.ofString record.pool) (.ofString record.ns)
  simp only [refresh]
  split
  · next h =>
    rw [h] at hf
    split
    · exact evolves_fetchRecord_change hm h rfl
    · exact hf
  · next h =>
    rw [h] at hf
    split
    · exact hf.trans (evolves_log _ _ _)
    · exact hf

lemma evolves_sweep (s : Session) (held : Bool) (tally : Tally) (entries : List (String × Record)) :
    Evolves s (s.sweep m held tally entries).2 := by
  induction entries generalizing s tally with
  | nil => exact .refl s
  | cons entry rest ih =>
    have hr := evolves_refresh hm s held entry.1 entry.2 tally
    simp only [sweep]
    split
    · next h =>
      rw [h] at hr
      exact hr
    · next h =>
      rw [h] at hr
      exact hr.trans (ih _ _)

omit hm in
lemma evolves_sweepStart (s : Session) : Evolves s s.sweepStart := by
  refine (evolves_log s .info _).trans (.lock _ _ ?_)
  rw [log_cache]
  exact id

lemma evolves_resync (s : Session) : Evolves s (s.resync m).2 := by
  have free (t : Session) : Evolves t (t.setLocked false) := .lock t false (by simp)
  have hs := (evolves_sweepStart s).trans
    (evolves_sweep hm s.sweepStart s.cache.setup.serialize ⟨0, 0, 0⟩ s.cache.records.entries)
  rw [resync_eq]
  split
  · next h =>
    rw [h] at hs
    exact hs.trans (free _)
  · next h =>
    rw [h] at hs
    exact (hs.trans (free _)).trans (evolves_log _ _ _)

/-! ## Steps -/

omit hm in
lemma evolves_answerEvent {s : Session} {r : Except Failure Unit × Session} (h : Evolves s r.2) (ns name : String) :
    Evolves s (answerEvent ns name r).2 := by
  unfold answerEvent
  split
  · exact h.trans (.logged _ _)
  · exact h

lemma evolves_handle (s : Session) (event obj : Json) (ns name : String) :
    Evolves s (s.handle m event obj ns name).2 := by
  simp only [handle]
  split
  · split
    · exact .refl s
    · apply evolves_answerEvent
      split
      · exact evolves_delete s obj
      · exact evolves_add hm s obj
  · exact .refl s

lemma evolves_perform (s : Session) (step : Step) : Evolves s (s.perform m step).2 := by
  cases step with
  | add obj => simpa [perform] using evolves_add hm s obj
  | update obj => simpa [perform] using evolves_add hm s obj
  | delete obj => simpa [perform] using evolves_delete s obj
  | replace items => simpa [perform] using evolves_replace hm s items
  | resync => simpa [perform] using evolves_resync hm s
  | resolve ns refresh => simpa [perform] using evolves_resolve s ns refresh
  | invalidate ns => simpa [perform] using evolves_invalidate s ns
  | event event obj ns name => simpa [perform] using evolves_handle hm s event obj ns name
  | isAllowed ns => simpa [perform] using Evolves.refl s
  | setObject name response => exact .surroundings s _
  | removeObject name => exact .surroundings s _
  | setEndings pool outcomes => exact .surroundings s _
  | _ => exact .refl s

lemma evolves_attempt (s : Session) (step : Step) : Evolves s (s.attempt m step).2 := by
  simp only [attempt]
  split
  · exact .refl s
  · exact evolves_perform hm s step

lemma evolves_attemptAll (s : Session) (steps : List Step) : Evolves s (s.attemptAll m steps).2 := by
  induction steps generalizing s with
  | nil => exact .refl s
  | cons step rest ih => exact (evolves_attempt hm s step).trans (ih _)

end

/-- However deep steps are nested, they are made of moves. -/
theorem evolves_nested (depth : ℕ) (steps : List Step) (s : Session) : Evolves s (nested depth steps s).2 := by
  induction depth generalizing steps s with
  | zero => exact .refl s
  | succ depth ih => exact evolves_attemptAll ih s steps

/-! ## Commands that have begun -/

lemma FetchBegins.launches {s t : Session} {pool ns : Json} (h : s.FetchBegins pool ns t) :
    ∃ u n p c, Evolves s u ∧ u.cache.known.get? n = some c ∧
      t = u.launch p (Command.status u.cache.setup.command p c) := by
  obtain ⟨permitted, resolved, -, -⟩ := h
  have hr := evolves_resolvePermitted s (Setup.permit_eq_ok_iff.1 permitted).2 false
  rw [resolved] at hr
  exact ⟨_, _, _, _, hr, held_of_resolvePermitted resolved, rfl⟩

lemma Begins.launches {s t : Session} {m : Meanwhile} (hm : ∀ steps s, Evolves s (m steps s).2) {step : Step}
    (h : s.Begins m step t) :
    ∃ u n p c, Evolves s u ∧ u.cache.known.get? n = some c ∧
      t = u.launch p (Command.status u.cache.setup.command p c) := by
  cases h with
  | add h => exact h.choose_spec.2.2.launches
  | update h => exact h.choose_spec.2.2.launches
  | event _ _ h => exact h.choose_spec.2.2.launches
  | @replace items before item after u t listed added h =>
    obtain ⟨v, n, p, c, hv, held, rfl⟩ := h.choose_spec.2.2.launches
    have ha := evolves_addAll hm (s.change .cleared) before
    rw [added] at ha
    exact ⟨v, n, p, c, ((Evolves.dropped s rfl).trans ha).trans hv, held, rfl⟩
  | @resync uid record tally u t comes h =>
    obtain ⟨v, n, p, c, hv, held, rfl⟩ := h.launches
    obtain ⟨before, after, -, swept⟩ := comes
    have hs := evolves_sweep hm s.sweepStart s.cache.setup.serialize ⟨0, 0, 0⟩ before
    rw [swept] at hs
    exact ⟨v, n, p, c, ((evolves_sweepStart s).trans hs).trans hv, held, rfl⟩

/-- What holds at the start and is preserved by every move and by starting a command holds in every reachable
session. -/
theorem Reachable.invariant {setup : Setup} {history : List Event} {P : Session → Prop}
    (start : ∀ world, P ⟨Cache.new setup, world, history⟩) (moves : ∀ s t, Evolves s t → P s → P t)
    (launches : ∀ s ns pool c, s.cache.known.get? ns = some c → P s →
      P (s.launch pool (Command.status s.cache.setup.command pool c)))
    {s : Session} (h : Reachable setup history s) : P s := by
  induction h with
  | start world => exact start world
  | took _ depth step ih => exact moves _ _ (evolves_attempt (evolves_nested depth) _ step) ih
  | within _ depth _ begins ih =>
    obtain ⟨u, n, p, c, hu, held, rfl⟩ := begins.launches (evolves_nested depth)
    exact launches u n p c held (moves _ _ hu ih)

end Session
end ReplicaWatch
