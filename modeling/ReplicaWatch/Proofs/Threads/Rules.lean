import Mathlib
import ReplicaWatch.Proofs.Writes.Chronicle
import ReplicaWatch.Threads.Crowd

/-! The rules by which threads deal with the lock of the store. Only who has it writes to the store, nobody takes it
who has it already, and a command is run without it, except by a sweep that is to hold it. Such a sweep only renews
what it found. Main statement: what a thread does to take a step keeps these rules, and a thread that never had the
lock replies that it failed or had nothing to write. -/
namespace ReplicaWatch

/-- The same pools are stored in the same order, each with a record under the same names. -/
structure Renewed (since now : Ledger String Record) : Prop where
  keys : now.keys = since.keys
  names : ∀ uid record, since.get? uid = some record →
    ∃ fresh, now.get? uid = some fresh ∧ fresh.pool = record.pool ∧ fresh.ns = record.ns

section
variable {since now later : Ledger String Record}

lemma Renewed.refl (since : Ledger String Record) : Renewed since since :=
  ⟨rfl, fun _ record stored => ⟨record, stored, rfl, rfl⟩⟩

lemma Renewed.insert (h : Renewed since now) {uid : String} {record fresh : Record}
    (stored : since.get? uid = some record) (pool : fresh.pool = record.pool) (ns : fresh.ns = record.ns) :
    Renewed since (now.insert uid fresh) := by
  have there : uid ∈ now.keys := by
    rw [h.keys, Ledger.mem_keys_iff, stored]
    rfl
  refine ⟨by rw [Ledger.keys_insert, if_pos there, h.keys], fun k r hr => ?_⟩
  rw [Ledger.get?_insert]
  split
  · next same =>
    subst same
    cases stored.symm.trans hr
    exact ⟨fresh, rfl, pool, ns⟩
  · exact h.names k r hr

/-- What is stored now was stored then under the same names. -/
lemma Renewed.names_of_mem (h : Renewed since now) {uid : String} {record : Record}
    (stored : (uid, record) ∈ now.entries) :
    ∃ old, since.get? uid = some old ∧ record.pool = old.pool ∧ record.ns = old.ns := by
  have found := Ledger.get?_eq_some_iff.2 stored
  have there : uid ∈ since.keys := by
    rw [← h.keys, Ledger.mem_keys_iff, found]
    rfl
  obtain ⟨old, hold⟩ := Option.isSome_iff_exists.1 ((Ledger.mem_keys_iff since uid).1 there)
  obtain ⟨fresh, hfresh, pool, ns⟩ := h.names uid old hold
  cases found.symm.trans hfresh
  exact ⟨old, hold, pool, ns⟩

end

/-- A change that puts a record in the place of one with the same names. -/
def Change.Renews (since : Ledger String Record) (change : Change) : Prop :=
  ∃ uid fresh record, change = .refreshed uid fresh ∧ since.get? uid = some record ∧ fresh.pool = record.pool ∧
    fresh.ns = record.ns

/-! ## The rules -/

/-- An action keeps the rules, and so does what comes after it, whatever is learned from it. -/
def Action.Keeps (sweeps : Bool) (turn : Turn) : (a : Action) → (a.Result → Prop) → Prop
  | look, next => ∀ store, (∀ since, turn = .now since → sweeps = true → Renewed since store) → next store
  | change c, next =>
    (c.isOfStore = true → ∃ since, turn = .now since ∧ (sweeps = true → c.Renews since)) ∧ next ()
  | _, next => ∀ result, next result

/-- A program keeps the rules, and where it comes to an end, that is as it should be. -/
def Program.Keeps {α : Type} (sweeps : Bool) (ends : Turn → α → Prop) : Program α → Turn → Prop
  | done a, turn => ends turn a
  | act a next, turn => a.Keeps sweeps turn fun result => (next result).Keeps sweeps ends turn
  | acquire next, turn => turn.holds = false ∧ ∀ since, next.Keeps sweeps ends (.now since)
  | release next, turn => turn.holds = true ∧ next.Keeps sweeps ends .past
  | call _ _ next, turn => turn.holds = sweeps ∧ ∀ ending moment, (next ending moment).Keeps sweeps ends turn

lemma Action.Keeps.mono {sweeps : Bool} {turn : Turn} {a : Action} {next more : a.Result → Prop}
    (h : a.Keeps sweeps turn next) (hm : ∀ result, next result → more result) : a.Keeps sweeps turn more := by
  cases a with
  | look => exact fun store renewed => hm store (h store renewed)
  | change c => exact ⟨h.1, hm () h.2⟩
  | _ => exact fun result => hm result (h result)

namespace Program

variable {α β : Type} {sweeps : Bool}

lemma Keeps.mono {ends more : Turn → α → Prop} {p : Program α} {turn : Turn} (h : p.Keeps sweeps ends turn)
    (hm : ∀ turn a, ends turn a → more turn a) : p.Keeps sweeps more turn := by
  induction p generalizing turn with
  | done a => exact hm turn a h
  | act a next ih => exact Action.Keeps.mono h fun result => ih result
  | acquire next ih => exact ⟨h.1, fun since => ih (h.2 since)⟩
  | release next ih => exact ⟨h.1, ih h.2⟩
  | call pool args next ih => exact ⟨h.1, fun ending moment => ih ending moment (h.2 ending moment)⟩

lemma Keeps.andThen {ends : Turn → α → Prop} {more : Turn → β → Prop} {p : Program α} {f : α → Program β}
    {turn : Turn} (h : p.Keeps sweeps ends turn)
    (hf : ∀ turn a, ends turn a → (f a).Keeps sweeps more turn) :
    (p.andThen f).Keeps sweeps more turn := by
  induction p generalizing turn with
  | done a => exact hf turn a h
  | act a next ih => exact Action.Keeps.mono h fun result => ih result
  | acquire next ih => exact ⟨h.1, fun since => ih (h.2 since)⟩
  | release next ih => exact ⟨h.1, ih h.2⟩
  | call pool args next ih => exact ⟨h.1, fun ending moment => ih ending moment (h.2 ending moment)⟩

lemma Keeps.bind {ends : Turn → α → Prop} {more : Turn → β → Prop} {p : Program α} {f : α → Program β} {turn : Turn}
    (h : p.Keeps sweeps ends turn) (hf : ∀ turn a, ends turn a → (f a).Keeps sweeps more turn) :
    (p >>= f).Keeps sweeps more turn := h.andThen hf

/-- A program that does not care about the lock. -/
def Quiet (p : Program α) : Prop := ∀ sweeps turn, p.Keeps sweeps (fun after _ => after = turn) turn

lemma quiet_pure (a : α) : Quiet (pure a) := fun _ _ => rfl

lemma Quiet.bind {p : Program α} {f : α → Program β} (h : p.Quiet) (hf : ∀ a, (f a).Quiet) : (p >>= f).Quiet :=
  fun sweeps turn => (h sweeps turn).bind fun after a same => by
    subst same
    exact hf a sweeps after

/-- After a program that does not care about the lock, everything is as before. -/
lemma Quiet.keeps_bind {p : Program α} (h : p.Quiet) {f : α → Program β} {more : Turn → β → Prop} {turn : Turn}
    (hf : ∀ a, (f a).Keeps sweeps more turn) : (p >>= f).Keeps sweeps more turn :=
  (h sweeps turn).bind fun after a same => by
    subst same
    exact hf a

lemma quiet_log (level : Log.Level) (text : String) : Quiet (log level text) := fun _ _ _ => rfl

lemma quiet_change {c : Change} (other : c.isOfStore = false) : Quiet (change c) :=
  fun _ _ => ⟨fun h => absurd h (by simp [other]), rfl⟩

/-! ## Credentials -/

lemma quiet_lookup (ns : String) : Quiet (lookup ns) := by
  have asks (name : ObjectName) : Quiet (perform (.ask name)) := fun _ _ _ => rfl
  refine (asks _).bind fun response => ?_
  split
  · exact quiet_pure _
  · refine (asks _).bind fun response => ?_
    split
    · exact quiet_pure _
    · exact quiet_pure _

lemma quiet_learn (ns : String) : Quiet (learn ns) := by
  refine (quiet_lookup ns).bind fun result => ?_
  split
  · exact (quiet_change rfl).bind fun _ => (quiet_log _ _).bind fun _ => quiet_pure _
  · exact (quiet_log _ _).bind fun _ => quiet_pure _
  · exact quiet_pure _

lemma quiet_consult : Quiet (perform .consult) := fun _ _ _ => rfl

lemma quiet_resolvePermitted (ns : String) (refresh : Bool) : Quiet (resolvePermitted ns refresh) := by
  refine quiet_consult.bind fun known => ?_
  split
  · split
    · exact quiet_learn ns
    · exact quiet_pure _
  · exact quiet_learn ns

lemma quiet_resolve (setup : Setup) (ns : Json) (refresh : Bool) : Quiet (resolve setup ns refresh) := by
  unfold resolve
  split
  · exact quiet_pure _
  · exact quiet_resolvePermitted _ refresh

lemma quiet_invalidate (ns : Json) : Quiet (invalidate ns) := by
  have stumbles : Quiet invalidate.stumble := quiet_consult.bind fun _ => quiet_pure _
  cases ns with
  | null => exact (quiet_change rfl).bind fun _ => quiet_pure _
  | string t =>
    simp only [invalidate]
    split
    · exact (quiet_change rfl).bind fun _ => quiet_pure _
    · exact quiet_pure _
  | array items => exact stumbles
  | object members => exact stumbles
  | _ => exact quiet_pure _

/-! ## Fetching -/

lemma quiet_logFailure (exit : String) (args : List String) (output : List UInt8) :
    Quiet (logFailure exit args output) := by
  refine (quiet_log _ _).bind fun _ => (quiet_log _ _).bind fun _ => ?_
  split
  · exact quiet_pure _
  · exact quiet_log _ _

lemma quiet_conclude (setup : Setup) (pool : String) (args : List String) (ending : Ending) :
    Quiet (conclude setup pool args ending) := by
  cases ending with
  | finished output =>
    simp only [conclude]
    split
    · exact quiet_pure _
    · exact quiet_pure _
  | exited code output => exact (quiet_logFailure _ _ _).bind fun _ => quiet_pure _
  | timedOut output => exact (quiet_logFailure _ _ _).bind fun _ => quiet_pure _
  | unstarted number => exact quiet_pure _
  | uncallable fault => exact quiet_pure _

section
variable {turn : Turn} (commands : turn.holds = sweeps) (setup : Setup)
include commands

lemma keeps_fetch (pool : String) (c : Credentials) :
    (fetch setup pool c).Keeps sweeps (fun after _ => after = turn) turn := by
  unfold fetch
  split
  · rfl
  · exact ⟨commands, fun ending moment => (quiet_conclude setup pool _ ending).keeps_bind fun _ => rfl⟩

/-- A fetch leaves the lock alone, and what it fetches has the names that were asked for. -/
lemma keeps_fetchRecord (pool ns : Json) :
    (fetchRecord setup pool ns).Keeps sweeps (fun after result => after = turn ∧ ∀ record, result = .ok record →
      (∃ p, pool = .string p ∧ record.pool = Text.asString p) ∧ ns = .ofString record.ns) turn := by
  unfold fetchRecord
  split
  · exact ⟨rfl, nofun⟩
  · next n permitted =>
    refine (quiet_resolvePermitted n false).keeps_bind fun resolved => ?_
    split
    · exact ⟨rfl, nofun⟩
    · next c =>
      cases pool with
      | string p =>
        refine (keeps_fetch commands setup (Text.asString p) c).bind fun after fetched same => ⟨same, ?_⟩
        intro record came
        cases fetched with
        | error e => cases came
        | ok status =>
          cases came
          exact ⟨⟨p, rfl, rfl⟩, (Setup.permit_eq_ok_iff.1 permitted).1⟩
      | _ => exact ⟨rfl, nofun⟩

end

/-! ## Under the lock -/

lemma quiet_look : Quiet (perform .look) := fun _ _ _ _ => rfl

/-- Whoever does something under the lock gives it back. -/
lemma keeps_underLock {p : Program α} {turn : Turn} (free : turn.holds = false)
    (h : ∀ since, p.Keeps sweeps (fun after _ => after = .now since) (.now since)) :
    (underLock p).Keeps sweeps (fun after _ => after = .past) turn :=
  ⟨free, fun since => (h since).andThen fun after a same => ⟨by rw [same]; rfl, rfl⟩⟩

/-- Whoever has the lock and is no sweep may write what it likes. -/
lemma keeps_change (since : Ledger String Record) (c : Change) :
    (change c).Keeps false (fun after _ => after = .now since) (.now since) :=
  ⟨fun _ => ⟨since, rfl, nofun⟩, rfl⟩

end Program

/-! ## Writing to the store -/

/-- An object describes a pool without mirroring. -/
def BlockPool.Unmirrored (obj : Json) : Prop := ∃ pool, ofJson obj = .ok pool ∧ pool.mirrored = false

/-- Adding what an object describes came to nothing: it failed, or there was nothing to add. -/
def BlockPool.Declined (obj : Json) (result : Except Failure Unit) : Prop :=
  (∃ e, result = .error e) ∨ result = .ok () ∧ Unmirrored obj

namespace Program

section
variable {turn : Turn} (free : turn.holds = false) (setup : Setup)
include free

/-- Adding a pool takes the lock only to store it. -/
lemma keeps_add (obj : Json) :
    (add setup obj).Keeps false (fun after result => after = .past ∨ after = turn ∧ BlockPool.Declined obj result)
      turn := by
  unfold add
  split
  · next e _ => exact .inr ⟨rfl, .inl ⟨e, rfl⟩⟩
  · next pool described =>
    split
    · refine (keeps_fetchRecord free setup pool.name pool.ns).bind fun after result fetched => ?_
      obtain ⟨rfl, -⟩ := fetched
      split
      · next e => exact .inr ⟨rfl, .inl ⟨e, rfl⟩⟩
      · next record => exact (keeps_underLock free fun since => keeps_change since _).bind fun _ _ wrote => .inl wrote
    · next plain =>
      refine (quiet_log _ _).keeps_bind fun _ => ?_
      exact .inr ⟨rfl, .inr ⟨rfl, pool, described, by simpa using plain⟩⟩

lemma keeps_delete (obj : Json) :
    (delete obj).Keeps false (fun after result => after = .past ∨ after = turn ∧ ∃ e, result = .error e) turn := by
  unfold delete
  split
  · next e _ => exact .inr ⟨rfl, e, rfl⟩
  · exact (keeps_underLock free fun since => keeps_change since _).bind fun _ _ wrote => .inl wrote

end

lemma keeps_addAll (setup : Setup) (items : List Json) :
    (addAll setup items).Keeps false (fun after _ => after = .past) .past := by
  induction items with
  | nil => rfl
  | cons item rest ih =>
    refine (keeps_add rfl setup item).bind fun after result added => ?_
    obtain rfl : after = .past := added.elim id And.left
    split
    · rfl
    · exact ih

lemma keeps_replace {turn : Turn} (free : turn.holds = false) (setup : Setup) (items : Json) :
    (replace setup items).Keeps false (fun after _ => after = .past) turn := by
  refine (keeps_underLock free fun since => keeps_change since _).bind fun after _ cleared => ?_
  subst cleared
  split
  · exact keeps_addAll setup _
  · rfl

/-! ## Sweeps -/

/-- What a sweep may rely on at an entry: it holds the lock since the store had a record under the same names there,
or it is one that does not hold the lock, and had it before. -/
def Comes (turn : Turn) (held : Bool) (record : Record) (uid : String) : Prop :=
  if held then ∃ since old, turn = .now since ∧ since.get? uid = some old ∧ record.pool = old.pool ∧
    record.ns = old.ns
  else turn = .past

lemma Comes.holds {turn : Turn} {held : Bool} {record : Record} {uid : String} (h : Comes turn held record uid) :
    turn.holds = held := by
  cases held with
  | true =>
    obtain ⟨since, old, rfl, -⟩ := h
    rfl
  | false =>
    obtain rfl : turn = .past := h
    rfl

lemma keeps_commit {turn : Turn} {held : Bool} {record : Record} {uid : String} (h : Comes turn held record uid)
    {fresh : Record} (pool : fresh.pool = record.pool) (ns : fresh.ns = record.ns) (tally : Tally) :
    (commit held uid record fresh tally).Keeps held (fun after _ => after = turn) turn := by
  cases held with
  | true =>
    obtain ⟨since, old, rfl, stored, hpool, hns⟩ := h
    have renews : (Change.refreshed uid fresh).Renews since :=
      ⟨uid, fresh, old, rfl, stored, pool.trans hpool, ns.trans hns⟩
    exact ⟨fun _ => ⟨since, rfl, fun _ => renews⟩, rfl⟩
  | false =>
    obtain rfl : turn = .past := h
    refine keeps_underLock rfl fun since store _ => ?_
    change (ite _ _ _ : Program Tally).Keeps false _ _
    split
    · exact (keeps_change since _).bind fun _ _ same => same
    · rfl

lemma keeps_refresh (setup : Setup) {turn : Turn} {held : Bool} {record : Record} {uid : String}
    (h : Comes turn held record uid) (tally : Tally) :
    (refresh setup held uid record tally).Keeps held (fun after _ => after = turn) turn := by
  refine (keeps_fetchRecord h.holds setup _ _).bind fun after result fetched => ?_
  obtain ⟨rfl, names⟩ := fetched
  split
  · next fresh =>
    obtain ⟨⟨p, hp, hpool⟩, hns⟩ := names fresh rfl
    have pool : fresh.pool = record.pool := by rw [hpool, ← Json.string.inj hp, Text.asString_ofString]
    have ns : fresh.ns = record.ns := (Text.ofString_inj.1 (Json.string.inj hns)).symm
    exact (keeps_commit h pool ns tally).bind fun _ _ same => same
  · exact (quiet_log _ _).keeps_bind fun _ => rfl
  · rfl

lemma keeps_sweep (setup : Setup) {turn : Turn} {held : Bool} {entries : List (String × Record)}
    (h : ∀ e ∈ entries, Comes turn held e.2 e.1) (tally : Tally) :
    (sweep setup held tally entries).Keeps held (fun after _ => after = turn) turn := by
  induction entries generalizing tally with
  | nil => rfl
  | cons entry rest ih =>
    refine (keeps_refresh setup (h entry List.mem_cons_self) tally).bind fun after result same => ?_
    subst same
    split
    · rfl
    · exact ih (fun e he => h e (List.mem_cons_of_mem _ he)) _

lemma keeps_resync (setup : Setup) {turn : Turn} (free : turn.holds = false) :
    (resync setup).Keeps setup.serialize (fun after _ => after = .past) turn := by
  have stored : (sweepStored setup).Keeps setup.serialize (fun after _ => after = .past) turn := by
    unfold sweepStored
    cases setup.serialize with
    | true =>
      refine keeps_underLock free fun since store renewed => ?_
      have comes : ∀ e ∈ store.entries, Comes (.now since) true e.2 e.1 := by
        intro e he
        obtain ⟨old, hold, pool, ns⟩ := (renewed since rfl rfl).names_of_mem he
        exact ⟨since, old, rfl, hold, pool, ns⟩
      exact keeps_sweep setup comes _
    | false =>
      refine (keeps_underLock free fun since => quiet_look false (.now since)).bind fun after records looked => ?_
      subst looked
      have comes : ∀ e ∈ records.entries, Comes .past false e.2 e.1 := fun _ _ => rfl
      exact keeps_sweep setup comes _
  refine (quiet_log _ _).keeps_bind fun _ => stored.bind fun after result swept => ?_
  subst swept
  split
  · rfl
  · exact (quiet_log _ _).keeps_bind fun _ => rfl

/-! ## Steps -/

/-- Whoever answers an event fails if it failed to follow it, and only then. -/
lemma keeps_answerEvent (ns name : String) (turn : Turn) (result : Except Failure Unit) :
    (answerEvent ns name result).Keeps sweeps (fun after answer => after = turn ∧
      ∀ obj, BlockPool.Declined obj result → BlockPool.Declined obj answer) turn := by
  unfold answerEvent
  split
  · exact fun _ => ⟨rfl, fun _ _ => .inl ⟨_, rfl⟩⟩
  · exact ⟨rfl, fun _ declined => declined⟩

lemma keeps_handle {turn : Turn} (free : turn.holds = false) (setup : Setup) (event obj : Json) (ns name : String) :
    (handle setup event obj ns name).Keeps false
      (fun after result => after = .past ∨ after = turn ∧ BlockPool.Declined obj result) turn := by
  cases event with
  | object members =>
    simp only [handle]
    split
    · exact .inr ⟨rfl, .inl ⟨_, rfl⟩⟩
    · next type _ =>
      have followed : (if Session.isDeletion type then delete obj else add setup obj).Keeps false
          (fun after result => after = .past ∨ after = turn ∧ BlockPool.Declined obj result) turn := by
        split
        · exact (keeps_delete free obj).mono fun _ _ deleted => deleted.imp id fun kept => ⟨kept.1, .inl kept.2⟩
        · exact keeps_add free setup obj
      refine followed.bind fun after result ended => (keeps_answerEvent ns name after result).mono ?_
      rintro _ answer ⟨rfl, answers⟩
      exact ended.imp id fun kept => ⟨kept.1, answers obj kept.2⟩
  | _ => exact .inr ⟨rfl, .inl ⟨_, rfl⟩⟩

end Program

/-- A step that was to add what an object describes failed, or there was nothing to add. -/
def Reply.Declines (reply : Reply) (obj : Json) : Prop :=
  (∃ e, reply = failure e) ∨ reply = answer .done ∧ BlockPool.Unmirrored obj

/-- What a step may reply that never had the lock. A step that has to write, or to look, has no such reply. -/
def Step.Declines : Step → Reply → Prop
  | add obj, reply => reply.Declines obj
  | update obj, reply => reply.Declines obj
  | event _ obj _ _, reply => reply.Declines obj
  | delete _, reply => ∃ e, reply = .failure e
  | replace _, _ => False
  | resync, _ => False
  | snapshot, _ => False
  | _, _ => True

/-- How a step ends: without the lock, and declining if it never had it. -/
def Step.Ends (step : Step) (turn : Turn) (reply : Reply) : Prop :=
  turn.holds = false ∧ (turn = .ahead → step.Declines reply)

lemma Step.Ends.past (step : Step) (reply : Reply) : step.Ends .past reply := ⟨rfl, nofun⟩

namespace Program

/-- What becomes of a result is how the step ends. -/
lemma Keeps.reply {ends : Turn → Except Failure α → Prop} {p : Program (Except Failure α)} {step : Step} {turn : Turn}
    (h : p.Keeps sweeps ends turn) (f : α → Answer)
    (answers : ∀ turn a, ends turn (.ok a) → step.Ends turn (.answer (f a)))
    (fails : ∀ turn e, ends turn (.error e) → step.Ends turn (.failure e)) :
    (reply f p).Keeps sweeps step.Ends turn := by
  refine h.bind fun after result ended => ?_
  cases result with
  | ok a => exact answers after a ended
  | error e => exact fails after e ended

/-- A step that adds what an object describes, or comes to nothing, ends as it should. -/
lemma Keeps.adds {obj : Json} {p : Program (Except Failure Unit)} {step : Step}
    (h : p.Keeps sweeps (fun after result => after = .past ∨ after = .ahead ∧ BlockPool.Declined obj result) .ahead)
    (declines : ∀ reply : Reply, reply.Declines obj → step.Declines reply) :
    (Program.reply (fun _ => .done) p).Keeps sweeps step.Ends .ahead := by
  refine h.reply _ (fun turn a ended => ?_) (fun turn e ended => ?_)
  · rcases ended with rfl | ⟨rfl, ⟨e, failed⟩ | ⟨-, unmirrored⟩⟩
    · exact .past step _
    · cases failed
    · exact ⟨rfl, fun _ => declines _ (.inr ⟨rfl, unmirrored⟩)⟩
  · rcases ended with rfl | ⟨rfl, -⟩
    · exact .past step _
    · exact ⟨rfl, fun _ => declines _ (.inl ⟨e, rfl⟩)⟩

/-- A step that does not care about the lock ends as it should. -/
lemma Quiet.reply {p : Program (Except Failure α)} (h : p.Quiet) (f : α → Answer) {step : Step}
    (declines : ∀ reply, step.Declines reply) : (Program.reply f p).Keeps sweeps step.Ends .ahead := by
  refine (h sweeps .ahead).reply f (fun turn a same => ?_) (fun turn e same => ?_)
  · exact ⟨by rw [same]; rfl, fun _ => declines _⟩
  · exact ⟨by rw [same]; rfl, fun _ => declines _⟩

/-- What a thread does to take a step keeps the rules. -/
theorem keeps_ofStep (setup : Setup) (step : Step) :
    (ofStep setup step).Keeps (step.holds setup.serialize) step.Ends .ahead := by
  have arranges (f : World → World) (step : Step) (declines : ∀ reply, step.Declines reply) :
      (ofStep.arrange f).Keeps false step.Ends .ahead := fun _ => ⟨rfl, fun _ => declines _⟩
  have passes {α : Type} {p : Program (Except Failure α)} (f : α → Answer) {step : Step} {sweeps : Bool}
      (h : p.Keeps sweeps (fun after _ => after = .past) .ahead) :
      (Program.reply f p).Keeps sweeps step.Ends .ahead := by
    refine h.reply f (fun turn a ended => ?_) (fun turn e ended => ?_)
    · exact ended ▸ .past step _
    · exact ended ▸ .past step _
  cases step with
  | add obj => exact (keeps_add rfl setup obj).adds fun _ => id
  | update obj => exact (keeps_add rfl setup obj).adds fun _ => id
  | event event obj ns name => exact (keeps_handle rfl setup event obj ns name).adds fun _ => id
  | delete obj =>
    refine (keeps_delete rfl obj).reply _ (fun turn a ended => ?_) (fun turn e ended => ?_)
    · obtain rfl : turn = .past := ended.elim id fun kept => nomatch kept.2
      exact .past _ _
    · rcases ended with rfl | ⟨rfl, -⟩
      · exact .past _ _
      · exact ⟨rfl, fun _ => ⟨e, rfl⟩⟩
  | replace items => exact passes _ (keeps_replace rfl setup items)
  | resync => exact passes _ (keeps_resync setup rfl)
  | snapshot =>
    exact (keeps_underLock rfl fun since => quiet_look false (.now since)).bind fun _ _ past => past ▸ .past _ _
  | resolve ns refresh => exact (quiet_resolve setup ns refresh).reply _ fun _ => trivial
  | invalidate ns => exact (quiet_invalidate ns).reply _ fun _ => trivial
  | isAllowed ns => exact (quiet_pure _).reply _ fun _ => trivial
  | setObject name response => exact arranges _ _ fun _ => trivial
  | removeObject name => exact arranges _ _ fun _ => trivial
  | setEndings pool outcomes => exact arranges _ _ fun _ => trivial
  | _ => exact ⟨rfl, fun _ => trivial⟩

end Program
end ReplicaWatch
