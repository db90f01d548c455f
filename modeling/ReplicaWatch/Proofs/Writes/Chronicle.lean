import Mathlib
import ReplicaWatch.Proofs.Sweeping
import ReplicaWatch.Proofs.Writes.Log

/-! The chronicle of a run: which step wrote what, and which step's commands found the lock held. A step writes on its
own, outside its commands, and within its commands other steps are taken, each with a chronicle of its own. Main
statement: what a step adds to the trace is such a chronicle, and the names under which pools are stored change as its
writes tell. -/
namespace ReplicaWatch

/-- The write of an event. A record that is refreshed keeps its names, so that refreshing is no write. -/
def Event.write? : Event → Option Write
  | changed (.stored uid record) => some (.put uid record.pool record.ns)
  | changed (.removed uid) => some (.remove uid)
  | changed .cleared => some .clear
  | _ => none

/-- What adding an object writes if it ends well: a pool with mirroring is put into the store. -/
def puts (obj : Json) : List Write :=
  match BlockPool.ofJson obj with
  | .ok pool => if pool.mirrored then [.put pool.uid pool.name.asText pool.ns.asText] else []
  | .error _ => []

/-- What deleting an object writes. -/
def removals (obj : Json) : List Write :=
  match BlockPool.uidOf obj with
  | .ok uid => [.remove uid]
  | .error _ => []

/-- What an event about an object writes if it is followed well. -/
def reported (event obj : Json) : List Write :=
  match event.member? "type" with
  | some type => if Session.isDeletion type then removals obj else puts obj
  | none => []

namespace Step

/-- Whether the commands of a step find the lock held. -/
def holds (serialize : Bool) : Step → Bool
  | resync => serialize
  | _ => false

/-- Whether a step writes to the store when it ends well. -/
def writes : Step → Bool
  | add _ => true
  | update _ => true
  | delete _ => true
  | replace _ => true
  | event _ _ _ _ => true
  | _ => false

def isReplace : Step → Bool
  | replace _ => true
  | _ => false

end Step

/-- What a step writes on its own until it has replied, or until now if it has not. -/
inductive Wrote : Step → Option Reply → List Write → Prop
  | add (obj a) : Wrote (.add obj) (some (.answer a)) (puts obj)
  | update (obj a) : Wrote (.update obj) (some (.answer a)) (puts obj)
  | delete (obj a) : Wrote (.delete obj) (some (.answer a)) (removals obj)
  | event (event obj ns name a) : Wrote (.event event obj ns name) (some (.answer a)) (reported event obj)
  | replaced {items added} (listed : Session.itemsOf? items = some added) (a) :
      Wrote (.replace items) (some (.answer a)) (.clear :: added.flatMap puts)
  | stopped {items added item rest} (listed : Session.itemsOf? items = some (added ++ item :: rest)) (e) :
      Wrote (.replace items) (some (.failure e)) (.clear :: added.flatMap puts)
  | unlisted {items} (listed : Session.itemsOf? items = none) (e) :
      Wrote (.replace items) (some (.failure e)) [.clear]
  | replacing {items added item rest} (listed : Session.itemsOf? items = some (added ++ item :: rest)) :
      Wrote (.replace items) none (.clear :: added.flatMap puts)
  | failed {step} (other : step.isReplace = false) (e) : Wrote step (some (.failure e)) []
  | underway {step} (other : step.isReplace = false) : Wrote step none []
  | blocked (step) : Wrote step (some .blocked) []
  | reading {step} (other : step.writes = false) (a) : Wrote step (some (.answer a)) []

/-- Writing at the end: the last event is the one write, if there is one. -/
inductive AtEnd : List Write → List Event → Prop
  | nothing (events) : AtEnd [] events
  | last (events) {e : Event} {w : Write} (h : e.write? = some w) : AtEnd [w] (events ++ [e])

/-- When a step writes: a replacement starts by clearing everything away, any other step writes when it ends. -/
def Timely (step : Step) (own : List Write) (events : List Event) : Prop :=
  if step.isReplace then own = [] ∨ ∃ rest, events = .changed .cleared :: rest else AtEnd own events

mutual

/-- The events of steps that were taken one after the other, with their replies. -/
inductive Taken (serialize : Bool) : List Step → List Reply → List Event → Prop
  | nil : Taken serialize [] [] []
  | cons {step reply own events steps replies more} (deeds : Deeds serialize (step.holds serialize) own events)
      (wrote : Wrote step (some reply) own) (timely : Timely step own events)
      (rest : Taken serialize steps replies more) :
      Taken serialize (step :: steps) (reply :: replies) (events ++ more)

/-- The events of one step with what it wrote on its own. Its commands all find the lock held, or all find it free,
and within them others take steps. -/
inductive Deeds (serialize : Bool) : Bool → List Write → List Event → Prop
  | nil {held} : Deeds serialize held [] []
  | plain {held e} (h : e.isPlain = true) : Deeds serialize held e.write?.toList [e]
  | append {held own own' events events'} (h : Deeds serialize held own events)
      (h' : Deeds serialize held own' events') : Deeds serialize held (own ++ own') (events ++ events')
  | command {held steps replies events} (h : Taken serialize steps replies events) (args : List String)
      (timeout : Option Seconds) (ending : Ending) :
      Deeds serialize held [] (.started args timeout held :: events ++ [.ended ending replies])

end

namespace Session

/-- The names under which pools are stored. -/
def names (s : Session) : Ledger String (String × String) := s.cache.records.map Record.names

/-- The events from one session to another, which tell how the names change under which pools are stored. -/
structure Tells (s : Session) (events : List Event) (t : Session) : Prop where
  trace : t.trace = s.trace ++ events
  names : t.names = (events.filterMap Event.write?).foldl Write.apply s.names

/-- From one session to another, a step did some deeds. -/
def Does (serialize held : Bool) (own : List Write) (s t : Session) : Prop :=
  ∃ events, Tells s events t ∧ Deeds serialize held own events

/-- From one session to another, a step did some deeds and wrote, if at all, at the end. -/
def Ends (serialize held : Bool) (own : List Write) (s t : Session) : Prop :=
  ∃ events, Tells s events t ∧ Deeds serialize held own events ∧ AtEnd own events

/-- From one session to another, a step was taken and got a reply. -/
def Acts (serialize : Bool) (step : Step) (reply : Reply) (s t : Session) : Prop :=
  ∃ own events, Tells s events t ∧ Deeds serialize (step.holds serialize) own events ∧
    Wrote step (some reply) own ∧ Timely step own events

section
variable {serialize held : Bool} {own own' : List Write} {s t u : Session} {events events' : List Event}

lemma Tells.refl (s : Session) : Tells s [] s := ⟨by simp, rfl⟩

lemma Tells.trans (h : Tells s events t) (h' : Tells t events' u) : Tells s (events ++ events') u :=
  ⟨by rw [h'.trace, h.trace, List.append_assoc], by rw [h'.names, h.names, List.filterMap_append, List.foldl_append]⟩

lemma Does.refl (s : Session) : Does serialize held [] s s := ⟨[], .refl s, .nil⟩

lemma Does.trans (h : Does serialize held own s t) (h' : Does serialize held own' t u) :
    Does serialize held (own ++ own') s u := by
  obtain ⟨l, tells, deeds⟩ := h
  obtain ⟨l', tells', deeds'⟩ := h'
  exact ⟨l ++ l', tells.trans tells', deeds.append deeds'⟩

/-- Before or after a deed that writes nothing, the writes are the same. -/
lemma Does.after (h : Does serialize held [] s t) (h' : Does serialize held own t u) : Does serialize held own s u :=
  h.trans h'

lemma Does.before (h : Does serialize held own s t) (h' : Does serialize held [] t u) :
    Does serialize held own s u := by
  have both := h.trans h'
  rwa [List.append_nil] at both

lemma Does.ends (h : Does serialize held [] s t) : Ends serialize held [] s t := by
  obtain ⟨l, tells, deeds⟩ := h
  exact ⟨l, tells, deeds, .nothing l⟩

lemma Ends.does (h : Ends serialize held own s t) : Does serialize held own s t := by
  obtain ⟨l, tells, deeds, -⟩ := h
  exact ⟨l, tells, deeds⟩

/-! ## Moves -/

lemma write?_of_isQuiet {e : Event} (h : e.isQuiet = true) : e.write? = none := by
  cases e with
  | changed change =>
    cases change with
    | stored uid record => cases h
    | refreshed uid record => rfl
    | removed uid => cases h
    | cleared => cases h
    | _ => rfl
  | _ => rfl

lemma isPlain_of_isQuiet {e : Event} (h : e.isQuiet = true) : e.isPlain = true := by
  cases e with
  | started args timeout locked => cases h
  | ended ending replies => cases h
  | _ => rfl

lemma deeds_of_isQuiet (quiet : ∀ e ∈ events, e.isQuiet = true) : Deeds serialize held [] events := by
  induction events with
  | nil => exact .nil
  | cons e rest ih =>
    have he := quiet e List.mem_cons_self
    have first : Deeds serialize held [] [e] := by
      have plain : Deeds serialize held e.write?.toList [e] := .plain (isPlain_of_isQuiet he)
      rwa [write?_of_isQuiet he] at plain
    exact first.append (ih fun x hx => quiet x (List.mem_cons_of_mem _ hx))

lemma Quiet.does (h : Quiet s t) : Does serialize held [] s t := by
  obtain ⟨events, htrace, quiet⟩ := h.events
  have silent : events.filterMap Event.write? = [] :=
    List.filterMap_eq_nil_iff.2 fun e he => write?_of_isQuiet (quiet e he)
  exact ⟨events, ⟨htrace, by rw [silent, names, h.records]; rfl⟩, deeds_of_isQuiet quiet⟩

lemma deeds_change {change : Change} {w : Write} (hw : (Event.changed change).write? = some w) :
    Deeds serialize held [w] [.changed change] := by
  have plain : Deeds serialize held (Event.changed change).write?.toList [.changed change] := .plain rfl
  rwa [hw] at plain

lemma Does.change (h : Does serialize held [] s t) {change : Change} {w : Write}
    (hw : (Event.changed change).write? = some w) : Ends serialize held [w] s (t.change change) := by
  obtain ⟨l, tells, deeds⟩ := h
  have told : Tells t [.changed change] (t.change change) := by
    refine ⟨rfl, ?_⟩
    simp only [List.filterMap_cons, hw, List.filterMap_nil, List.foldl_cons, List.foldl_nil]
    cases change with
    | stored uid record =>
      cases hw
      exact Ledger.map_insert _ _ _ _
    | removed uid =>
      cases hw
      exact Ledger.map_erase _ _ _
    | cleared =>
      cases hw
      rfl
    | _ => cases hw
  exact ⟨l ++ [.changed change], tells.trans told, deeds.append (deeds_change hw), .last l hw⟩

/-- Refreshing a record that is stored under the same names is no write. -/
lemma does_refreshed {uid : String} {old fresh : Record} (stored : s.cache.records.get? uid = some old)
    (same : fresh.names = old.names) : Does serialize held [] s (s.change (.refreshed uid fresh)) := by
  have deeds : Deeds serialize held (Event.changed (.refreshed uid fresh)).write?.toList
      [.changed (.refreshed uid fresh)] := .plain rfl
  refine ⟨[.changed (.refreshed uid fresh)], ⟨rfl, ?_⟩, deeds⟩
  have there : s.names.get? uid = some fresh.names := by rw [names, Ledger.get?_map, stored, same]; rfl
  exact (Ledger.map_insert _ _ _ _).trans (Ledger.insert_eq_self there)

end

/-! ## Operations -/

/-- A session that has been traced since its cache was set up. -/
def Traced (setup : Setup) (history : List Event) (s : Session) : Prop := ∃ events, Sound setup history s events

/-- The steps that others take have a chronicle. -/
structure Chronicled (setup : Setup) (history : List Event) (m : Meanwhile) : Prop where
  orderly : Orderly m
  takes : ∀ steps s, Traced setup history s →
    ∃ taken events, Tells s events (m steps s).2 ∧ Taken setup.serialize taken (m steps s).1 events

section
variable {setup : Setup} {history : List Event} {m : Meanwhile} (hm : Chronicled setup history m)
variable {s : Session} (hs : Traced setup history s)
include hm hs

lemma does_run (pool : String) (args : List String) :
    Does setup.serialize s.cache.locked [] s (s.run m pool args).2 := by
  obtain ⟨_, sound⟩ := id hs
  obtain ⟨_, l, tells, taken⟩ := hm.takes (s.world.takeOutcome pool).1.meanwhile (s.launch pool args)
    ⟨_, sound.launch pool args⟩
  rw [run_eq]
  refine ⟨_, ⟨trace_of_launch tells.trace _ _, ?_⟩, .command taken _ _ _⟩
  have quiet : (Event.started args s.cache.setup.timeout s.cache.locked :: l ++ [Event.ended
      (s.world.takeOutcome pool).1.ending
        (m (s.world.takeOutcome pool).1.meanwhile (s.launch pool args)).1]).filterMap
      Event.write? = l.filterMap Event.write? := by
    simp [Event.write?, List.filterMap_cons]
  rw [quiet]
  exact tells.names

lemma does_fetch (pool : String) (c : Credentials) :
    Does setup.serialize s.cache.locked [] s (s.fetch m pool c).2 := by
  simp only [fetch]
  split
  · exact .refl s
  · exact (does_run hm hs _ _).after (quiet_conclude _ _ _ _).does

lemma does_fetchRecord (pool ns : Json) :
    Does setup.serialize s.cache.locked [] s (s.fetchRecord m pool ns).2 := by
  have cases := fetchRecord_cases s m pool ns
  generalize s.fetchRecord m pool ns = r at cases ⊢
  cases cases with
  | refused _ => exact .refl s
  | unresolved _ resolved => exact (quiet_of_resolved resolved).does
  | misnamed _ resolved _ => exact (quiet_of_resolved resolved).does
  | @ended n c t p _ _ permitted resolved _ fetched =>
    have quiet := quiet_of_resolved resolved
    have moves := evolves_resolvePermitted s (Setup.permit_eq_ok_iff.1 permitted).2 false
    rw [resolved] at moves
    have hf := does_fetch hm (moves.sound hs) (Text.asString p) c
    rw [quiet.locked, fetched] at hf
    exact quiet.does.after hf

/-- What an operation writes that writes only if it ends well. -/
def onSuccess (own : List Write) : Except Failure Unit → List Write
  | .ok _ => own
  | .error _ => []

lemma ends_add (obj : Json) :
    Ends setup.serialize s.cache.locked (onSuccess (puts obj) (s.add m obj).1) s (s.add m obj).2 := by
  cases hp : BlockPool.ofJson obj with
  | error e =>
    simp only [add, puts, hp]
    exact (Does.refl s).ends
  | ok pool =>
    obtain ⟨uid, name, ns, mirrored⟩ := pool
    cases mirrored with
    | false =>
      simp only [add, puts, hp]
      exact (quiet_log _ _ _).does.ends
    | true =>
      have hf := does_fetchRecord hm hs name ns
      simp only [add, puts, hp, if_true]
      generalize hr : s.fetchRecord m name ns = r at hf ⊢
      obtain ⟨result, t⟩ := r
      cases result with
      | error e => exact hf.ends
      | ok record =>
        obtain ⟨⟨p, rfl, hpool⟩, hns⟩ := fetchRecord_names hr
        have shown : ns.asText = record.ns := by
          rw [hns]
          exact Text.asString_ofString _
        refine hf.change ?_
        rw [shown]
        exact congrArg (fun p => some (Write.put uid p record.ns)) hpool

omit hm hs in
lemma ends_delete (s : Session) (serialize held : Bool) (obj : Json) :
    Ends serialize held (onSuccess (removals obj) (s.delete obj).1) s (s.delete obj).2 := by
  cases hu : BlockPool.uidOf obj with
  | error e =>
    simp only [delete, removals, hu]
    exact (Does.refl s).ends
  | ok uid =>
    simp only [delete, removals, hu]
    exact (Does.refl s).change rfl

/-- Items are added up to the first that fails. -/
lemma does_addAll (free : s.cache.locked = false) (items : List Json) :
    ((s.addAll m items).1 = .ok () ∧ Does setup.serialize false (items.flatMap puts) s (s.addAll m items).2) ∨
      ∃ e added item rest, (s.addAll m items).1 = .error e ∧ items = added ++ item :: rest ∧
        Does setup.serialize false (added.flatMap puts) s (s.addAll m items).2 := by
  induction items generalizing s with
  | nil => exact .inl ⟨rfl, .refl s⟩
  | cons item rest ih =>
    have ha := (ends_add hm hs item).does
    have moves := evolves_add hm.orderly.evolves s item
    have keeps := keeps_add hm.orderly.keeps free item
    rw [free] at ha
    simp only [addAll]
    split
    · next e t h =>
      rw [h] at ha
      exact .inr ⟨e, [], item, rest, rfl, rfl, ha⟩
    · next t h =>
      rw [h] at ha moves keeps
      rcases ih (moves.sound hs) (keeps.locked.trans free) with ⟨hok, hd⟩ | ⟨e, added, stop, left, herr, rfl, hd⟩
      · exact .inl ⟨hok, ha.trans hd⟩
      · exact .inr ⟨e, item :: added, stop, left, herr, rfl, ha.trans hd⟩

lemma acts_replace (free : s.cache.locked = false) (items : Json) :
    Acts setup.serialize (.replace items) (Reply.ofResult (fun _ => .done) (s.replace m items)).1 s
      (s.replace m items).2 := by
  have cleared : Tells s [.changed .cleared] (s.change .cleared) := ⟨rfl, rfl⟩
  have first : Deeds setup.serialize false [.clear] [.changed .cleared] := deeds_change rfl
  have timely {own : List Write} {events : List Event} :
      Timely (.replace items) own ([.changed .cleared] ++ events) :=
    .inr ⟨events, rfl⟩
  cases listed : itemsOf? items with
  | none =>
    simp only [replace, listed]
    exact ⟨_, _, cleared, first, .unlisted listed _, timely⟩
  | some all =>
    have tracked : Traced setup history (s.change .cleared) := (Evolves.dropped s rfl).sound hs
    simp only [replace, listed]
    have added := does_addAll hm tracked free all
    generalize (s.change .cleared).addAll m all = r at added ⊢
    obtain ⟨result, t⟩ := r
    rcases added with ⟨rfl, l, tells, deeds⟩ | ⟨e, before, item, rest, rfl, rfl, l, tells, deeds⟩
    · exact ⟨_, _, cleared.trans tells, first.append deeds, .replaced listed _, timely⟩
    · exact ⟨_, _, cleared.trans tells, first.append deeds, .stopped listed e, timely⟩

/-! ## Sweeps -/

omit hs in
/-- A sweep refreshes only what is stored under the names of its snapshot, which is no write. -/
lemma does_refresh {start : Session} (tracked : Traced setup history start) {held : Bool} {uid : String}
    {record : Record} {rest : List (String × Record)} (ahead : Ahead start held s ((uid, record) :: rest))
    (tally : Tally) : Does setup.serialize held [] s (s.refresh m held uid record tally).2 := by
  obtain ⟨_, sound⟩ := id tracked
  have hf := does_fetchRecord hm (ahead.moves.sound tracked) (.ofString record.pool) (.ofString record.ns)
  have stored := ahead.stored hm.orderly sound (.ofString record.pool) (.ofString record.ns)
  have cases := refresh_cases s m held uid record tally
  rw [ahead.locked] at hf
  generalize hr : s.fetchRecord m (.ofString record.pool) (.ofString record.ns) = r at hf stored cases
  generalize s.refresh m held uid record tally = r' at cases ⊢
  obtain ⟨fetched, u⟩ := r
  cases cases with
  | wrote may =>
    obtain ⟨hpool, hns⟩ := names_of_fetchRecord hr
    exact hf.after (does_refreshed (stored may) (by rw [Record.names, hpool, hns]; rfl))
  | skipped yields => exact hf
  | failed cause => exact hf.after (quiet_log _ _ _).does
  | ended other => exact hf

omit hs in
lemma does_sweep {start : Session} (tracked : Traced setup history start) {held : Bool}
    {entries rest : List (String × Record)} (ahead : Ahead start held s (entries ++ rest)) (tally : Tally) :
    Does setup.serialize held [] s (s.sweep m held tally entries).2 := by
  induction entries generalizing s tally with
  | nil => exact .refl s
  | cons entry entries ih =>
    have hd := does_refresh hm tracked ahead tally
    simp only [sweep]
    split
    · next h =>
      rw [h] at hd
      exact hd
    · next h =>
      rw [h] at hd
      exact hd.after (ih (ahead.next hm.orderly h) _)

omit hm hs in
/-- Taking or freeing the lock is no event. -/
lemma does_setLocked (s : Session) (serialize held locked : Bool) : Does serialize held [] s (s.setLocked locked) :=
  ⟨[], ⟨by simp, rfl⟩, .nil⟩

omit hm hs in
lemma does_sweepStart (s : Session) (serialize held : Bool) : Does serialize held [] s s.sweepStart :=
  (quiet_log s _ _).does.after (does_setLocked _ _ _ _)

lemma does_resync : Does setup.serialize setup.serialize [] s (s.resync m).2 := by
  obtain ⟨_, sound⟩ := id hs
  have ahead : Ahead s s.cache.setup.serialize s.sweepStart (s.cache.records.entries ++ []) := by
    simpa using s.sweepStart_ahead
  have swept := does_sweep hm hs ahead ⟨0, 0, 0⟩
  rw [sound.setup_eq] at swept
  have all := (does_sweepStart s setup.serialize setup.serialize).after swept
  rw [resync_eq, sound.setup_eq]
  split
  · next h =>
    rw [h] at all
    exact all.before (does_setLocked _ _ _ _)
  · next h =>
    rw [h] at all
    exact (all.before (does_setLocked _ _ _ _)).before (quiet_log _ _ _).does

/-! ## Steps -/

/-- The event that a step follows writes what its object tells, if the event has a type. -/
lemma ends_handle (free : s.cache.locked = false) (event obj : Json) (ns name : String) :
    Ends setup.serialize false (onSuccess (reported event obj) (s.handle m event obj ns name).1) s
      (s.handle m event obj ns name).2 := by
  have answered {own : List Write} {r : Except Failure Unit × Session}
      (h : Ends setup.serialize false (onSuccess own r.1) s r.2) :
      Ends setup.serialize false (onSuccess own (answerEvent ns name r).1) s (answerEvent ns name r).2 := by
    unfold answerEvent
    split
    · exact (Does.before h.does (quiet_note _ rfl).does).ends
    · exact h
  have added := ends_add hm hs obj
  rw [free] at added
  cases event with
  | object members =>
    cases typed : (Json.object members).member? "type" with
    | none =>
      simp only [handle, typed]
      exact (Does.refl s).ends
    | some type =>
      simp only [handle, reported, typed]
      cases isDeletion type with
      | true => exact answered (ends_delete s _ _ obj)
      | false => exact answered added
  | _ => exact (Does.refl s).ends

omit hm hs in
lemma Ends.acts {step : Step} {own : List Write} {r : Except Failure Unit × Session}
    (h : Ends setup.serialize (step.holds setup.serialize) (onSuccess own r.1) s r.2)
    (done : Wrote step (some (.answer .done)) own) (other : step.isReplace = false) :
    Acts setup.serialize step (Reply.ofResult (fun _ => .done) r).1 s r.2 := by
  obtain ⟨events, tells, deeds, atEnd⟩ := h
  obtain ⟨result, t⟩ := r
  have timely : Timely step (onSuccess own result) events := by
    rw [Timely, other]
    exact atEnd
  cases result with
  | ok _ => exact ⟨_, events, tells, deeds, done, timely⟩
  | error e => exact ⟨_, events, tells, deeds, .failed other e, timely⟩

omit hm hs in
/-- A step that writes nothing at all. -/
lemma Does.acts {step : Step} {reply : Reply} {t : Session}
    (h : Does setup.serialize (step.holds setup.serialize) [] s t) (wrote : Wrote step (some reply) [])
    (other : step.isReplace = false) : Acts setup.serialize step reply s t := by
  obtain ⟨events, tells, deeds⟩ := h
  refine ⟨[], events, tells, deeds, wrote, ?_⟩
  rw [Timely, other]
  exact .nothing events

omit hm hs in
lemma wrote_nothing {α : Type} {step : Step} (other : step.isReplace = false) (reading : step.writes = false)
    (f : α → Answer) (r : Except Failure α × Session) : Wrote step (some (Reply.ofResult f r).1) [] := by
  obtain ⟨result, t⟩ := r
  cases result with
  | ok a => exact .reading reading _
  | error e => exact .failed other e

omit hm hs in
lemma acts_of_isLockFree {step : Step} (free : step.isLockFree = true) (s : Session) (m : Meanwhile) :
    Acts setup.serialize step (s.perform m step).1 s (s.perform m step).2 := by
  have does {held : Bool} : Does setup.serialize held [] s (s.perform m step).2 := (quiet_perform free s m).does
  cases step with
  | resolve ns refresh => exact does.acts (wrote_nothing rfl rfl _ _) rfl
  | invalidate ns => exact does.acts (wrote_nothing rfl rfl _ _) rfl
  | setObject name response => exact does.acts (.reading rfl _) rfl
  | removeObject name => exact does.acts (.reading rfl _) rfl
  | setEndings pool outcomes => exact does.acts (.reading rfl _) rfl
  | _ => cases free

lemma acts_perform (free : s.cache.locked = false) (step : Step) :
    Acts setup.serialize step (s.perform m step).1 s (s.perform m step).2 := by
  have added (obj : Json) : Ends setup.serialize false (onSuccess (puts obj) (s.add m obj).1) s (s.add m obj).2 := by
    have h := ends_add hm hs obj
    rwa [free] at h
  cases step with
  | add obj =>
    simp only [perform, Reply.ofResult_snd]
    exact Ends.acts (added obj) (.add obj _) rfl
  | update obj =>
    simp only [perform, Reply.ofResult_snd]
    exact Ends.acts (added obj) (.update obj _) rfl
  | delete obj =>
    simp only [perform, Reply.ofResult_snd]
    exact Ends.acts (ends_delete s _ _ obj) (.delete obj _) rfl
  | event event obj ns name =>
    simp only [perform, Reply.ofResult_snd]
    exact Ends.acts (ends_handle hm hs free event obj ns name) (.event event obj ns name _) rfl
  | replace items =>
    simp only [perform, Reply.ofResult_snd]
    exact acts_replace hm hs free items
  | resync =>
    simp only [perform, Reply.ofResult_snd]
    exact Does.acts (does_resync hm hs) (wrote_nothing rfl rfl _ _) rfl
  | isAllowed ns =>
    simp only [perform, Reply.ofResult_snd]
    exact (Does.refl s).acts (wrote_nothing rfl rfl _ _) rfl
  | resolve ns refresh => exact acts_of_isLockFree rfl s m
  | invalidate ns => exact acts_of_isLockFree rfl s m
  | setObject name response => exact acts_of_isLockFree rfl s m
  | removeObject name => exact acts_of_isLockFree rfl s m
  | setEndings pool outcomes => exact acts_of_isLockFree rfl s m
  | _ => exact (Does.refl s).acts (.reading rfl _) rfl

omit hm hs in
lemma timely_nothing (step : Step) : Timely step [] [] := by
  unfold Timely
  split
  · exact .inl rfl
  · exact .nothing []

lemma acts_attempt (step : Step) : Acts setup.serialize step (s.attempt m step).1 s (s.attempt m step).2 := by
  cases held : s.cache.locked with
  | false =>
    rw [attempt_of_free held]
    exact acts_perform hm hs held step
  | true =>
    rw [attempt_of_locked held]
    split
    · next free => exact acts_of_isLockFree free s m
    · exact ⟨[], [], .refl s, .nil, .blocked step, timely_nothing step⟩

lemma taken_attemptAll (steps : List Step) :
    ∃ events, Tells s events (s.attemptAll m steps).2 ∧
      Taken setup.serialize steps (s.attemptAll m steps).1 events := by
  induction steps generalizing s with
  | nil => exact ⟨[], .refl s, .nil⟩
  | cons step rest ih =>
    obtain ⟨own, events, tells, deeds, wrote, timely⟩ := acts_attempt hm hs step
    obtain ⟨more, tells', taken⟩ := ih ((evolves_attempt hm.orderly.evolves s step).sound hs)
    exact ⟨events ++ more, tells.trans tells', .cons deeds wrote timely taken⟩

end

/-- Steps that are held back write nothing. -/
lemma taken_blocked (serialize : Bool) (steps : List Step) :
    Taken serialize steps (steps.map fun _ => .blocked) [] := by
  induction steps with
  | nil => exact .nil
  | cons step rest ih =>
    have all : Taken serialize (step :: rest) (.blocked :: rest.map fun _ => .blocked) ([] ++ []) :=
      .cons .nil (.blocked step) (timely_nothing step) ih
    exact all

/-- However deep steps are nested, they have a chronicle. -/
theorem chronicled_nested (setup : Setup) (history : List Event) (depth : ℕ) :
    Chronicled setup history (nested depth) where
  orderly := orderly_nested depth
  takes := by
    induction depth with
    | zero => exact fun steps s _ => ⟨steps, [], .refl s, taken_blocked setup.serialize steps⟩
    | succ depth ih =>
      exact fun steps s hs => ⟨steps, taken_attemptAll ⟨orderly_nested depth, ih⟩ hs steps⟩

/-! ## Commands that have begun -/

/-- Where a step runs a command, `u` is the session up to it, and `own` is what the step wrote on its own so far. -/
structure Under (serialize : Bool) (step : Step) (own : List Write) (s u : Session) : Prop where
  does : Does serialize (step.holds serialize) own s u
  locked : u.cache.locked = step.holds serialize
  wrote : Wrote step none own

lemma FetchBegins.quiet {s t : Session} {pool ns : Json} (h : s.FetchBegins pool ns t) :
    ∃ u p args, t = u.launch p args ∧ Quiet s u := by
  obtain ⟨-, resolved, -, -⟩ := h
  exact ⟨_, _, _, rfl, quiet_of_resolved resolved⟩

lemma Begins.under {setup : Setup} {history : List Event} {m : Meanwhile} (hm : Chronicled setup history m)
    {s t : Session} (hs : Traced setup history s) (free : s.cache.locked = false) {step : Step}
    (h : s.Begins m step t) : ∃ own u p args, t = u.launch p args ∧ Under setup.serialize step own s u := by
  have alone {step : Step} {obj : Json} (other : step.isReplace = false) (unheld : step.holds setup.serialize = false)
      (h : s.AddBegins obj t) : ∃ own u p args, t = u.launch p args ∧ Under setup.serialize step own s u := by
    obtain ⟨pool, -, -, h⟩ := h
    obtain ⟨u, p, args, rfl, quiet⟩ := h.quiet
    exact ⟨[], u, p, args, rfl, quiet.does, by rw [quiet.locked, free, unheld], .underway other⟩
  cases h with
  | add h => exact alone rfl rfl h
  | update h => exact alone rfl rfl h
  | event _ _ h => exact alone rfl rfl h
  | @replace items before item after u t listed added h =>
    obtain ⟨pool, -, -, h⟩ := h
    obtain ⟨v, p, args, rfl, quiet⟩ := h.quiet
    have tracked : Traced setup history (s.change .cleared) := (Evolves.dropped s rfl).sound hs
    have unlocked : (s.change .cleared).cache.locked = false := free
    have keeps := keeps_addAll hm.orderly.keeps unlocked before
    have cleared : Does setup.serialize false [.clear] s (s.change .cleared) := ((Does.refl s).change rfl).does
    have all := does_addAll hm tracked unlocked before
    rw [added] at keeps all
    rcases all with ⟨-, all⟩ | ⟨e, _, _, _, herr, -⟩
    · refine ⟨_, v, p, args, rfl, (cleared.trans all).before quiet.does, ?_, .replacing listed⟩
      exact quiet.locked.trans (keeps.locked.trans unlocked)
    · cases herr
  | @resync uid record tally u t comes h =>
    obtain ⟨v, p, args, rfl, quiet⟩ := h.quiet
    obtain ⟨before, after, entries, swept⟩ := comes
    obtain ⟨_, sound⟩ := id hs
    have ahead := s.sweepStart_ahead
    rw [entries] at ahead
    have some := does_sweep hm hs ahead ⟨0, 0, 0⟩
    rw [swept, sound.setup_eq] at some
    have locked := (ahead.sweep hm.orderly swept).locked
    rw [sound.setup_eq] at locked
    refine ⟨[], v, p, args, rfl, ?_, quiet.locked.trans locked, .underway rfl⟩
    exact ((does_sweepStart s _ _).after some).before quiet.does

end Session
end ReplicaWatch
