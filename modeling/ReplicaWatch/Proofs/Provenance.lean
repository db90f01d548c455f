import Mathlib
import ReplicaWatch.Proofs.Replay

/-! Where the stored records come from. Main statement: whatever is written to the store was reported just before by a
command of the run that finished, for the pool of the record, with the credentials that were held at its start for the
namespace of the record. -/
namespace ReplicaWatch

/-- A command of a run: what came before it, its start, what happened while it ran, and its end. -/
structure Call where
  before : List Event
  args : List String
  timeout : Option Seconds
  locked : Bool
  during : List Event
  ending : Ending
  replies : List Reply

/-- What happened up to the end of a command. -/
def Call.events (call : Call) : List Event :=
  call.before ++ (.started call.args call.timeout call.locked :: call.during ++ [.ended call.ending call.replies])

namespace Session

/-- Events end in the command that reported what a record holds. -/
def Fetched (setup : Setup) (events : List Event) (record : Record) : Prop :=
  ∃ (call : Call) (output : List UInt8) (c : Credentials), call.events = events ∧ Balanced call.during ∧
    call.ending = .finished output ∧ Status.decode output = .ok record.status ∧
    call.args = Command.status setup.command record.pool c ∧
    ((Cache.new setup).after call.before).known.get? record.ns = some c

/-- A session in which `events` have happened since the cache was set up: they tell what it holds, and everything that
was written had just been fetched. -/
structure Sound (setup : Setup) (history : List Event) (s : Session) (events : List Event) : Prop where
  trace_eq : s.trace = history ++ events
  content_eq : s.cache.content = (Cache.new setup).after events
  sourced : ∀ (i : ℕ) (change : Change) (uid : String) (record : Record), events[i]? = some (.changed change) →
    change.record? = some (uid, record) → Fetched setup (events.take i) record ∧ record.stamp = history.length + i

section
variable {setup : Setup} {history events : List Event} {s t : Session}

lemma Sound.setup_eq (h : Sound setup history s events) : s.cache.setup = setup := by
  rw [← Cache.content_setup, h.content_eq, Cache.after_setup]
  rfl

lemma Sound.known_eq (h : Sound setup history s events) : s.cache.known = ((Cache.new setup).after events).known := by
  rw [← Cache.content_known, h.content_eq]

lemma Sound.records_eq (h : Sound setup history s events) :
    s.cache.records = ((Cache.new setup).after events).records := by
  rw [← Cache.content_records, h.content_eq]

lemma Sound.append (h : Sound setup history s events) {e : Event} (ht : t.trace = s.trace ++ [e])
    (hc : t.cache.content = s.cache.content.after [e])
    (he : ∀ change uid record, e = .changed change → change.record? = some (uid, record) →
      Fetched setup events record ∧ record.stamp = s.trace.length) : Sound setup history t (events ++ [e]) where
  trace_eq := by rw [ht, h.trace_eq, List.append_assoc]
  content_eq := by rw [hc, h.content_eq, Cache.after_append]
  sourced := by
    intro i change uid record hi hr
    rcases getElem?_append_single hi with ⟨hlt, hi⟩ | ⟨rfl, hlast⟩
    · rw [List.take_append_of_le_length hlt.le]
      exact h.sourced i change uid record hi hr
    · rw [List.take_left]
      have hw := he change uid record hlast hr
      rwa [h.trace_eq, List.length_append] at hw

lemma Sound.note (h : Sound setup history s events) {e : Event} (he : e.change? = none) :
    Sound setup history (s.note e) (events ++ [e]) := by
  refine h.append rfl (Cache.after_single he _).symm ?_
  rintro change uid record rfl
  cases he

lemma Sound.change (h : Sound setup history s events) {change : Change}
    (hw : ∀ uid record, change.record? = some (uid, record) →
      Fetched setup events record ∧ record.stamp = s.trace.length) :
    Sound setup history (s.change change) (events ++ [.changed change]) := by
  refine h.append rfl (by simp) ?_
  rintro change uid record ⟨rfl⟩
  exact hw uid record

lemma Sound.launch (h : Sound setup history s events) (pool : String) (args : List String) :
    Sound setup history (s.launch pool args)
      (events ++ [.started args s.cache.setup.timeout s.cache.locked]) :=
  h.append rfl (Cache.after_single rfl _).symm (fun _ _ _ he => by cases he)

/-- A command that ran since, and what it reported. -/
lemma Sound.fetched (h : Sound setup history s events) {ns pool : String} {c : Credentials}
    (held : s.cache.known.get? ns = some c) {more : List Event}
    (during : Evolves (s.launch pool (Command.status s.cache.setup.command pool c)) t)
    (ht : Sound setup history t more) {output : List UInt8} {status : Status.Pool}
    (decoded : Status.decode output = .ok status) (replies : List Reply) (stamp : ℕ) :
    Fetched setup (more ++ [.ended (.finished output) replies]) ⟨stamp, pool, ns, status⟩ := by
  obtain ⟨l, hl, balanced, -⟩ := during.replay
  have hmore : more = events ++ [.started (Command.status s.cache.setup.command pool c) s.cache.setup.timeout
      s.cache.locked] ++ l := by
    rw [ht.trace_eq, (h.launch pool _).trace_eq, List.append_assoc] at hl
    exact List.append_cancel_left hl
  refine ⟨⟨events, Command.status setup.command pool c, s.cache.setup.timeout, s.cache.locked, l, .finished output,
    replies⟩, output, c, ?_, balanced, rfl, decoded, rfl, ?_⟩
  · rw [hmore, Call.events, h.setup_eq]
    simp
  · rw [← h.known_eq]
    exact held

/-- Every move keeps a session sound. -/
lemma Evolves.sound (h : Evolves s t) : (∃ events, Sound setup history s events) →
    ∃ events, Sound setup history t events := by
  induction h with
  | refl s => exact id
  | trans _ _ ih ih' => exact ih' ∘ ih
  | surroundings s world => exact fun ⟨events, h⟩ => ⟨events, h.trace_eq, h.content_eq, h.sourced⟩
  | lock s locked _ => exact fun ⟨events, h⟩ => ⟨events, h.trace_eq, h.content_eq, h.sourced⟩
  | logged s line => exact fun ⟨events, h⟩ => ⟨_, h.note rfl⟩
  | asked s _ _ => exact fun ⟨events, h⟩ => ⟨_, h.note rfl⟩
  | learned s _ _ _ _ => exact fun ⟨events, h⟩ => ⟨_, ((h.note rfl).note rfl).change (fun _ _ hw => by cases hw)⟩
  | @dropped s change hd =>
    rintro ⟨events, h⟩
    exact ⟨_, h.change fun uid record hw => by rw [Change.record?_of_drops hd] at hw; cases hw⟩
  | command _ _ ending replies ih =>
    rintro ⟨events, h⟩
    obtain ⟨more, ht⟩ := ih ⟨_, h.launch _ _⟩
    exact ⟨_, ht.note rfl⟩
  | @committed s t ns pool c output status uid held during replies decoded change written ih =>
    rintro ⟨events, h⟩
    obtain ⟨more, ht⟩ := ih ⟨_, h.launch _ _⟩
    refine ⟨_, (ht.note rfl).change fun u record hw => ?_⟩
    rw [written] at hw
    cases hw
    exact ⟨h.fetched held during ht decoded replies _, by simp⟩

lemma Sound.evolves (h : Sound setup history s events) (moves : Evolves s t) {since : List Event}
    (ht : t.trace = s.trace ++ since) : Sound setup history t (events ++ since) := by
  obtain ⟨more, hm⟩ := moves.sound ⟨events, h⟩
  have he : more = events ++ since := by
    rw [hm.trace_eq, h.trace_eq, List.append_assoc] at ht
    exact List.append_cancel_left ht
  rwa [he] at hm

theorem Reachable.sound (h : Reachable setup history s) : ∃ events, Sound setup history s events := by
  refine Reachable.invariant (fun world => ⟨[], by simp, rfl, by simp⟩) (fun s t hm hs => hm.sound hs) ?_ h
  rintro s ns pool c - ⟨events, hs⟩
  exact ⟨_, hs.launch pool _⟩

/-- In every reachable session, whatever was ever written to the store was written right after the end of a command
that finished: what the command wrote decodes to the status, its argument 4 is the pool of the record, and its other
arguments are the credentials that were held for the namespace of the record when it started. Every record in the
store was written in this way. -/
theorem status_provenance (reachable : Reachable setup history s) :
    ∃ events, s.trace = history ++ events ∧ s.cache.content = (Cache.new setup).after events ∧
      (∀ uid record, s.cache.records.get? uid = some record →
        ∃ (i : ℕ) (change : Change), events[i]? = some (.changed change) ∧ change.record? = some (uid, record)) ∧
      ∀ (i : ℕ) (change : Change) (uid : String) (record : Record), events[i]? = some (.changed change) →
        change.record? = some (uid, record) →
        ∃ (call : Call) (output : List UInt8) (c : Credentials),
          call.events = events.take i ∧ Balanced call.during ∧ call.ending = .finished output ∧
          Status.decode output = .ok record.status ∧ call.args[4]? = some record.pool ∧
          call.args[8]? = some "-m" ∧ call.args[9]? = some c.monitor ∧
          call.args[10]? = some "--id" ∧ call.args[11]? = some c.id ∧
          call.args[12]? = some "--key" ∧ call.args[13]? = some c.key ∧
          ((Cache.new setup).after call.before).known.get? record.ns = some c := by
  obtain ⟨events, sound⟩ := reachable.sound
  refine ⟨events, sound.trace_eq, sound.content_eq, ?_, ?_⟩
  · intro uid record h
    rw [sound.records_eq] at h
    obtain ⟨i, change, hi, hr, -⟩ := Cache.last_write h
    exact ⟨i, change, hi, hr⟩
  · intro i change uid record hi hr
    obtain ⟨⟨call, output, c, hevents, balanced, finished, decoded, hargs, held⟩, -⟩ :=
      sound.sourced i change uid record hi hr
    refine ⟨call, output, c, hevents, balanced, finished, decoded, ?_⟩
    rw [hargs]
    exact ⟨rfl, rfl, rfl, rfl, rfl, rfl, rfl, held⟩

end

/-- A pool is added again after its first command failed with a document that could have been read. -/
def addedTwice : Session :=
  Sample.run "a2V5" true [⟨.exited 1 (Sample.document "ERROR"), []⟩, ⟨.finished (Sample.document "OK"), []⟩]
    [.add (Sample.pool "u1" "pool1" "ns1"), .add (Sample.pool "u1" "pool1" "ns1")]

lemma addedTwice_reachable : Reachable (Sample.setup true) [] addedTwice := Sample.run_reachable _ _ _ _

theorem addedTwice_status_provenance :
    ∃ record, addedTwice.cache.records.get? "u1" = some record ∧
      ∃ (call : Call) (output : List UInt8) (c : Credentials), call.ending = .finished output ∧
        Status.decode output = .ok record.status ∧ call.args[4]? = some record.pool ∧
        call.args[13]? = some c.key := by
  obtain ⟨events, -, -, stored, written⟩ := status_provenance addedTwice_reachable
  have h : addedTwice.cache.records.get? "u1" =
      some ⟨11, "pool1", "ns1", ⟨"OK", "OK", "OK", .zero⟩, [], []⟩ := by decide +kernel
  obtain ⟨i, change, hi, hr⟩ := stored "u1" _ h
  obtain ⟨call, output, c, -, -, finished, decoded, pool, -, -, -, -, -, key, -⟩ := written i change _ _ hi hr
  exact ⟨_, h, call, output, c, finished, decoded, pool, key⟩

end Session
end ReplicaWatch
