import Mathlib
import ReplicaWatch.Proofs.Evolution

/-! The content of a cache is what the changes in its trace leave, and each command that a move starts ends in it.
Main statements: what a move adds to the trace, and that a stored record is the one that was written last. -/
namespace ReplicaWatch

namespace Event

def change? : Event → Option Change
  | changed change => some change
  | _ => none

/-- Whether an event writes or takes away what is stored for a pool. -/
def writes (uid : String) : Event → Bool
  | changed (.stored u _) => u == uid
  | changed (.refreshed u _) => u == uid
  | changed (.removed u) => u == uid
  | changed .cleared => true
  | _ => false

/-- Whether an event is neither the start nor the end of a command. -/
def isPlain : Event → Bool
  | started _ _ _ => false
  | ended _ _ => false
  | _ => true

end Event

/-- Events in which each command that starts also ends, the last to start first. -/
inductive Balanced : List Event → Prop
  | nil : Balanced []
  | plain {e} (h : e.isPlain = true) : Balanced [e]
  | append {l l'} (h : Balanced l) (h' : Balanced l') : Balanced (l ++ l')
  | command {l} (h : Balanced l) (args : List String) (timeout : Option Seconds) (locked : Bool) (ending : Ending)
      (replies : List Reply) : Balanced (.started args timeout locked :: l ++ [.ended ending replies])

/-- An entry of a list with one more at its end is one of the list, or is the one at the end. -/
lemma getElem?_append_single {α : Type} {l : List α} {a b : α} {i : ℕ} (h : (l ++ [a])[i]? = some b) :
    i < l.length ∧ l[i]? = some b ∨ i = l.length ∧ a = b := by
  rcases Nat.lt_or_ge i l.length with hlt | hge
  · rw [List.getElem?_append_left hlt] at h
    exact .inl ⟨hlt, h⟩
  · rw [List.getElem?_append_right hge, List.getElem?_singleton] at h
    split at h
    · next h0 =>
      have hi : i = l.length := by omega
      exact .inr ⟨hi, Option.some.inj h⟩
    · cases h

namespace Cache

/-- What a cache holds, whether it is locked or not. -/
def content (c : Cache) : Cache := { c with locked := false }

/-- What the changes among events leave of a cache. -/
def after (c : Cache) (events : List Event) : Cache := (events.filterMap Event.change?).foldl apply c

@[simp] lemma content_known (c : Cache) : c.content.known = c.known := rfl

@[simp] lemma content_records (c : Cache) : c.content.records = c.records := rfl

@[simp] lemma content_setup (c : Cache) : c.content.setup = c.setup := rfl

@[simp] lemma content_apply (c : Cache) (change : Change) : (c.apply change).content = c.content.apply change := by
  cases change <;> rfl

lemma after_append (c : Cache) (events more : List Event) :
    c.after (events ++ more) = (c.after events).after more := by
  simp [after]

@[simp] lemma after_changed (c : Cache) (change : Change) : c.after [.changed change] = c.apply change := rfl

lemma after_single {e : Event} (h : e.change? = none) (c : Cache) : c.after [e] = c := by
  simp [after, h]

lemma after_command (c : Cache) (args : List String) (timeout : Option Seconds) (locked : Bool) (events : List Event)
    (ending : Ending) (replies : List Reply) :
    c.after (.started args timeout locked :: events ++ [.ended ending replies]) = c.after events := by
  simp [after, Event.change?, List.filterMap_cons]

@[simp] lemma after_setup (c : Cache) (events : List Event) : (c.after events).setup = c.setup := by
  induction events using List.reverseRecOn with
  | nil => rfl
  | append_singleton events e ih =>
    rw [after_append]
    cases e with
    | changed change => simp [ih]
    | _ => rw [after_single rfl, ih]

/-- An event that does not write to a pool leaves what is stored for it. -/
lemma get?_after_single {e : Event} {uid : String} (h : e.writes uid = false) (c : Cache) :
    (c.after [e]).records.get? uid = c.records.get? uid := by
  cases e with
  | changed change =>
    have ne {u : String} (hu : (u == uid) = false) : uid ≠ u := fun e => by simp [e] at hu
    cases change with
    | stored u record => exact (Ledger.get?_insert _ _ _ _).trans (if_neg (ne h))
    | refreshed u record => exact (Ledger.get?_insert _ _ _ _).trans (if_neg (ne h))
    | removed u => exact (Ledger.get?_erase _ _ _).trans (if_neg (ne h))
    | cleared => cases h
    | _ => rfl
  | _ => rfl

lemma get?_after {events : List Event} {uid : String} (h : ∀ e ∈ events, e.writes uid = false) (c : Cache) :
    (c.after events).records.get? uid = c.records.get? uid := by
  induction events using List.reverseRecOn with
  | nil => rfl
  | append_singleton events e ih =>
    rw [after_append, get?_after_single (h e (by simp)), ih fun e he => h e (by simp [he])]

/-- What is stored for a pool was written by the last event that wrote to it. -/
lemma last_write {setup : Setup} {events : List Event} {uid : String} {record : Record}
    (h : ((new setup).after events).records.get? uid = some record) :
    ∃ (i : ℕ) (change : Change), events[i]? = some (.changed change) ∧ change.record? = some (uid, record) ∧
      ∀ (j : ℕ) (e : Event), i < j → events[j]? = some e → e.writes uid = false := by
  induction events using List.reverseRecOn with
  | nil => cases h
  | append_singleton events e ih =>
    rw [after_append] at h
    cases hw : e.writes uid with
    | false =>
      rw [get?_after_single hw] at h
      obtain ⟨i, change, hi, hc, hlast⟩ := ih h
      have hlt : i < events.length := (List.getElem?_eq_some_iff.1 hi).1
      refine ⟨i, change, by rw [List.getElem?_append_left hlt, hi], hc, fun j e' hj he' => ?_⟩
      rcases getElem?_append_single he' with ⟨-, he'⟩ | ⟨-, rfl⟩
      · exact hlast j e' hj he'
      · exact hw
    | true =>
      -- Of the events that write, only those that store something leave something.
      have stored {change : Change} (hc : change.record? = some (uid, record)) (he : e = .changed change) :
          ∃ (i : ℕ) (change : Change), (events ++ [e])[i]? = some (.changed change) ∧
            change.record? = some (uid, record) ∧
            ∀ (j : ℕ) (e' : Event), i < j → (events ++ [e])[j]? = some e' → e'.writes uid = false := by
        refine ⟨events.length, change, by simp [he], hc, fun j e' hj he' => ?_⟩
        have := (List.getElem?_eq_some_iff.1 he').1
        simp only [List.length_append, List.length_singleton] at this
        omega
      cases e with
      | changed change =>
        cases change with
        | stored u r =>
          have hu : u = uid := by simpa [Event.writes] using hw
          simp only [after_changed, apply, Ledger.get?_insert, hu, if_true, Option.some.injEq] at h
          exact stored (by simp [Change.record?, hu, h]) rfl
        | refreshed u r =>
          have hu : u = uid := by simpa [Event.writes] using hw
          simp only [after_changed, apply, Ledger.get?_insert, hu, if_true, Option.some.injEq] at h
          exact stored (by simp [Change.record?, hu, h]) rfl
        | removed u =>
          have hu : u = uid := by simpa [Event.writes] using hw
          simp [apply, Ledger.get?_erase, hu] at h
        | cleared => simp [apply] at h
        | _ => cases hw
      | _ => cases hw

end Cache

namespace Session

lemma trace_of_launch {s t : Session} {pool : String} {args : List String} {events : List Event}
    (h : t.trace = (s.launch pool args).trace ++ events) (ending : Ending) (replies : List Reply) :
    (t.note (.ended ending replies)).trace =
      s.trace ++ (.started args s.cache.setup.timeout s.cache.locked :: events ++ [.ended ending replies]) := by
  rw [note_trace, h, launch, note_trace]
  simp

/-- A move adds events to the trace, and the content changes as they tell. -/
theorem Evolves.replay {s t : Session} (h : Evolves s t) :
    ∃ events, t.trace = s.trace ++ events ∧ Balanced events ∧ t.cache.content = s.cache.content.after events := by
  induction h with
  | refl s => exact ⟨[], by simp, .nil, rfl⟩
  | trans _ _ ih ih' =>
    obtain ⟨l, hl, hb, hc⟩ := ih
    obtain ⟨l', hl', hb', hc'⟩ := ih'
    exact ⟨l ++ l', by rw [hl', hl, List.append_assoc], hb.append hb', by rw [hc', hc, Cache.after_append]⟩
  | surroundings s world => exact ⟨[], by simp, .nil, rfl⟩
  | lock s locked _ => exact ⟨[], by simp, .nil, rfl⟩
  | logged s line => exact ⟨[_], rfl, .plain rfl, rfl⟩
  | asked s _ _ => exact ⟨[_], rfl, .plain rfl, rfl⟩
  | @learned s ns c _ _ _ _ =>
    exact ⟨[.asked (.secretOf ns)] ++ [.asked (.configOf ns)] ++ [.changed (.learned ns c)], by simp,
      ((Balanced.plain rfl).append (.plain rfl)).append (.plain rfl), rfl⟩
  | dropped s _ => exact ⟨[_], rfl, .plain rfl, by simp⟩
  | @command s t ns pool c _ _ ending replies ih =>
    obtain ⟨l, hl, hb, hc⟩ := ih
    exact ⟨_, trace_of_launch hl ending replies, hb.command _ _ _ _ _,
      hc.trans (Cache.after_command _ _ _ _ _ _ _).symm⟩
  | @committed s t ns pool c output status uid _ _ replies _ change _ ih =>
    obtain ⟨l, hl, hb, hc⟩ := ih
    have htrace := congrArg (fun l => l ++ [Event.changed change]) (trace_of_launch hl (.finished output) replies)
    rw [List.append_assoc] at htrace
    refine ⟨_, htrace, (hb.command _ _ _ _ _).append (.plain rfl), ?_⟩
    rw [Cache.after_append, Cache.after_command, change_cache, Cache.content_apply]
    exact congrArg (fun c => Cache.apply c change) hc

lemma Evolves.setup_eq {s t : Session} (h : Evolves s t) : t.cache.setup = s.cache.setup := by
  obtain ⟨events, -, -, content⟩ := h.replay
  rw [← Cache.content_setup, content, Cache.after_setup, Cache.content_setup]

end Session
end ReplicaWatch
