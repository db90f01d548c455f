import Mathlib
import ReplicaWatch.Proofs.Threads.Rules

/-! Who has the lock while threads act in any order. Main statements: at any time at most one thread has the lock, and
it is held exactly if one has it; nobody else changes the store then, and whoever has it can go on. -/
namespace ReplicaWatch

/-- A thread keeps the rules in what is left for it to do, of which there is nothing once it has replied. -/
structure Thread.Keeps (setup : Setup) (t : Thread) : Prop where
  rest : t.rest.Keeps (t.step.holds setup.serialize) t.step.Ends t.turn
  replied : ∀ reply, t.reply = some reply → t.rest = .done reply

lemma Thread.keeps_new (setup : Setup) (step : Step) : (Thread.new setup step).Keeps setup :=
  ⟨Program.keeps_ofStep setup step, nofun⟩

/-! ## Actions -/

/-- What becomes of the lock and the store when a thread acts: it leaves the lock as it is, and the store too if it
does not have the lock, or it takes the lock, or gives it back. -/
inductive Turn.Passes (sweeps : Bool) (s : Session) : Turn → Session → Turn → Prop
  | stays {turn u} (locked : u.cache.locked = s.cache.locked)
      (records : turn.holds = false → u.cache.records = s.cache.records)
      (renews : ∀ since, turn = .now since → sweeps = true → Renewed since s.cache.records →
        Renewed since u.cache.records) : Passes sweeps s turn u turn
  | takes {turn} (free : s.cache.locked = false) (without : turn.holds = false) :
      Passes sweeps s turn (s.setLocked true) (.now s.cache.records)
  | gives {turn} (held : turn.holds = true) : Passes sweeps s turn (s.setLocked false) .past

lemma Turn.Passes.of_same {sweeps : Bool} {s u : Session} (turn : Turn) (locked : u.cache.locked = s.cache.locked)
    (records : u.cache.records = s.cache.records) : Passes sweeps s turn u turn :=
  .stays locked (fun _ => records) fun _ _ _ renewed => records ▸ renewed

/-- An action of a thread that keeps the rules. -/
lemma Action.Keeps.passes {sweeps : Bool} {turn : Turn} {a : Action} {next : a.Result → Prop} {s : Session}
    (h : a.Keeps sweeps turn next)
    (renewed : ∀ since, turn = .now since → sweeps = true → Renewed since s.cache.records) :
    next (a.perform s).1 ∧ Turn.Passes sweeps s turn (a.perform s).2 turn := by
  cases a with
  | look => exact ⟨h _ renewed, .of_same turn rfl rfl⟩
  | ask name => exact ⟨h _, .of_same turn rfl rfl⟩
  | consult => exact ⟨h _, .of_same turn rfl rfl⟩
  | report line => exact ⟨h _, .of_same turn rfl rfl⟩
  | arrange f => exact ⟨h _, .of_same turn rfl rfl⟩
  | log level text =>
    have same : (s.log level text).cache = s.cache := Session.log_cache s level text
    exact ⟨h _, .of_same turn (congrArg Cache.locked same) (congrArg Cache.records same)⟩
  | change c =>
    refine ⟨h.2, ?_⟩
    cases ofStore : c.isOfStore with
    | false => exact .of_same turn (s.cache.apply_locked c) (s.cache.records_apply ofStore)
    | true =>
      obtain ⟨since, rfl, renews⟩ := h.1 ofStore
      refine .stays (s.cache.apply_locked c) nofun fun _ same sweeps renewed => ?_
      cases same
      obtain ⟨uid, fresh, record, rfl, stored, pool, ns⟩ := renews sweeps
      exact renewed.insert stored pool ns

lemma Action.perform_setup (a : Action) (s : Session) : (a.perform s).2.cache.setup = s.cache.setup := by
  cases a with
  | log level text => exact congrArg Cache.setup (Session.log_cache s level text)
  | change c => exact s.cache.apply_setup c
  | _ => rfl

/-! ## Threads -/

namespace Crowd

/-- A thread that acts keeps the rules. -/
structure Advances (setup : Setup) (c : Crowd) (t : Thread) (u : Session) (t' : Thread) : Prop where
  step : t'.step = t.step
  keeps : t'.Keeps setup
  same : u.cache.setup = c.session.cache.setup
  passes : t.turn.Passes (t.step.holds setup.serialize) c.session u t'.turn

lemma advances_of_keeps {setup : Setup} {c : Crowd} {t t' : Thread} {u : Session} {steps : List Step}
    (keeps : t.Keeps setup)
    (renewed : ∀ since, t.turn = .now since → t.step.holds setup.serialize = true →
      Renewed since c.session.cache.records)
    (h : c.advance t = some (u, t', steps)) : Advances setup c t u t' := by
  obtain ⟨rest, replied⟩ := keeps
  obtain ⟨step, program, command, turn, reply⟩ := t
  -- Only a thread that is done has replied.
  have unreplied (going : ∀ r, program ≠ .done r) (r : Reply) : reply ≠ some r := fun hr => going r (replied r hr)
  cases program with
  | done r =>
    cases reply with
    | some r => cases h
    | none =>
      cases h
      exact ⟨rfl, ⟨rest, fun r' hr => congrArg Program.done (Option.some.inj hr)⟩, rfl, .of_same turn rfl rfl⟩
  | act a next =>
    cases h
    obtain ⟨goes, passes⟩ := Action.Keeps.passes rest renewed
    exact ⟨rfl, ⟨goes, fun r hr => absurd hr (unreplied nofun r)⟩, a.perform_setup c.session, passes⟩
  | acquire next =>
    cases held : c.session.cache.locked with
    | true => simp [advance, held] at h
    | false =>
      simp only [advance, held, Bool.false_eq_true, if_false, Option.some.injEq, Prod.mk.injEq] at h
      obtain ⟨rfl, rfl, -⟩ := h
      exact ⟨rfl, ⟨rest.2 _, fun r hr => absurd hr (unreplied nofun r)⟩, rfl, .takes held rest.1⟩
  | release next =>
    cases h
    exact ⟨rfl, ⟨rest.2, fun r hr => absurd hr (unreplied nofun r)⟩, rfl, .gives rest.1⟩
  | call pool args next =>
    cases command with
    | none =>
      cases h
      exact ⟨rfl, ⟨rest, fun r hr => absurd hr (unreplied nofun r)⟩, rfl, .of_same turn rfl rfl⟩
    | some running =>
      cases h
      exact ⟨rfl, ⟨rest.2 _ _, fun r hr => absurd hr (unreplied nofun r)⟩, rfl, .of_same turn rfl rfl⟩

/-- A thread that does nothing has replied, or waits for the lock while another has it. -/
lemma of_advance_eq_none {setup : Setup} {c : Crowd} {t : Thread} (keeps : t.Keeps setup) (h : c.advance t = none) :
    t.reply.isSome = true ∨ t.turn.holds = false ∧ c.session.cache.locked = true := by
  obtain ⟨rest, -⟩ := keeps
  obtain ⟨step, program, command, turn, reply⟩ := t
  cases program with
  | done r =>
    cases reply with
    | some r => exact .inl rfl
    | none => cases h
  | act a next => cases h
  | acquire next =>
    cases held : c.session.cache.locked with
    | true => exact .inr ⟨rest.1, rfl⟩
    | false => simp [advance, held] at h
  | release next => cases h
  | call pool args next =>
    cases command with
    | none => cases h
    | some running => cases h

/-! ## Crowds -/

/-- Threads keep the rules, at most one of them has the lock, and it is held exactly if one has it. A sweep that has
it has renewed what it found. -/
structure Sound (setup : Setup) (holder : Option ℕ) (c : Crowd) : Prop where
  same : c.session.cache.setup = setup
  keeps : ∀ (i : ℕ) (t : Thread), c.threads[i]? = some t → t.Keeps setup
  locked : c.session.cache.locked = holder.isSome
  holds : ∀ (i : ℕ) (t : Thread), c.threads[i]? = some t → (t.turn.holds = true ↔ holder = some i)
  there : ∀ i : ℕ, holder = some i → i < c.threads.length
  renewed : ∀ (i : ℕ) (t : Thread), c.threads[i]? = some t → ∀ since, t.turn = .now since →
    t.step.holds setup.serialize = true → Renewed since c.session.cache.records

section
variable {c d : Crowd} {i j : ℕ} {t v : Thread}

lemma move_of_advance {u : Session} {t' : Thread} {steps : List Step} (there : c.threads[i]? = some t)
    (h : c.advance t = some (u, t', steps)) : c.move i = some (c.after i u t' steps) := by
  simp only [move, there, Option.bind_eq_bind, Option.bind_some, h]
  rfl

lemma move_eq_some (h : c.move i = some d) :
    ∃ t u t' steps, c.threads[i]? = some t ∧ c.advance t = some (u, t', steps) ∧ d = c.after i u t' steps := by
  simp only [move, Option.bind_eq_bind, Option.bind_eq_some_iff] at h
  obtain ⟨t, there, ⟨u, t', steps⟩, advances, h⟩ := h
  cases h
  exact ⟨t, u, t', steps, there, advances, rfl⟩

lemma advance_of_move (there : c.threads[i]? = some t) (h : c.move i = none) : c.advance t = none := by
  cases advances : c.advance t with
  | none => rfl
  | some next =>
    obtain ⟨u, t', steps⟩ := next
    rw [move_of_advance there advances] at h
    cases h

lemma lt_length (there : c.threads[i]? = some t) : i < c.threads.length := (List.getElem?_eq_some_iff.1 there).1

variable {u : Session} {t' : Thread} {steps : List Step}

lemma getElem?_after (there : c.threads[i]? = some t) : (c.after i u t' steps).threads[i]? = some t' := by
  rw [after, List.getElem?_append_left (by simpa using lt_length there), List.getElem?_set_self (lt_length there)]

lemma getElem?_after_of_ne (there : c.threads[j]? = some v) (other : j ≠ i) :
    (c.after i u t' steps).threads[j]? = some v := by
  rw [after, List.getElem?_append_left (by simpa using lt_length there), List.getElem?_set_ne (Ne.symm other), there]

/-- The threads after a move: the one that acted, those that did not, and new ones. -/
lemma of_getElem?_after (h : (c.after i u t' steps).threads[j]? = some v) :
    j = i ∧ v = t' ∨ j ≠ i ∧ c.threads[j]? = some v ∨
      c.threads.length ≤ j ∧ ∃ step, v = .new u.cache.setup step := by
  rw [after, List.getElem?_append] at h
  split at h
  · rw [List.getElem?_set] at h
    split at h
    · next same =>
      split at h
      · exact .inl ⟨same.symm, (Option.some.inj h).symm⟩
      · cases h
    · next other => exact .inr (.inl ⟨Ne.symm other, h⟩)
  · next after =>
    rw [List.length_set, not_lt] at after
    rw [List.getElem?_map, Option.map_eq_some_iff] at h
    obtain ⟨step, -, rfl⟩ := h
    exact .inr (.inr ⟨after, step, rfl⟩)

end

/-! ## The rules are kept -/

section
variable {setup : Setup} {holder : Option ℕ} {c d : Crowd} {i : ℕ}

/-- After one thread acted, the rules are kept if they are by that thread, and if all that matters to the others is as
it was. -/
lemma Sound.moved (sound : c.Sound setup holder) {t t' : Thread} {u : Session} (there : c.threads[i]? = some t)
    (advances : Advances setup c t u t') (holder' : Option ℕ) (locked : u.cache.locked = holder'.isSome)
    (own : t'.turn.holds = true ↔ holder' = some i) (others : ∀ j, j ≠ i → (holder' = some j ↔ holder = some j))
    (mine : ∀ since, t'.turn = .now since → t'.step.holds setup.serialize = true → Renewed since u.cache.records)
    (theirs : ∀ j, j ≠ i → holder = some j → u.cache.records = c.session.cache.records) (steps : List Step) :
    (c.after i u t' steps).Sound setup holder' := by
  have bound (j : ℕ) (h : holder' = some j) : j < c.threads.length := by
    by_cases same : j = i
    · exact same ▸ lt_length there
    · exact sound.there j ((others j same).1 h)
  have same : u.cache.setup = setup := advances.same.trans sound.same
  refine ⟨same, fun j v h => ?_, locked, fun j v h => ?_, fun j h => ?_,
    fun j v h since now sweeps => ?_⟩
  · obtain ⟨rfl, rfl⟩ | ⟨-, h⟩ | ⟨-, step, rfl⟩ := of_getElem?_after h
    · exact advances.keeps
    · exact sound.keeps j v h
    · exact same ▸ Thread.keeps_new _ step
  · obtain ⟨rfl, rfl⟩ | ⟨other, h⟩ | ⟨after, step, rfl⟩ := of_getElem?_after h
    · exact own
    · exact (sound.holds j v h).trans (others j other).symm
    · exact ⟨nofun, fun held => absurd (bound j held) (by omega)⟩
  · have := bound j h
    simp only [after, List.length_append, List.length_set]
    omega
  · obtain ⟨rfl, rfl⟩ | ⟨other, h⟩ | ⟨-, step, rfl⟩ := of_getElem?_after h
    · exact mine since now sweeps
    · have kept := theirs j other ((sound.holds j v h).1 (by rw [now]; rfl))
      exact kept ▸ sound.renewed j v h since now sweeps
    · cases now

/-- Whoever acts, the rules are kept. -/
lemma Sound.move (sound : c.Sound setup holder) (h : c.move i = some d) : ∃ holder, d.Sound setup holder := by
  obtain ⟨t, u, t', steps, there, advances, rfl⟩ := move_eq_some h
  have advances := advances_of_keeps (sound.keeps i t there) (sound.renewed i t there) advances
  have holds := sound.holds i t there
  have passes := advances.passes
  generalize turned : t'.turn = turn' at passes
  cases passes with
  | stays locked records renews =>
    refine ⟨holder, sound.moved there advances holder (locked.trans sound.locked) (turned ▸ holds)
      (fun _ _ => Iff.rfl) (fun since now sweeps => ?_) (fun j other held => records ?_) steps⟩
    · rw [turned] at now
      rw [advances.step] at sweeps
      exact renews since now sweeps (sound.renewed i t there since now sweeps)
    · rw [← Bool.not_eq_true, holds, held]
      exact fun same => other (Option.some.inj same)
  | takes free without =>
    have nobody : holder = none := Option.not_isSome_iff_eq_none.1 (by rw [← sound.locked, free]; nofun)
    refine ⟨some i, sound.moved there advances (some i) rfl ⟨fun _ => rfl, fun _ => by rw [turned]; rfl⟩
      (fun j other => ?_) (fun since now sweeps => ?_) (fun _ _ _ => rfl) steps⟩
    · rw [nobody]
      exact ⟨fun same => absurd (Option.some.inj same).symm other, nofun⟩
    · cases turned.symm.trans now
      exact .refl _
  | gives held =>
    have mine : holder = some i := holds.1 held
    refine ⟨none, sound.moved there advances none rfl ⟨fun h => ?_, nofun⟩ (fun j other => ?_) (fun since now _ => ?_)
      (fun _ _ _ => rfl) steps⟩
    · rw [turned] at h
      cases h
    · rw [mine]
      exact ⟨nofun, fun same => absurd (Option.some.inj same).symm other⟩
    · cases turned.symm.trans now

/-- What can come of a crowd. -/
def Runs : Crowd → Crowd → Prop := Relation.ReflTransGen fun c d => ∃ i, c.move i = some d

/-- In whatever order threads act, the rules are kept. -/
theorem Sound.runs (sound : c.Sound setup holder) (h : c.Runs d) : ∃ holder, d.Sound setup holder := by
  induction h with
  | refl => exact ⟨holder, sound⟩
  | tail _ moves ih =>
    obtain ⟨i, moves⟩ := moves
    obtain ⟨holder, sound⟩ := ih
    exact sound.move moves

end

/-! ## The holder -/

/-- A thread has the lock. -/
def Held (c : Crowd) (i : ℕ) : Prop := ∃ t, c.threads[i]? = some t ∧ t.turn.holds = true

/-- The crowds that come while a thread has the lock, up to where it gave it back. -/
def Under (i : ℕ) : Crowd → Crowd → Prop := Relation.ReflTransGen fun c d => c.Held i ∧ ∃ j, c.move j = some d

section
variable {setup : Setup} {holder : Option ℕ} {c d : Crowd} {i j : ℕ}

lemma Sound.held_iff (sound : c.Sound setup holder) : c.Held i ↔ holder = some i := by
  constructor
  · rintro ⟨t, there, held⟩
    exact (sound.holds i t there).1 held
  · intro h
    have there := List.getElem?_eq_getElem (sound.there i h)
    exact ⟨_, there, (sound.holds i _ there).2 h⟩

lemma Under.runs (h : Under i c d) : c.Runs d := by
  induction h with
  | refl => exact .refl
  | tail _ moves ih => exact ih.tail moves.2

/-- While one thread has the lock, another changes neither the store nor how it stands to the lock. -/
lemma Sound.other (sound : c.Sound setup (some i)) (other : j ≠ i) {t t' : Thread} {u : Session}
    (there : c.threads[j]? = some t) (advances : Advances setup c t u t') :
    u.cache.records = c.session.cache.records ∧ t'.turn = t.turn := by
  have without : t.turn.holds = false := by
    rw [← Bool.not_eq_true, sound.holds j t there]
    exact fun same => other (Option.some.inj same).symm
  have passes := advances.passes
  generalize t'.turn = turn' at passes ⊢
  cases passes with
  | stays locked records renews => exact ⟨records without, rfl⟩
  | takes free _ =>
    rw [sound.locked] at free
    cases free
  | gives held =>
    rw [without] at held
    cases held

/-- A thread that has replied does not have the lock, and if it never had it, it had nothing to write. -/
lemma Sound.replied (sound : c.Sound setup holder) {t : Thread} (there : c.threads[i]? = some t) {reply : Reply}
    (replied : t.reply = some reply) : t.step.Ends t.turn reply := by
  obtain ⟨rest, done⟩ := sound.keeps i t there
  rw [done reply replied] at rest
  exact rest

/-- Whoever has the lock can go on. -/
lemma Sound.goes (sound : c.Sound setup holder) (held : c.Held i) : ∃ d, c.move i = some d := by
  cases moves : c.move i with
  | some d => exact ⟨d, rfl⟩
  | none =>
    obtain ⟨t, there, held⟩ := held
    rcases of_advance_eq_none (sound.keeps i t there) (advance_of_move there moves) with replied | ⟨without, -⟩
    · obtain ⟨reply, replied⟩ := Option.isSome_iff_exists.1 replied
      rw [(sound.replied there replied).1] at held
      cases held
    · rw [without] at held
      cases held

/-- What is so while a sweep has the lock that it took when the store was such, up to where it gives it back: the
store is renewed, and a thread that never had the lock still never had it. -/
structure Sweeps (setup : Setup) (i : ℕ) (since : Ledger String Record) (c d : Crowd) : Prop where
  renewed : Renewed since d.session.cache.records
  sweeper : ∃ t, d.threads[i]? = some t ∧ t.step.holds setup.serialize = true ∧ (t.turn = .now since ∨ t.turn = .past)
  ahead : ∀ (k : ℕ) (v : Thread), k ≠ i → d.threads[k]? = some v →
    (∀ w : Thread, c.threads[k]? = some w → w.turn = .ahead) → v.turn = .ahead

lemma Sweeps.move {b : Crowd} {since : Ledger String Record} (h : Sweeps setup i since b c)
    (sound : c.Sound setup holder) (held : c.Held i) (moves : c.move j = some d) : Sweeps setup i since b d := by
  obtain rfl := sound.held_iff.1 held
  obtain ⟨renewed, ⟨s, there, sweeps, turn⟩, ahead⟩ := h
  obtain ⟨_, same, held⟩ := held
  cases there.symm.trans same
  have now : s.turn = .now since := by
    rcases turn with now | past
    · exact now
    · rw [past] at held
      cases held
  obtain ⟨t, u, t', steps, acts, advances, rfl⟩ := move_eq_some moves
  have advances := advances_of_keeps (sound.keeps j t acts) (sound.renewed j t acts) advances
  by_cases own : j = i
  · subst own
    cases there.symm.trans acts
    have passes := advances.passes
    rw [now] at passes
    have goes : Renewed since u.cache.records ∧ (t'.turn = .now since ∨ t'.turn = .past) := by
      generalize t'.turn = turn' at passes ⊢
      cases passes with
      | stays _ _ renews => exact ⟨renews since rfl sweeps renewed, .inl rfl⟩
      | takes _ without => cases without
      | gives _ => exact ⟨renewed, .inr rfl⟩
    refine ⟨goes.1, ⟨t', getElem?_after there, advances.step ▸ sweeps, goes.2⟩, fun k v other hv before => ?_⟩
    obtain ⟨rfl, -⟩ | ⟨-, hv⟩ | ⟨-, step, rfl⟩ := of_getElem?_after hv
    · exact absurd rfl other
    · exact ahead k v other hv before
    · rfl
  · obtain ⟨records, turn'⟩ := sound.other own acts advances
    refine ⟨?_, ⟨s, getElem?_after_of_ne there (Ne.symm own), sweeps, .inl now⟩, fun k v other hv before => ?_⟩
    · exact records ▸ renewed
    · obtain ⟨rfl, rfl⟩ | ⟨-, hv⟩ | ⟨-, step, rfl⟩ := of_getElem?_after hv
      · exact turn'.trans (ahead k t other acts before)
      · exact ahead k v other hv before
      · rfl

theorem Sound.sweeps {since : Ledger String Record} {t : Thread} (sound : c.Sound setup holder)
    (there : c.threads[i]? = some t) (sweeps : t.step.holds setup.serialize = true) (now : t.turn = .now since)
    (h : c.Under i d) : Sweeps setup i since c d := by
  induction h with
  | refl =>
    have renewed := sound.renewed i t there since now sweeps
    exact ⟨renewed, ⟨t, there, sweeps, .inl now⟩, fun k v _ hv before => before v hv⟩
  | tail under moves ih =>
    obtain ⟨held, j, moves⟩ := moves
    obtain ⟨holder, sound⟩ := sound.runs (Under.runs under)
    exact ih.move sound held moves

end

/-! ## Discipline -/

end Crowd
end ReplicaWatch
