import Mathlib
import ReplicaWatch.Proofs.Evolution
import ReplicaWatch.Sweeper.Thread

/-! Sweeps that fail and a thread that goes on. Main statement: a thread that is told to shut down after so many
intervals has swept once after each of them, whatever the sweeps raised, has complained of those that raised and of no
others, and has taken its leave. Only what a wait raises ends a thread otherwise. -/
namespace ReplicaWatch.Sweeper

namespace Act
variable {ε α : Type}

/-- The interval of a wait and what the thread learned. -/
def wait? : Act ε α → Option (Seconds × Except ε Bool)
  | waited interval told => some (interval, told)
  | _ => none

def outcome? : Act ε α → Option (Except ε α)
  | swept outcome => some outcome
  | _ => none

end Act

/-! ## What a thread does in turn -/

section
variable {ε α : Type} {interval : Seconds}

/-- What a thread writes about a sweep. -/
def complaints : Except ε α → List Log.Line
  | .ok _ => []
  | .error _ => [complaint]

/-- What a thread does in an interval that passes. -/
def round (interval : Seconds) (outcome : Except ε α) : List (Act ε α) :=
  .waited interval (.ok false) :: .swept outcome :: (complaints outcome).map .logged

def rounds (interval : Seconds) (outcomes : List (Except ε α)) : List (Act ε α) := outcomes.flatMap (round interval)

/-- All that a thread does that is told to shut down. -/
def shift (interval : Seconds) (outcomes : List (Except ε α)) : List (Act ε α) :=
  rounds interval outcomes ++ [.waited interval (.ok true), .logged farewell]

lemma rounds_concat (outcomes : List (Except ε α)) (outcome : Except ε α) :
    rounds interval (outcomes ++ [outcome]) = rounds interval outcomes ++ round interval outcome := by
  simp [rounds]

lemma shift_nil : (shift interval [] : List (Act ε α)) = [.waited interval (.ok true), .logged farewell] := rfl

lemma shift_cons (outcome : Except ε α) (rest : List (Except ε α)) :
    shift interval (outcome :: rest) = round interval outcome ++ shift interval rest := by
  simp [shift, rounds]

lemma shift_begins (outcomes : List (Except ε α)) :
    ∃ told later, shift interval outcomes = .waited interval told :: later := by
  cases outcomes with
  | nil => exact ⟨_, _, rfl⟩
  | cons outcome rest => exact ⟨_, _, shift_cons outcome rest⟩

lemma length_shift_le (outcomes : List (Except ε α)) :
    (shift interval outcomes).length ≤ 3 * outcomes.length + 2 := by
  induction outcomes with
  | nil => simp [shift_nil]
  | cons outcome rest ih =>
    have three : (round interval outcome).length ≤ 3 := by cases outcome <;> simp [round, complaints]
    rw [shift_cons, List.length_append, List.length_cons]
    omega

/-- What a thread has to show for itself that was told to shut down once sweeps had come out in these ways. -/
structure Endures (interval : Seconds) (outcomes : List (Except ε α)) (acts : List (Act ε α)) : Prop where
  /-- It made these sweeps and no others, in order. -/
  sweeps : acts.filterMap Act.outcome? = outcomes
  /-- It waited once more than it swept, and only the last wait told it to shut down. -/
  waits : acts.filterMap Act.wait? = List.replicate outcomes.length (interval, .ok false) ++ [(interval, .ok true)]
  /-- It wrote a complaint for each sweep that raised, its farewell, and nothing else. -/
  lines : acts.filterMap Act.line? = outcomes.flatMap complaints ++ [farewell]
  /-- It waited right before each sweep. Between a sweep that raised and the next wait it wrote the complaint and did
  nothing else; after any other sweep it went on to the next wait at once. -/
  around : ∀ before outcome after, acts = before ++ .swept outcome :: after →
    (∃ earlier, before = earlier ++ [.waited interval (.ok false)]) ∧
      ∃ told later, after = (complaints outcome).map .logged ++ .waited interval told :: later
  /-- Its farewell was the last that it did, once it was told. -/
  ending : ∃ earlier, acts = earlier ++ [.waited interval (.ok true), .logged farewell]
  /-- All in all it did one round for each sweep, was told, and took its leave. -/
  whole : acts = shift interval outcomes

/-- What is looked for in the acts of a thread is found round by round. -/
lemma filterMap_shift {β : Type} (f : Act ε α → Option β) (outcomes : List (Except ε α)) :
    (shift interval outcomes).filterMap f = outcomes.flatMap (fun outcome => (round interval outcome).filterMap f) ++
      [.waited interval (.ok true), .logged farewell].filterMap f := by
  rw [shift, rounds, List.filterMap_append, List.filterMap_flatMap]

lemma outcomes_shift (outcomes : List (Except ε α)) :
    (shift interval outcomes).filterMap Act.outcome? = outcomes := by
  have own : (fun outcome : Except ε α => (round interval outcome).filterMap Act.outcome?) = ([·]) := by
    funext outcome
    cases outcome <;> rfl
  rw [filterMap_shift, own, List.flatMap_singleton']
  exact List.append_nil outcomes

lemma waits_shift (outcomes : List (Except ε α)) :
    (shift interval outcomes).filterMap Act.wait? =
      List.replicate outcomes.length (interval, .ok false) ++ [(interval, .ok true)] := by
  have own : (fun outcome : Except ε α => (round interval outcome).filterMap Act.wait?) =
      fun _ => [(interval, .ok false)] := by
    funext outcome
    cases outcome <;> rfl
  rw [filterMap_shift, own, ← List.map_eq_flatMap, List.map_const']
  rfl

lemma lines_shift (outcomes : List (Except ε α)) :
    (shift interval outcomes).filterMap Act.line? = outcomes.flatMap complaints ++ [farewell] := by
  have own : (fun outcome : Except ε α => (round interval outcome).filterMap Act.line?) = complaints := by
    funext outcome
    cases outcome <;> rfl
  rw [filterMap_shift, own]
  rfl

/-- A sweep behind the complaints about another one is behind them as a whole. -/
lemma behind_complaints {swept outcome : Except ε α} {before after later : List (Act ε α)}
    (split : (complaints swept).map Act.logged ++ later = before ++ .swept outcome :: after) :
    ∃ further, before = (complaints swept).map Act.logged ++ further ∧
      later = further ++ .swept outcome :: after := by
  cases swept with
  | ok a => exact ⟨before, rfl, split⟩
  | error e =>
    cases before with
    | nil => simp [complaints] at split
    | cons act further =>
      obtain ⟨rfl, rest⟩ := List.cons.inj split
      exact ⟨further, rfl, rest⟩

lemma around_shift {outcomes : List (Except ε α)} {before : List (Act ε α)} {outcome : Except ε α}
    {after : List (Act ε α)} (split : shift interval outcomes = before ++ .swept outcome :: after) :
    (∃ earlier, before = earlier ++ [.waited interval (.ok false)]) ∧
      ∃ told later, after = (complaints outcome).map .logged ++ .waited interval told :: later := by
  induction outcomes generalizing before with
  | nil =>
    have among : Act.swept outcome ∈ (shift interval [] : List (Act ε α)) := by simp [split]
    simp [shift_nil] at among
  | cons swept rest ih =>
    rw [shift_cons] at split
    match before, split with
    | [], split => simp [round] at split
    | [act], split =>
      -- The sweep is the one of the first round.
      obtain ⟨rfl, tail⟩ := List.cons.inj split
      obtain ⟨same, behind⟩ := List.cons.inj tail
      obtain rfl := Act.swept.inj same
      obtain ⟨told, later, next⟩ : ∃ told later, shift interval rest = .waited interval told :: later :=
        shift_begins rest
      exact ⟨⟨[], rfl⟩, told, later, next ▸ behind.symm⟩
    | first :: second :: before, split =>
      obtain ⟨rfl, tail⟩ := List.cons.inj split
      obtain ⟨rfl, behind⟩ := List.cons.inj tail
      obtain ⟨further, rfl, rest⟩ := behind_complaints behind
      obtain ⟨⟨earlier, rfl⟩, next⟩ := ih rest
      exact ⟨⟨round interval swept ++ earlier, by simp [round]⟩, next⟩

lemma endures_shift (outcomes : List (Except ε α)) : Endures interval outcomes (shift interval outcomes) where
  sweeps := outcomes_shift outcomes
  waits := waits_shift outcomes
  lines := lines_shift outcomes
  around _ _ _ := around_shift
  ending := ⟨_, rfl⟩
  whole := rfl

end

/-! ## Steps of a thread -/

section
variable {σ ε α : Type} {d : Duty σ ε α} {interval : Seconds}

lemma after_eq_iterate (n : ℕ) (t : Thread σ ε α) : d.after interval n t = (d.step interval)^[n] t := by
  induction n generalizing t with
  | zero => rfl
  | succ n ih => exact ih (d.step interval t)

lemma after_add (m n : ℕ) (t : Thread σ ε α) :
    d.after interval (m + n) t = d.after interval n (d.after interval m t) := by
  simp only [after_eq_iterate]
  rw [Nat.add_comm, Function.iterate_add_apply]

lemma after_ended (n : ℕ) (result : Except ε Unit) (acts : List (Act ε α)) (s : σ) :
    d.after interval n ⟨.ended result, acts, s⟩ = ⟨.ended result, acts, s⟩ := by
  rw [after_eq_iterate, Function.iterate_fixed rfl]

/-- A thread comes to an end in some number of steps. -/
def Duty.Ends (d : Duty σ ε α) (interval : Seconds) (s : σ) (result : Except ε Unit) (acts : List (Act ε α)) (t : σ) :
    Prop :=
  ∃ n, d.after interval n (.begin s) = ⟨.ended result, acts, t⟩

lemma Duty.Ends.unique {s t t' : σ} {result result' : Except ε Unit} {acts acts' : List (Act ε α)}
    (h : d.Ends interval s result acts t) (h' : d.Ends interval s result' acts' t') :
    result' = result ∧ acts' = acts ∧ t' = t := by
  obtain ⟨m, ended⟩ := h
  obtain ⟨n, ended'⟩ := h'
  -- Both are what is there after `m + n` steps.
  have same : (⟨.ended result', acts', t'⟩ : Thread σ ε α) = ⟨.ended result, acts, t⟩ := by
    calc (⟨.ended result', acts', t'⟩ : Thread σ ε α)
      _ = d.after interval m (d.after interval n (.begin s)) := by rw [ended', after_ended]
      _ = d.after interval n (d.after interval m (.begin s)) := by rw [← after_add, ← after_add, Nat.add_comm]
      _ = ⟨.ended result, acts, t⟩ := by rw [ended, after_ended]
  obtain ⟨stage, rfl, rfl⟩ := Thread.mk.inj same
  exact ⟨Stage.ended.inj stage, rfl, rfl⟩

/-- So it goes for a thread: intervals pass, sweeps come out in these ways, and then it is told to shut down. -/
inductive Duty.Goes (d : Duty σ ε α) (interval : Seconds) : σ → List (Except ε α) → σ → Prop
  | told {s t} (told : d.wait interval s = (.ok true, t)) : Goes d interval s [] t
  | passed {s t u v outcome rest} (passed : d.wait interval s = (.ok false, t)) (swept : d.sweep t = (outcome, u))
    (later : Goes d interval u rest v) : Goes d interval s (outcome :: rest) v

/-- Whatever a sweep raises, the thread is ready for the next wait once its round is done. -/
lemma after_round {s t u : σ} {outcome : Except ε α} (passed : d.wait interval s = (.ok false, t))
    (swept : d.sweep t = (outcome, u)) (acts : List (Act ε α)) :
    d.after interval (round interval outcome).length ⟨.ready, acts, s⟩ =
      ⟨.ready, acts ++ round interval outcome, u⟩ := by
  cases outcome <;>
    simp [round, complaints, Duty.after, Duty.step, Thread.note, passed, swept]

lemma Duty.Goes.after {s t : σ} {outcomes : List (Except ε α)} (h : d.Goes interval s outcomes t)
    (acts : List (Act ε α)) :
    d.after interval (shift interval outcomes).length ⟨.ready, acts, s⟩ =
      ⟨.ended (.ok ()), acts ++ shift interval outcomes, t⟩ := by
  -- Every step adds one act until the thread has ended, so the acts tell how many steps to take.
  induction h generalizing acts with
  | told told => simp [shift_nil, Duty.after, Duty.step, Thread.note, told]
  | passed passed swept later ih =>
    rw [shift_cons, List.length_append, after_add, after_round passed swept, ih, List.append_assoc]

lemma Duty.Goes.ends {s t : σ} {outcomes : List (Except ε α)} (h : d.Goes interval s outcomes t) :
    d.Ends interval s (.ok ()) (shift interval outcomes) t := ⟨_, h.after []⟩

lemma scripted_goes (ticks : List (Except ε Unit)) : Duty.scripted.Goes interval ticks ticks [] := by
  induction ticks with
  | nil => exact .told rfl
  | cons outcome rest ih => exact .passed rfl rfl ih

lemma play_eq (ticks : List (Except ε Unit)) :
    Duty.play interval ticks = ⟨.ended (.ok ()), shift interval ticks, []⟩ := by
  have enough : (shift interval ticks).length ≤ 3 * ticks.length + 2 := length_shift_le ticks
  obtain ⟨idle, total⟩ := Nat.exists_eq_add_of_le enough
  have goes : Duty.scripted.Goes interval ticks ticks [] := scripted_goes ticks
  have ended := goes.after []
  rw [Duty.play, total, after_add, Thread.begin, ended, after_ended, List.nil_append]

/-- What a thread has done at each stage, wherever its duty has led it. -/
inductive Thread.Sound (interval : Seconds) : Thread σ ε α → Prop
  | ready (outcomes s) : Sound interval ⟨.ready, rounds interval outcomes, s⟩
  | due (outcomes s) : Sound interval ⟨.due, rounds interval outcomes ++ [.waited interval (.ok false)], s⟩
  | caught (outcomes e s) :
    Sound interval ⟨.caught e, rounds interval outcomes ++ [.waited interval (.ok false), .swept (.error e)], s⟩
  | leaving (outcomes s) : Sound interval ⟨.leaving, rounds interval outcomes ++ [.waited interval (.ok true)], s⟩
  | ended (outcomes s) : Sound interval ⟨.ended (.ok ()), shift interval outcomes, s⟩
  | broken (outcomes e s) :
    Sound interval ⟨.ended (.error e), rounds interval outcomes ++ [.waited interval (.error e)], s⟩

lemma Thread.Sound.step {t : Thread σ ε α} (h : t.Sound interval) : (d.step interval t).Sound interval := by
  cases h with
  | ready outcomes s =>
    simp only [Duty.step, Thread.note]
    split
    · exact .leaving outcomes _
    · exact .due outcomes _
    · exact .broken outcomes _ _
  | due outcomes s =>
    simp only [Duty.step, Thread.note, List.append_assoc]
    split
    · next a u _ =>
      have again : Sound interval (⟨.ready, rounds interval (outcomes ++ [.ok a]), u⟩ : Thread σ ε α) := .ready _ _
      rwa [rounds_concat] at again
    · exact .caught outcomes _ _
  | caught outcomes e s =>
    simp only [Duty.step, Thread.note, List.append_assoc]
    have again : Sound interval (⟨.ready, rounds interval (outcomes ++ [.error e]), s⟩ : Thread σ ε α) := .ready _ _
    rwa [rounds_concat] at again
  | leaving outcomes s =>
    simp only [Duty.step, Thread.note, List.append_assoc]
    exact .ended outcomes s
  | ended outcomes s => exact .ended outcomes s
  | broken outcomes e s => exact .broken outcomes e s

lemma Thread.Sound.after {t : Thread σ ε α} (h : t.Sound interval) (n : ℕ) :
    (d.after interval n t).Sound interval := by
  induction n generalizing t with
  | zero => exact h
  | succ n ih => exact ih h.step

/-- Only what a wait raises gets out of a thread. -/
lemma Duty.Ends.raised {s t : σ} {e : ε} {acts : List (Act ε α)} (h : d.Ends interval s (.error e) acts t) :
    ∃ outcomes, acts = rounds interval outcomes ++ [.waited interval (.error e)] := by
  obtain ⟨n, ended⟩ := h
  have sound : (d.after interval n (.begin s)).Sound interval := (Thread.Sound.ready [] s).after n
  rw [ended] at sound
  cases sound with
  | broken outcomes e s => exact ⟨outcomes, rfl⟩

end

/-! ## Endurance -/

/-- A thread goes on whatever its sweeps raise. If they come out as it is set down for each, it has at last swept so
often and waited once more, has complained of each sweep that raised and of no other, and has taken its leave without
raising anything. It does so wherever its waits let it sweep and then tell it to shut down, and ends in no other way.
What a thread raises that ends with an exception was raised by a wait. -/
theorem thread_endures {σ ε α : Type} (interval : Seconds) :
    (∀ ticks : List (Except ε Unit), ∃ acts,
      Duty.play interval ticks = ⟨.ended (.ok ()), acts, []⟩ ∧ Endures interval ticks acts) ∧
    (∀ (d : Duty σ ε α) s outcomes t, d.Goes interval s outcomes t → ∃ acts, Endures interval outcomes acts ∧
      ∀ result acts' t', d.Ends interval s result acts' t' ↔ result = .ok () ∧ acts' = acts ∧ t' = t) ∧
    ∀ (d : Duty σ ε α) s e acts t, d.Ends interval s (.error e) acts t →
      ∃ outcomes, acts = rounds interval outcomes ++ [.waited interval (.error e)] := by
  refine ⟨fun ticks => ⟨_, play_eq ticks, endures_shift ticks⟩, fun d s outcomes t goes => ?_,
    fun d s e acts t ends => ends.raised⟩
  refine ⟨_, endures_shift outcomes, fun result acts' t' => ⟨goes.ends.unique, ?_⟩⟩
  rintro ⟨rfl, rfl, rfl⟩
  exact goes.ends

end ReplicaWatch.Sweeper

/-! ## A session that is looked after -/
namespace ReplicaWatch.Session
open Sweeper

/-- Sweeps a session, with all that others do while commands run. -/
def sweepOnce (s : Session) : Except Failure Tally × Session :=
  s.resync (nested (s.world.size + Step.resync.size + 1))

/-- The duty to sweep a session in which others take steps while the thread waits. It is over once they have taken all
of theirs. -/
def tending : Duty (Session × List (List Step)) Failure Tally where
  wait
    | _, (s, []) => (.ok true, (s, []))
    | _, (s, meanwhile :: later) => (.ok false, ((s.takeAll meanwhile).2, later))
  sweep
    | (s, later) => (s.sweepOnce.1, (s.sweepOnce.2, later))

/-- The outcomes of the sweeps of such a session, and what they leave. -/
def sweepAmid (s : Session) : List (List Step) → List (Except Failure Tally) × Session
  | [] => ([], s)
  | meanwhile :: later =>
    let (outcome, s) := (s.takeAll meanwhile).2.sweepOnce
    (outcome :: (s.sweepAmid later).1, (s.sweepAmid later).2)

/-- However the sweeps of a session end, there is one after each interval. -/
lemma tending_goes (interval : Seconds) (s : Session) (intervals : List (List Step)) :
    tending.Goes interval (s, intervals) (s.sweepAmid intervals).1 ((s.sweepAmid intervals).2, []) := by
  induction intervals generalizing s with
  | nil => exact .told rfl
  | cons meanwhile later ih => exact .passed rfl rfl (ih _)

/-- A session in which a pool is stored. -/
def tended : Session :=
  Sample.run "a2V5" true [⟨.finished (Sample.document "OK"), []⟩] [.add (Sample.pool "u1" "pool1" "ns1")]

/-- In the first interval the secret is spoilt and its key forgotten, and in the second it is mended. -/
def spoiltAndMended : List (List Step) :=
  [[.setObject (.secretOf "ns1") (.body (Utf8.encodeString "<html></html>")), .invalidate .null],
    [.setObject (.secretOf "ns1") (Sample.secret "a2V5")]]

/-- A duty that a wait breaks off once so many intervals have passed. -/
def stranded : Duty ℕ String Unit where
  wait
    | _, 0 => (.error "cannot wait", 0)
    | _, left + 1 => (.ok false, left)
  sweep left := (.error "boom", left)

/-- The first sweep raises what is wrong with the secret, and the second one refreshes the pool all the same. -/
theorem mended_thread_endures :
    (∃ outcomes t acts, tending.Goes (.whole 60) (tended, spoiltAndMended) outcomes t ∧
      outcomes.map Except.toOption = [none, some ⟨1, 0, 0⟩] ∧
      tending.Ends (.whole 60) (tended, spoiltAndMended) (.ok ()) acts t ∧
      acts.filterMap Act.line? = [complaint, farewell]) ∧
    ∃ acts, stranded.Ends (.whole 60) 1 (.error "cannot wait") acts 0 ∧ acts.length = 4 ∧
      ∃ outcomes, acts = rounds (.whole 60) outcomes ++ [.waited (.whole 60) (.error "cannot wait")] := by
  have goes := tending_goes (.whole 60) tended spoiltAndMended
  obtain ⟨acts, shown, ends⟩ := (thread_endures (.whole 60)).2.1 tending _ _ _ goes
  obtain ⟨refreshed, complained⟩ :
      (tended.sweepAmid spoiltAndMended).1.map Except.toOption = [none, some ⟨1, 0, 0⟩] ∧
        (tended.sweepAmid spoiltAndMended).1.flatMap complaints = [complaint] := by
    decide +kernel
  refine ⟨⟨_, _, acts, goes, refreshed, (ends _ _ _).2 ⟨rfl, rfl, rfl⟩, ?_⟩, ?_⟩
  · rw [shown.lines, complained]
    rfl
  · have broken : stranded.Ends (.whole 60) 1 (.error "cannot wait") _ 0 := ⟨4, rfl⟩
    exact ⟨_, broken, rfl, (thread_endures (.whole 60)).2.2 stranded _ _ _ _ broken⟩

end ReplicaWatch.Session
