import Mathlib
import ReplicaWatch.Sweeper.Thread

/-! The life of a sweeper that is started and stopped over and over. It is asked one thing after another, and its
threads end as soon as they are told to shut down. Main statement: after any calls it is running exactly if the last
start or stop was a start, its threads greet and part by turns, and no two of them are ever alive together, within a
call or between two. -/
namespace ReplicaWatch.Sweeper

/-- What a sweeper can be asked. -/
inductive Call where
  | start
  | stop
  | isRunning
  deriving DecidableEq

/-- The lines that a thread writes that is told to shut down before an interval has passed. -/
def parting (s : Sweeper) : List Log.Line :=
  ((Duty.play s.interval ([] : List (Except Failure Unit))).acts.filterMap Act.line?).flatMap (·.when s.logging)

lemma parting_eq (s : Sweeper) : s.parting = farewell.when s.logging := List.append_nil _

/-- The lines that a call writes and the sweeper after it. -/
def call (s : Sweeper) : Call → List Log.Line × Sweeper
  | .start => s.start
  | .stop => s.stop
  | .isRunning => ([], s)

/-- The lines that calls write one after another and the sweeper after them. -/
def callAll (s : Sweeper) (calls : List Call) : List Log.Line × Sweeper :=
  calls.foldl (fun r c => (r.1 ++ (r.2.call c).1, (r.2.call c).2)) ([], s)

lemma callAll_concat (s : Sweeper) (calls : List Call) (c : Call) :
    s.callAll (calls ++ [c]) =
      ((s.callAll calls).1 ++ ((s.callAll calls).2.call c).1, ((s.callAll calls).2.call c).2) :=
  List.foldl_concat ..

/-- Whether the last start or stop was a start. -/
def wanted (calls : List Call) : Bool := (calls.filter (· != .isRunning)).getLast? == some .start

@[simp] lemma wanted_start (calls : List Call) : wanted (calls ++ [.start]) = true := by simp [wanted]
@[simp] lemma wanted_stop (calls : List Call) : wanted (calls ++ [.stop]) = false := by simp [wanted]
@[simp] lemma wanted_isRunning (calls : List Call) : wanted (calls ++ [.isRunning]) = wanted calls := by simp [wanted]

/-! ## Working and resting -/

/-- It holds the one thread that is alive, which is not told to shut down. -/
structure Works (s : Sweeper) (t : ℕ) : Prop where
  held : s.thread = some t
  alive : s.alive = [t]
  untold : s.shutdown = false

/-- It holds no thread and none is alive. -/
structure Rests (s : Sweeper) : Prop where
  held : s.thread = none
  alive : s.alive = []

section
variable {s : Sweeper} {t : ℕ}

lemma Works.isRunning (h : s.Works t) : s.isRunning = true := by simp [Sweeper.isRunning, h.held, h.alive]

lemma Rests.isRunning (h : s.Rests) : s.isRunning = false := by simp [Sweeper.isRunning, h.held]

lemma start_of_running (h : s.isRunning = true) : s.start = ([], s) := if_pos h

lemma start_of_not_running (h : s.isRunning = false) : s.start = ((greeting s.interval).when s.logging,
    { s with shutdown := false, thread := some s.made, alive := s.made :: s.alive, made := s.made + 1 }) :=
  if_neg (by simp [h])

lemma Rests.start (h : s.Rests) : s.start.2.Works s.made := by
  rw [start_of_not_running h.isRunning]
  exact ⟨rfl, by rw [h.alive], rfl⟩

lemma Works.farewells (h : s.Works t) : s.stop.1 = farewell.when s.logging := by simp [stop, h.alive]

lemma Rests.farewells (h : s.Rests) : s.stop.1 = [] := by simp [stop, h.alive]

lemma rests_stop (s : Sweeper) : s.stop.2.Rests := ⟨rfl, rfl⟩

end

/-! ## Calls one after another -/

/-- The lines of so many threads that have come and gone, and of the one that is running. -/
def turns (interval : Seconds) (logging : Bool) (gone : ℕ) (running : Bool) : List Log.Line :=
  (List.replicate gone ((greeting interval).when logging ++ farewell.when logging)).flatten ++
    if running then (greeting interval).when logging else []

/-- What calls make of a new sweeper. The threads that it has made are numbered from zero on. -/
structure Course (interval : Seconds) (logging : Bool) (calls : List Call) (lines : List Log.Line) (s : Sweeper) :
    Prop where
  interval_eq : s.interval = interval
  logging_eq : s.logging = logging
  phase : if wanted calls then ∃ t, s.Works t ∧ t + 1 = s.made else s.Rests
  lines_eq : lines = turns interval logging (s.made - s.alive.length) (wanted calls)

section
variable {interval : Seconds} {logging : Bool} {calls : List Call} {lines : List Log.Line} {s : Sweeper}

lemma Course.works (h : Course interval logging calls lines s) (running : wanted calls = true) :
    ∃ t, s.Works t ∧ t + 1 = s.made := by simpa [running] using h.phase

lemma Course.rests (h : Course interval logging calls lines s) (resting : wanted calls = false) : s.Rests := by
  simpa [resting] using h.phase

lemma Course.isRunning (h : Course interval logging calls lines s) : s.isRunning = wanted calls := by
  cases running : wanted calls with
  | true =>
    obtain ⟨t, works, -⟩ := h.works running
    exact works.isRunning
  | false => exact (h.rests running).isRunning

lemma course_new : Course interval logging [] [] (new interval logging) where
  interval_eq := rfl
  logging_eq := rfl
  phase := ⟨rfl, rfl⟩
  lines_eq := rfl

/-- Each call goes by what came before it. -/
lemma Course.call (h : Course interval logging calls lines s) (c : Call) :
    Course interval logging (calls ++ [c]) (lines ++ (s.call c).1) (s.call c).2 := by
  cases c with
  | isRunning =>
    simp only [Sweeper.call, List.append_nil]
    exact ⟨h.interval_eq, h.logging_eq, by simpa using h.phase, by simpa using h.lines_eq⟩
  | start =>
    cases running : wanted calls with
    | true =>
      have same := start_of_running (h.isRunning.trans running)
      simp only [Sweeper.call, same, List.append_nil]
      exact ⟨h.interval_eq, h.logging_eq, by simpa using h.works running, by simpa [running] using h.lines_eq⟩
    | false =>
      have rests := h.rests running
      have made := start_of_not_running rests.isRunning
      simp only [Sweeper.call, made]
      refine ⟨h.interval_eq, h.logging_eq, ?_, ?_⟩
      · rw [wanted_start, if_pos rfl]
        exact ⟨s.made, ⟨rfl, by rw [rests.alive], rfl⟩, rfl⟩
      · simp [h.lines_eq, turns, running, rests.alive, h.interval_eq, h.logging_eq]
  | stop =>
    have stopped : (s.call .stop).2 = { s with shutdown := true, thread := none, alive := [] } := rfl
    have phase : if wanted (calls ++ [.stop]) then ∃ t, (s.call .stop).2.Works t ∧ t + 1 = (s.call .stop).2.made
        else (s.call .stop).2.Rests := by
      rw [wanted_stop]
      exact rests_stop s
    refine ⟨h.interval_eq, h.logging_eq, phase, ?_⟩
    rw [wanted_stop, stopped, h.lines_eq]
    cases running : wanted calls with
    | true =>
      obtain ⟨t, works, last⟩ := h.works running
      simp [Sweeper.call, works.farewells, turns, works.alive, ← last, h.logging_eq, List.replicate_succ']
    | false =>
      -- No thread is alive to hear of the stop, and the next start takes it back before it makes one.
      have rests := h.rests running
      simp [Sweeper.call, rests.farewells, turns, rests.alive]

end

section
variable {interval : Seconds} {logging : Bool} {cs earlier : List Call} {ls : List Log.Line} {s : Sweeper} {t : ℕ}

lemma callAll_next (after : (new interval logging).callAll cs = (ls, s)) (c : Call) :
    (new interval logging).callAll (cs ++ [c]) = (ls ++ (s.call c).1, (s.call c).2) := by
  rw [callAll_concat, after]

/-- What the last call was made on. -/
lemma exists_callAll {c : Call} (after : (new interval logging).callAll (cs ++ [c]) = (ls, s)) :
    ∃ ls' s', (new interval logging).callAll cs = (ls', s') ∧ ls = ls' ++ (s'.call c).1 ∧ s = (s'.call c).2 := by
  rw [callAll_concat] at after
  obtain ⟨lines, sweeper⟩ := Prod.mk.inj after
  exact ⟨_, _, rfl, lines.symm, sweeper.symm⟩

lemma course_after (after : (new interval logging).callAll cs = (ls, s)) : Course interval logging cs ls s := by
  induction cs using List.reverseRecOn generalizing ls s with
  | nil =>
    obtain ⟨rfl, rfl⟩ := Prod.mk.inj after
    exact course_new
  | append_singleton cs c ih =>
    obtain ⟨ls, s, before, rfl, rfl⟩ := exists_callAll after
    exact (ih before).call c

lemma works_after (after : (new interval logging).callAll cs = (ls, s)) (running : s.isRunning = true) :
    ∃ t, s.Works t ∧ t + 1 = s.made :=
  (course_after after).works ((course_after after).isRunning.symm.trans running)

lemma rests_after (after : (new interval logging).callAll cs = (ls, s)) (resting : s.isRunning = false) : s.Rests :=
  (course_after after).rests ((course_after after).isRunning.symm.trans resting)

lemma works_or_rests (after : (new interval logging).callAll cs = (ls, s)) : (∃ t, s.Works t) ∨ s.Rests := by
  cases running : s.isRunning with
  | true => exact .inl ((works_after after running).imp fun _ works => works.1)
  | false => exact .inr (rests_after after running)

/-- A thread that the sweeper has held has a lower number than the next one. -/
lemma held_lt_made (before : earlier <+: cs) (after : (new interval logging).callAll cs = (ls, s))
    (held : ((new interval logging).callAll earlier).2.thread = some t) : t < s.made := by
  obtain ⟨later, rfl⟩ := before
  induction later using List.reverseRecOn generalizing ls s with
  | nil =>
    rw [List.append_nil] at after
    rw [after] at held
    cases running : s.isRunning with
    | true =>
      obtain ⟨t', works, last⟩ := works_after after running
      obtain rfl : t' = t := Option.some.inj (works.held.symm.trans held)
      omega
    | false => simp [(rests_after after running).held] at held
  | append_singleton later c ih =>
    rw [← List.append_assoc] at after
    obtain ⟨ls, s, before, rfl, rfl⟩ := exists_callAll after
    have lower := ih before
    cases c with
    | isRunning => exact lower
    | stop => exact lower
    | start =>
      cases running : s.isRunning with
      | true => simpa [call, start_of_running running] using lower
      | false =>
        simp only [call, start_of_not_running running]
        omega

end

/-! ## Moments within calls -/

/-- Where a caller is: between two calls or within one. A start first looks whether the sweeper is running; a stop
waits, once it has told the threads, until the sweeper is not. -/
inductive Place where
  | between
  | entered
  | cleared
  | created
  | launched
  | told
  deriving DecidableEq

/-- A moment in the life of a sweeper: the calls that have ended, where its caller is, and the lines written so far.
-/
structure Moment where
  calls : List Call
  place : Place
  lines : List Log.Line
  sweeper : Sweeper

def Moment.first (interval : Seconds) (logging : Bool) : Moment := ⟨[], .between, [], new interval logging⟩

/-- What can happen next: the caller goes on, or a thread that is told to shut down writes its line and ends. -/
inductive Moment.Step : Moment → Moment → Prop
  | ask {cs ls s} : Step ⟨cs, .between, ls, s⟩ ⟨cs ++ [.isRunning], .between, ls, s⟩
  | keep {cs ls s} (running : s.isRunning = true) : Step ⟨cs, .between, ls, s⟩ ⟨cs ++ [.start], .between, ls, s⟩
  | enter {cs ls s} (resting : s.isRunning = false) : Step ⟨cs, .between, ls, s⟩ ⟨cs, .entered, ls, s⟩
  | clear {cs ls s} : Step ⟨cs, .entered, ls, s⟩ ⟨cs, .cleared, ls, { s with shutdown := false }⟩
  | create {cs ls s} :
    Step ⟨cs, .cleared, ls, s⟩ ⟨cs, .created, ls, { s with thread := some s.made, made := s.made + 1 }⟩
  | launch {cs ls s t} (held : s.thread = some t) :
    Step ⟨cs, .created, ls, s⟩ ⟨cs, .launched, ls, { s with alive := t :: s.alive }⟩
  | greet {cs ls s} :
    Step ⟨cs, .launched, ls, s⟩ ⟨cs ++ [.start], .between, ls ++ (greeting s.interval).when s.logging, s⟩
  | tell {cs ls s} : Step ⟨cs, .between, ls, s⟩ ⟨cs, .told, ls, { s with shutdown := true }⟩
  | release {cs ls s} (ended : s.isRunning = false) :
    Step ⟨cs, .told, ls, s⟩ ⟨cs ++ [.stop], .between, ls, { s with thread := none }⟩
  | part {cs p ls s t} (alive : t ∈ s.alive) (told : s.shutdown = true) :
    Step ⟨cs, p, ls, s⟩ ⟨cs, p, ls ++ s.parting, { s with alive := s.alive.erase t }⟩

def Moment.Reaches : Moment → Moment → Prop := Relation.ReflTransGen Moment.Step

/-- How a moment comes about from the lines and the sweeper that the ended calls leave. -/
inductive Moment.Sound (interval : Seconds) (logging : Bool) : Moment → Prop
  | between {cs ls s} (after : (new interval logging).callAll cs = (ls, s)) :
    Sound interval logging ⟨cs, .between, ls, s⟩
  | entered {cs ls s} (after : (new interval logging).callAll cs = (ls, s)) (rests : s.Rests) :
    Sound interval logging ⟨cs, .entered, ls, s⟩
  | cleared {cs ls s} (after : (new interval logging).callAll cs = (ls, s)) (rests : s.Rests) :
    Sound interval logging ⟨cs, .cleared, ls, { s with shutdown := false }⟩
  | created {cs ls s} (after : (new interval logging).callAll cs = (ls, s)) (rests : s.Rests) :
    Sound interval logging
      ⟨cs, .created, ls, { s with shutdown := false, thread := some s.made, made := s.made + 1 }⟩
  | launched {cs ls s} (after : (new interval logging).callAll cs = (ls, s)) (rests : s.Rests) :
    Sound interval logging ⟨cs, .launched, ls, s.start.2⟩
  | told {cs ls s} (after : (new interval logging).callAll cs = (ls, s)) :
    Sound interval logging ⟨cs, .told, ls, { s with shutdown := true }⟩
  | parted {cs ls s t} (after : (new interval logging).callAll cs = (ls, s)) (works : s.Works t) :
    Sound interval logging ⟨cs, .told, ls ++ farewell.when s.logging, { s with shutdown := true, alive := [] }⟩

section
variable {interval : Seconds} {logging : Bool} {cs : List Call} {ls : List Log.Line} {s : Sweeper} {m m' : Moment}

/-- Only within a stop does a thread learn that it is to shut down. -/
lemma Moment.Sound.part {p : Place} {t : ℕ} (h : Sound interval logging ⟨cs, p, ls, s⟩) (alive : t ∈ s.alive)
    (told : s.shutdown = true) :
    Sound interval logging ⟨cs, p, ls ++ farewell.when s.logging, { s with alive := s.alive.erase t }⟩ := by
  cases h with
  | between after =>
    obtain ⟨t', works⟩ | rests := works_or_rests after
    · simp [works.untold] at told
    · simp [rests.alive] at alive
  | entered after rests => simp [rests.alive] at alive
  | cleared after rests => simp [rests.alive] at alive
  | created after rests => simp [rests.alive] at alive
  | launched after rests => simp [rests.start.untold] at told
  | told after =>
    obtain ⟨t', works⟩ | rests := works_or_rests after
    · obtain rfl : t = t' := by simpa [works.alive] using alive
      simp only [works.alive, List.erase_cons_head]
      exact .parted after works
    · simp [rests.alive] at alive
  | parted => simp at alive

lemma Moment.Sound.step (h : m.Sound interval logging) (step : Step m m') : m'.Sound interval logging := by
  cases step with
  | part alive told =>
    rw [parting_eq]
    exact h.part alive told
  | ask =>
    cases h with
    | between after => exact .between (by rw [callAll_next after, call, List.append_nil])
  | keep running =>
    cases h with
    | between after => exact .between (by rw [callAll_next after, call, start_of_running running, List.append_nil])
  | enter resting =>
    cases h with
    | between after => exact .entered after (rests_after after resting)
  | clear =>
    cases h with
    | entered after rests => exact .cleared after rests
  | create =>
    cases h with
    | cleared after rests =>
      have created := Sound.created after rests
      exact created
  | launch held =>
    cases h with
    | @created cs ls s after rests =>
      obtain rfl := Option.some.inj held
      have launched := Sound.launched after rests
      rwa [start_of_not_running rests.isRunning] at launched
  | greet =>
    cases h with
    | @launched cs ls s after rests =>
      refine .between ?_
      rw [callAll_next after, call, start_of_not_running rests.isRunning]
  | tell =>
    cases h with
    | between after => exact .told after
  | release ended =>
    cases h with
    | @told cs ls s after =>
      -- The thread did not end while the stop waited, so there was none.
      have rests := rests_after after ended
      refine .between ?_
      rw [callAll_next after, call, rests.farewells, List.append_nil]
      simp [stop, rests.alive]
    | @parted cs ls s t after works =>
      refine .between ?_
      rw [callAll_next after, call, works.farewells]
      simp [stop]

lemma Moment.Sound.reaches (h : m.Sound interval logging) (run : Reaches m m') : m'.Sound interval logging := by
  induction run with
  | refl => exact h
  | tail _ step ih => exact ih.step step

lemma alive_after (after : (new interval logging).callAll cs = (ls, s)) : s.alive.length ≤ 1 := by
  obtain ⟨t, works⟩ | rests := works_or_rests after
  · simp [works.alive]
  · simp [rests.alive]

lemma Moment.Sound.alive_length (h : m.Sound interval logging) : m.sweeper.alive.length ≤ 1 := by
  cases h with
  | between after => exact alive_after after
  | entered after => exact alive_after after
  | cleared after rests => simp [rests.alive]
  | created after rests => simp [rests.alive]
  | launched after rests => simp [rests.start.alive]
  | told after =>
    have alive := alive_after after
    exact alive
  | parted => simp

lemma Moment.Sound.after (h : m.Sound interval logging) (between : m.place = .between) :
    (new interval logging).callAll m.calls = (m.lines, m.sweeper) := by
  cases h with
  | between after => exact after
  | _ => cases between

/-- The run can go on until these calls have ended. -/
def Moment.Returns (m : Moment) (calls : List Call) : Prop :=
  ∃ m', Reaches m m' ∧ m'.place = .between ∧ m'.calls = calls

lemma Moment.Returns.before (h : m'.Returns cs) (step : Step m m') : m.Returns cs := by
  obtain ⟨end', run, place, calls⟩ := h
  exact ⟨end', .head step run, place, calls⟩

/-- The call that the caller is in. -/
def Place.call? : Place → Option Call
  | .between => none
  | .entered | .cleared | .created | .launched => some .start
  | .told => some .stop

/-- No call waits forever: a stop that waits for a thread has told it to shut down. -/
lemma Moment.Sound.returns (h : m.Sound interval logging) : m.Returns (m.calls ++ m.place.call?.toList) := by
  have launched (cs : List Call) (ls : List Log.Line) (s : Sweeper) :
      Returns ⟨cs, .launched, ls, s⟩ (cs ++ [.start]) := ⟨_, .single .greet, rfl, rfl⟩
  have released {cs : List Call} (ls : List Log.Line) {s : Sweeper} (ended : s.isRunning = false) :
      Returns ⟨cs, .told, ls, s⟩ (cs ++ [.stop]) := ⟨_, .single (.release ended), rfl, rfl⟩
  cases h with
  | @between cs ls s after => exact ⟨_, .refl, rfl, (List.append_nil cs).symm⟩
  | entered => exact (((launched ..).before (.launch rfl)).before .create).before .clear
  | cleared => exact ((launched ..).before (.launch rfl)).before .create
  | created => exact (launched ..).before (.launch rfl)
  | launched => exact launched ..
  | told after =>
    obtain ⟨t, works⟩ | rests := works_or_rests after
    · refine (released _ ?_).before (.part (t := t) ?_ rfl)
      · simp [Sweeper.isRunning, works.alive, works.held]
      · simp [works.alive]
    · exact released _ rests.isRunning
  | parted after works => exact released _ (by simp [Sweeper.isRunning, works.held])

/-- Between two calls, any call can be made. -/
lemma Moment.Sound.returns_call (h : m.Sound interval logging) (between : m.place = .between) (c : Call) :
    m.Returns (m.calls ++ [c]) := by
  obtain ⟨cs, p, ls, s⟩ := m
  obtain rfl : p = .between := between
  cases c with
  | isRunning => exact ⟨_, .single .ask, rfl, rfl⟩
  | start =>
    cases running : s.isRunning with
    | true => exact ⟨_, .single (.keep running), rfl, rfl⟩
    | false => exact (h.step (.enter running)).returns.before (.enter running)
  | stop => exact (h.step .tell).returns.before .tell

end

section
variable (interval : Seconds) (logging : Bool)

lemma sound_first : (Moment.first interval logging).Sound interval logging := .between rfl

lemma returns_first (calls : List Call) : (Moment.first interval logging).Returns calls := by
  induction calls using List.reverseRecOn with
  | nil => exact ⟨_, .refl, rfl, rfl⟩
  | append_singleton calls c ih =>
    obtain ⟨m, run, between, rfl⟩ := ih
    obtain ⟨m', run', between', ended⟩ := ((sound_first interval logging).reaches run).returns_call between c
    exact ⟨m', run.trans run', between', ended⟩

/-! ## The life of a sweeper -/

/-- What has become of a sweeper after calls, and what each call would do next. -/
structure Lives (calls : List Call) (lines : List Log.Line) (s : Sweeper) : Prop where
  running : s.isRunning = wanted calls
  /-- A start while it is running changes and writes nothing. -/
  kept : s.isRunning = true → s.start = ([], s)
  /-- Every other start makes a thread that the sweeper never held, which is not told to shut down. -/
  created : s.isRunning = false → s.start.1 = (greeting interval).when logging ∧ ∃ t, s.start.2.Works t ∧
    ∀ earlier, earlier <+: calls → ((new interval logging).callAll earlier).2.thread ≠ some t
  /-- A stop while it is running ends the thread that it holds. -/
  ended : s.isRunning = true → s.stop.1 = farewell.when logging ∧ s.stop.2.Rests ∧ ∃ t, s.Works t
  /-- Every other stop ends and writes nothing. -/
  silent : s.isRunning = false → s.stop.1 = [] ∧ s.stop.2.Rests ∧ s.Rests
  /-- Threads greet and part by turns. -/
  turns : ∃ gone, lines = turns interval logging gone (wanted calls)

lemma lives_after {calls : List Call} {ls : List Log.Line} {s : Sweeper}
    (after : (new interval logging).callAll calls = (ls, s)) : Lives interval logging calls ls s := by
  have course := course_after after
  refine ⟨course.isRunning, start_of_running, fun resting => ?_, fun running => ?_, fun resting => ?_,
    ⟨_, course.lines_eq⟩⟩
  · refine ⟨?_, s.made, (rests_after after resting).start, fun earlier before held => ?_⟩
    · rw [start_of_not_running resting, course.interval_eq, course.logging_eq]
    exact absurd (held_lt_made before after held) (lt_irrefl s.made)
  · obtain ⟨t, works, -⟩ := works_after after running
    rw [works.farewells, course.logging_eq]
    exact ⟨rfl, rests_stop s, t, works⟩
  · have rests := rests_after after resting
    exact ⟨rests.farewells, rests_stop s, rests⟩

/-- A sweeper that is started, stopped and asked in any order runs exactly if the last start or stop was a start. A
start makes a thread unless one is running, a stop ends the thread that is running, and each writes its line exactly
if it does, so that greetings and farewells take turns. Step by step, whenever a thread that is told gets to its
end, no two threads are ever alive together, every call returns, and after it all is as if the calls were made at
one blow. -/
theorem life_cycle :
    (∀ calls, Lives interval logging calls ((new interval logging).callAll calls).1
      ((new interval logging).callAll calls).2) ∧
    (∀ m, (Moment.first interval logging).Reaches m → m.sweeper.alive.length ≤ 1 ∧
      m.Returns (m.calls ++ m.place.call?.toList) ∧
      (m.place = .between → (new interval logging).callAll m.calls = (m.lines, m.sweeper))) ∧
    ∀ calls, (Moment.first interval logging).Returns calls := by
  refine ⟨fun calls => lives_after interval logging rfl, fun m run => ?_, returns_first interval logging⟩
  have sound := (sound_first interval logging).reaches run
  exact ⟨sound.alive_length, sound.returns, sound.after⟩

end

/-- Within the first stop of a sweeper that is started once, when its thread is told and has not ended. -/
def awaited : Moment :=
  ⟨[.start], .told, [greeting (.whole 60)],
    { new (.whole 60) true with shutdown := true, thread := some 0, alive := [0], made := 1 }⟩

/-- A stop on its own, a second start, and a start after two stops. -/
theorem restarted_life_cycle :
    let sweeper := new (.whole 60) true
    let working := (sweeper.callAll [.stop, .start]).2
    let stopped := (sweeper.callAll [.stop, .start, .start, .stop, .stop]).2
    (working.isRunning = true ∧ working.start = ([], working) ∧ working.stop.1 = [farewell]) ∧
      (stopped.isRunning = false ∧ stopped.start.1 = [greeting (.whole 60)] ∧ (∃ t, stopped.start.2.Works t) ∧
        stopped.stop.1 = []) ∧
      (Moment.first (.whole 60) true).Reaches awaited ∧ awaited.sweeper.alive.length ≤ 1 ∧
        awaited.Returns [.start, .stop] := by
  obtain ⟨lives, moments, -⟩ := life_cycle (.whole 60) true
  have working := lives [.stop, .start]
  have stopped := lives [.stop, .start, .start, .stop, .stop]
  have reached : (Moment.first (.whole 60) true).Reaches awaited :=
    .head (.enter rfl) <| .head .clear <| .head .create <| .head (.launch rfl) <| .head .greet <| .single .tell
  obtain ⟨alone, returns, -⟩ := moments awaited reached
  obtain ⟨greets, t, works, -⟩ := stopped.created rfl
  exact ⟨⟨rfl, working.kept rfl, (working.ended rfl).1⟩,
    ⟨rfl, greets, ⟨t, works⟩, (stopped.silent rfl).1⟩, reached, alone, returns⟩

end ReplicaWatch.Sweeper
