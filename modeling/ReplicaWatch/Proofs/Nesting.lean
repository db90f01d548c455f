import Mathlib
import ReplicaWatch.Proofs.Reachable

/-! How deep steps are nested. The steps that others are to take are counted: those of a command are taken out of the
world before they are taken, and a step brings no more new ones than it counts. Main statement: a bound on the depth
that is at least the number of steps to take changes nothing, so that no step is ever cut off. -/
namespace ReplicaWatch

namespace Step

lemma size_pos (step : Step) : 0 < step.size := by
  cases step <;> simp [Step.size]

end Step

namespace World

/-- Setting up the commands of a pool replaces those that were set up for it. -/
lemma size_setOutcomes (w : World) (pool : String) (outcomes : List Outcome) :
    (w.setOutcomes pool outcomes).size + sizeOfOutcomes ((w.outcomes.get? pool).getD []) =
      w.size + sizeOfOutcomes outcomes := by
  change List.foldr _ 0 (Ledger.write pool outcomes w.outcomes.entries) +
    sizeOfOutcomes ((Ledger.find? pool w.outcomes.entries).getD []) = List.foldr _ 0 w.outcomes.entries + _
  induction w.outcomes.entries with
  | nil => simp [Ledger.write, Ledger.find?, sizeOfOutcomes]
  | cons e rest ih =>
    obtain ⟨k, found⟩ := e
    by_cases h : k = pool
    · simp only [Ledger.write, Ledger.find?, h, if_true, List.foldr_cons, Option.getD_some]
      omega
    · simp only [Ledger.write, Ledger.find?, h, if_false, List.foldr_cons]
      omega

/-- The steps that a command leaves time for are no longer to come. -/
lemma size_takeOutcome (w : World) (pool : String) :
    (w.takeOutcome pool).2.size + sizeOfSteps (w.takeOutcome pool).1.meanwhile ≤ w.size := by
  have hs (outcomes : List Outcome) := w.size_setOutcomes pool outcomes
  unfold takeOutcome
  generalize (w.outcomes.get? pool).getD [] = found at hs ⊢
  cases found with
  | nil => simp [noProgram, Outcome.meanwhile, sizeOfSteps]
  | cons first rest =>
    obtain ⟨ending, steps⟩ := first
    cases rest with
    | nil =>
      have h := hs [⟨ending, []⟩]
      simp only [sizeOfOutcomes, Outcome.size, sizeOfSteps] at h
      simp only [Outcome.ending, Outcome.meanwhile]
      omega
    | cons next rest =>
      have h := hs (next :: rest)
      simp only [sizeOfOutcomes, Outcome.size] at h
      simp only [Outcome.meanwhile]
      omega

end World

namespace Session

/-! ## Operations that leave the surroundings alone -/

lemma lookup_world (s : Session) (ns : String) : (s.lookup ns).2.world = s.world := by
  simp only [lookup, ask]
  split
  · rfl
  · split <;> rfl

lemma learn_world (s : Session) (ns : String) : (s.learn ns).2.world = s.world := by
  have h := s.lookup_world ns
  unfold learn
  generalize s.lookup ns = r at h ⊢
  obtain ⟨result, t⟩ := r
  cases result with
  | ok c => simpa using h
  | error e =>
    simp only
    split
    · simpa using h
    · exact h

lemma resolvePermitted_world (s : Session) (ns : String) (refresh : Bool) :
    (s.resolvePermitted ns refresh).2.world = s.world := by
  unfold resolvePermitted
  split
  · split
    · exact s.learn_world ns
    · rfl
  · exact s.learn_world ns

lemma resolve_world (s : Session) (ns : Json) (refresh : Bool) : (s.resolve ns refresh).2.world = s.world := by
  unfold resolve
  split
  · rfl
  · exact s.resolvePermitted_world _ refresh

lemma invalidate_world (s : Session) (ns : Json) : (s.invalidate ns).2.world = s.world := by
  cases ns with
  | string t =>
    simp only [invalidate]
    split <;> rfl
  | _ => rfl

lemma delete_world (s : Session) (obj : Json) : (s.delete obj).2.world = s.world := by
  unfold delete
  split <;> rfl

lemma logFailure_world (s : Session) (exit : String) (args : List String) (output : List UInt8) :
    (s.logFailure exit args output).world = s.world := by
  simp only [logFailure]
  split <;> simp

lemma conclude_world (s : Session) (pool : String) (args : List String) (ending : Ending) :
    (s.conclude pool args ending).2.world = s.world := by
  cases ending with
  | finished output =>
    simp only [conclude]
    split <;> rfl
  | exited code output => exact s.logFailure_world _ _ _
  | timedOut output => exact s.logFailure_world _ _ _
  | unstarted number => rfl
  | uncallable fault => rfl

/-! ## Operations during which others take steps -/

/-- Two ways to take steps agree where at most `room` steps are to be taken, and bring no more than they take. -/
structure Enough (room : ℕ) (m m' : Meanwhile) : Prop where
  same : ∀ steps s, s.world.size + sizeOfSteps steps ≤ room → m steps s = m' steps s
  left : ∀ steps s, s.world.size + sizeOfSteps steps ≤ room →
    (m steps s).2.world.size ≤ s.world.size + sizeOfSteps steps

/-- An operation that comes to the same in both ways brings no steps. -/
def Settled {α : Type} (s : Session) (r r' : α × Session) : Prop := r = r' ∧ r.2.world.size ≤ s.world.size

lemma Settled.of_world {α : Type} {s : Session} {r : α × Session} (h : r.2.world = s.world) : Settled s r r :=
  ⟨rfl, by rw [h]⟩

section
variable {room : ℕ} {m m' : Meanwhile} (hm : Enough room m m') {s : Session} (hs : s.world.size ≤ room)
include hm hs

lemma settled_run (pool : String) (args : List String) : Settled s (s.run m pool args) (s.run m' pool args) := by
  have taken := s.world.size_takeOutcome pool
  have fits : (s.launch pool args).world.size + sizeOfSteps (s.world.takeOutcome pool).1.meanwhile ≤ room :=
    taken.trans hs
  rw [run_eq, run_eq, ← hm.same _ _ fits]
  exact ⟨rfl, (hm.left _ _ fits).trans taken⟩

lemma settled_fetch (pool : String) (c : Credentials) : Settled s (s.fetch m pool c) (s.fetch m' pool c) := by
  unfold fetch
  split
  · exact .of_world rfl
  · obtain ⟨same, left⟩ := settled_run hm hs pool (Command.status s.cache.setup.command pool c)
    simp only [← same]
    exact ⟨rfl, by rw [conclude_world]; exact left⟩

lemma settled_fetchRecord (pool ns : Json) : Settled s (s.fetchRecord m pool ns) (s.fetchRecord m' pool ns) := by
  unfold fetchRecord
  split
  · exact .of_world rfl
  · next n _ =>
    have hw := s.resolvePermitted_world n false
    generalize s.resolvePermitted n false = r at hw ⊢
    obtain ⟨result, t⟩ := r
    cases result with
    | error e => exact .of_world hw
    | ok c =>
      cases pool with
      | string p =>
        have ht : t.world.size ≤ room := by rwa [show t.world = s.world from hw]
        obtain ⟨same, left⟩ := settled_fetch hm ht (Text.asString p) c
        rw [show t.world = s.world from hw] at left
        simp only [← same]
        generalize t.fetch m (Text.asString p) c = f at left ⊢
        obtain ⟨result, u⟩ := f
        cases result with
        | error e => exact ⟨rfl, left⟩
        | ok status => exact ⟨rfl, left⟩
      | _ => exact .of_world hw

lemma settled_add (obj : Json) : Settled s (s.add m obj) (s.add m' obj) := by
  unfold add
  split
  · exact .of_world rfl
  · next pool _ =>
    split
    · obtain ⟨same, left⟩ := settled_fetchRecord hm hs pool.name pool.ns
      simp only [← same]
      generalize s.fetchRecord m pool.name pool.ns = r at left ⊢
      obtain ⟨result, t⟩ := r
      cases result with
      | error e => exact ⟨rfl, left⟩
      | ok record => exact ⟨rfl, left⟩
    · exact .of_world (log_world _ _ _)

lemma settled_addAll (items : List Json) : Settled s (s.addAll m items) (s.addAll m' items) := by
  induction items generalizing s with
  | nil => exact .of_world rfl
  | cons item rest ih =>
    obtain ⟨same, left⟩ := settled_add hm hs item
    unfold addAll
    simp only [← same]
    generalize s.add m item = r at left ⊢
    obtain ⟨result, t⟩ := r
    cases result with
    | error e => exact ⟨rfl, left⟩
    | ok _ =>
      obtain ⟨same, left'⟩ := ih (left.trans hs)
      exact ⟨same, left'.trans left⟩

lemma settled_replace (items : Json) : Settled s (s.replace m items) (s.replace m' items) := by
  unfold replace
  simp only
  split
  · exact settled_addAll (s := s.change .cleared) hm hs _
  · exact .of_world rfl

lemma settled_refresh (held : Bool) (uid : String) (record : Record) (tally : Tally) :
    Settled s (s.refresh m held uid record tally) (s.refresh m' held uid record tally) := by
  obtain ⟨same, left⟩ := settled_fetchRecord hm hs (.ofString record.pool) (.ofString record.ns)
  unfold refresh
  simp only [← same]
  generalize s.fetchRecord m (.ofString record.pool) (.ofString record.ns) = r at left ⊢
  obtain ⟨result, t⟩ := r
  cases result with
  | error e =>
    simp only
    split
    · exact ⟨rfl, by simpa using left⟩
    · exact ⟨rfl, left⟩
  | ok fresh =>
    simp only
    split
    · exact ⟨rfl, left⟩
    · exact ⟨rfl, left⟩

lemma settled_sweep (held : Bool) (tally : Tally) (entries : List (String × Record)) :
    Settled s (s.sweep m held tally entries) (s.sweep m' held tally entries) := by
  induction entries generalizing s tally with
  | nil => exact .of_world rfl
  | cons entry rest ih =>
    obtain ⟨same, left⟩ := settled_refresh hm hs held entry.1 entry.2 tally
    unfold sweep
    simp only [← same]
    generalize s.refresh m held entry.1 entry.2 tally = r at left ⊢
    obtain ⟨result, t⟩ := r
    cases result with
    | error e => exact ⟨rfl, left⟩
    | ok done =>
      obtain ⟨same, left'⟩ := ih (left.trans hs) done
      exact ⟨same, left'.trans left⟩

lemma settled_resync : Settled s (s.resync m) (s.resync m') := by
  have start : s.sweepStart.world = s.world := by
    simp [sweepStart]
  have hstart : s.sweepStart.world.size ≤ room := by rwa [start]
  obtain ⟨same, left⟩ := settled_sweep hm hstart s.cache.setup.serialize ⟨0, 0, 0⟩ s.cache.records.entries
  rw [start] at left
  rw [resync_eq, resync_eq, ← same]
  generalize s.sweepStart.sweep m s.cache.setup.serialize ⟨0, 0, 0⟩ s.cache.records.entries = r at left ⊢
  obtain ⟨result, t⟩ := r
  cases result with
  | error e => exact ⟨rfl, left⟩
  | ok tally => exact ⟨rfl, by simpa using left⟩

lemma settled_handle (event obj : Json) (ns name : String) :
    Settled s (s.handle m event obj ns name) (s.handle m' event obj ns name) := by
  have answered {r r' : Except Failure Unit × Session} (h : Settled s r r') :
      Settled s (answerEvent ns name r) (answerEvent ns name r') := by
    obtain ⟨rfl, left⟩ := h
    unfold answerEvent
    split
    · exact ⟨rfl, left⟩
    · exact ⟨rfl, left⟩
  unfold handle
  split
  · split
    · exact .of_world rfl
    · split
      · exact answered (.of_world (s.delete_world obj))
      · exact answered (settled_add hm hs obj)
  · exact .of_world rfl

end

/-! ## Steps -/

lemma Settled.reply {α : Type} {s : Session} {r r' : Except Failure α × Session} (h : Settled s r r')
    (f : α → Answer) : Settled s (Reply.ofResult f r) (Reply.ofResult f r') := by
  obtain ⟨rfl, left⟩ := h
  exact ⟨rfl, by simpa using left⟩

section
variable {room : ℕ} {m m' : Meanwhile} (hm : Enough room m m')
include hm

/-- A step brings fewer new steps than it counts. -/
lemma perform_settled {s : Session} {step : Step} (hs : s.world.size + step.size ≤ room + 1) :
    s.perform m step = s.perform m' step ∧ (s.perform m step).2.world.size < s.world.size + step.size := by
  have room_of (h : step.size = 1) : s.world.size ≤ room := by omega
  have counted {r r' : Reply × Session} (h : step.size = 1) (hr : Settled s r r') :
      r = r' ∧ r.2.world.size < s.world.size + step.size := ⟨hr.1, by have := hr.2; omega⟩
  cases step with
  | add obj => exact counted rfl ((settled_add hm (room_of rfl) obj).reply _)
  | update obj => exact counted rfl ((settled_add hm (room_of rfl) obj).reply _)
  | replace items => exact counted rfl ((settled_replace hm (room_of rfl) items).reply _)
  | resync => exact counted rfl ((settled_resync hm (room_of rfl)).reply _)
  | event event obj ns name => exact counted rfl ((settled_handle hm (room_of rfl) event obj ns name).reply _)
  | delete obj => exact counted rfl ((Settled.of_world (s.delete_world obj)).reply _)
  | resolve ns refresh => exact counted rfl ((Settled.of_world (s.resolve_world ns refresh)).reply _)
  | invalidate ns => exact counted rfl ((Settled.of_world (s.invalidate_world ns)).reply _)
  | isAllowed ns => exact counted rfl ((Settled.of_world (r := (s.cache.setup.isAllowed ns, s)) rfl).reply _)
  | setEndings pool outcomes =>
    have h := s.world.size_setOutcomes pool outcomes
    refine ⟨rfl, ?_⟩
    change (s.world.setOutcomes pool outcomes).size < s.world.size + (sizeOfOutcomes outcomes + 1)
    omega
  | _ => exact counted rfl ⟨rfl, le_rfl⟩

lemma attempt_settled {s : Session} {step : Step} (hs : s.world.size + step.size ≤ room + 1) :
    s.attempt m step = s.attempt m' step ∧ (s.attempt m step).2.world.size < s.world.size + step.size := by
  unfold attempt
  split
  · exact ⟨rfl, by have := step.size_pos; simp only; omega⟩
  · exact perform_settled hm hs

lemma attemptAll_settled {s : Session} {steps : List Step} (hs : s.world.size + sizeOfSteps steps ≤ room + 1) :
    s.attemptAll m steps = s.attemptAll m' steps ∧
      (s.attemptAll m steps).2.world.size ≤ s.world.size + sizeOfSteps steps := by
  induction steps generalizing s with
  | nil => exact ⟨rfl, le_rfl⟩
  | cons step rest ih =>
    rw [sizeOfSteps] at hs ⊢
    have first : s.world.size + step.size ≤ room + 1 := by omega
    obtain ⟨same, left⟩ := attempt_settled hm first
    have others : (s.attempt m step).2.world.size + sizeOfSteps rest ≤ room + 1 := by omega
    obtain ⟨same', left'⟩ := ih others
    simp only [attemptAll, ← same, ← same']
    exact ⟨trivial, by omega⟩

end

/-- One more level of nesting changes nothing where there are no more steps to take than levels. -/
lemma enough_nested (depth : ℕ) : Enough depth (nested depth) (nested (depth + 1)) := by
  induction depth with
  | zero =>
    have none {steps : List Step} {s : Session} (h : s.world.size + sizeOfSteps steps ≤ 0) : steps = [] := by
      cases steps with
      | nil => rfl
      | cons step rest =>
        have := step.size_pos
        rw [sizeOfSteps] at h
        omega
    refine ⟨fun steps s h => ?_, fun steps s h => Nat.le_add_right _ _⟩
    rw [none h]
    rfl
  | succ depth ih =>
    exact ⟨fun steps s h => (attemptAll_settled ih h).1, fun steps s h => (attemptAll_settled ih h).2⟩

lemma attempt_deeper {s : Session} {step : Step} {depth : ℕ} (h : s.world.size + step.size ≤ depth + 1) (more : ℕ) :
    s.attempt (nested depth) step = s.attempt (nested (depth + more)) step := by
  induction more with
  | zero => rfl
  | succ more ih => rw [ih, (attempt_settled (enough_nested (depth + more)) (by omega)).1, Nat.add_assoc]

/-- A step is taken with everything that happens within it: no bound on the depth that leaves room for the steps to
take makes a difference. -/
theorem step_eq_attempt (s : Session) (step : Step) {depth : ℕ} (h : s.world.size + step.size ≤ depth + 1) :
    s.step step = s.attempt (nested depth) step := by
  unfold Session.step
  rcases le_total depth (s.world.size + step.size + 1) with hle | hle
  · obtain ⟨more, hmore⟩ := Nat.exists_eq_add_of_le hle
    rw [hmore]
    exact (attempt_deeper h more).symm
  · obtain ⟨more, hmore⟩ := Nat.exists_eq_add_of_le hle
    rw [hmore]
    exact attempt_deeper (by omega) more

end Session
end ReplicaWatch
