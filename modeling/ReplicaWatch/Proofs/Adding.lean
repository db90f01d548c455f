import Mathlib
import ReplicaWatch.Proofs.Coherence

/-! Adding a pool, from the first look at its description to the end. A description of no pool with mirroring in an
allowed namespace is declined. For any other, credentials are looked up unless they are held, one command runs while
others take their steps, and a record is stored. Main statement: an addition that fails leaves the store as these
others left it, and whether it fails or not, nothing else is touched than the credentials of its namespace and the
record of its pool. -/
namespace ReplicaWatch

namespace Ledger

variable {κ α : Type} [DecidableEq κ]

/-- Writing to a key leaves all other entries as they were, and in their order. -/
lemma erase_insert (m : Ledger κ α) (k : κ) (v : α) : (m.insert k v).erase k = m.erase k := by
  apply ext
  simp only [erase, insert]
  induction m.entries with
  | nil => simp [write]
  | cons e rest ih =>
    obtain ⟨j, w⟩ := e
    by_cases hj : j = k
    · simp [write, hj]
    · simp [write, hj, ih]

end Ledger

lemma World.asks_prefix (w : World) (ns : String) : w.asks ns <+: [.secretOf ns, .configOf ns] := by
  unfold World.asks
  split
  · exact ⟨[.configOf ns], rfl⟩
  · exact List.prefix_rfl

namespace Session

/-- A session in which some lines were logged. -/
def withLines (s : Session) (lines : List Log.Line) : Session := { s with trace := s.trace ++ lines.map Event.logged }

/-- The session after the command for a pool, with what others did while it ran. -/
def called (s : Session) (m : Meanwhile) (pool : String) (c : Credentials) : Session :=
  (s.run m pool (Command.status s.cache.setup.command pool c)).2

/-- An object describes a pool with mirroring, in an allowed namespace. -/
structure Admits (s : Session) (obj : Json) (pool : BlockPool) (ns : String) : Prop where
  described : BlockPool.ofJson obj = .ok pool
  mirrored : pool.mirrored = true
  inside : pool.ns = .ofString ns
  permitted : ns ∈ s.cache.setup.allowed

/-- From one session to another, nothing happened but at most one lookup for a namespace: its secret was asked for,
or its secret and then its configuration, and no credentials but those of the namespace may be others than before.
-/
structure Looks (ns : String) (s t : Session) : Prop where
  events : ∃ events, t.trace = s.trace ++ events ∧ (∀ e ∈ events, e.isQuiet = true) ∧
    events.filterMap Event.request? <+: [.secretOf ns, .configOf ns]
  cache : ∃ known, t.cache = { s.cache with known := known } ∧ known.erase ns = s.cache.known.erase ns
  world : t.world = s.world

/-- What adding an object comes to, and where that leads: it is declined, skipped without mirroring, fails before
there is a command, fails with its command, or stores what the command reported. -/
inductive Adds (s : Session) (m : Meanwhile) (obj : Json) : Except Failure Unit × Session → Prop
  | declined {e} (none : ∀ pool ns, ¬s.Admits obj pool ns) : Adds s m obj (.error e, s)
  | skipped {pool} (described : BlockPool.ofJson obj = .ok pool) (unmirrored : pool.mirrored = false)
      (lines : List Log.Line) : Adds s m obj (.ok (), s.withLines lines)
  | unresolved {pool ns e u} (admitted : s.Admits obj pool ns)
      (resolved : s.resolvePermitted ns false = (.error e, u)) :
      Adds s m obj (.error e, u)
  | unrun {pool ns c u e} (admitted : s.Admits obj pool ns) (resolved : s.resolvePermitted ns false = (.ok c, u)) :
      Adds s m obj (.error e, u)
  | failed {pool ns c u t e} (admitted : s.Admits obj pool ns) (resolved : s.resolvePermitted ns false = (.ok c, u))
      (named : pool.name = .string t) (lines : List Log.Line) :
      Adds s m obj (.error e, (u.called m (Text.asString t) c).withLines lines)
  | stored {pool ns c u t status} (admitted : s.Admits obj pool ns)
      (resolved : s.resolvePermitted ns false = (.ok c, u))
      (named : pool.name = .string t) :
      Adds s m obj (.ok (), (u.called m (Text.asString t) c).change
        (.stored pool.uid ⟨(u.called m (Text.asString t) c).trace.length, Text.asString t, ns, status⟩))

/-- How an addition ends whose command left `s`: it fails and at most writes log lines, or it stores a record. -/
inductive Closes (uid : String) (s : Session) : Reply × Session → Prop
  | failed (e : Failure) (lines : List Log.Line) : Closes uid s (.failure e, s.withLines lines)
  | stored (record : Record) : Closes uid s (.answer .done, s.change (.stored uid record))

section
variable {s t u : Session} {m : Meanwhile} {ns : String}

lemma withLines_nil (s : Session) : s.withLines [] = s := by
  simp [withLines]

lemma withLines_append (s : Session) (lines more : List Log.Line) :
    (s.withLines lines).withLines more = s.withLines (lines ++ more) := by
  simp [withLines]

lemma log_eq (s : Session) (level : Log.Level) (text : String) : ∃ lines, s.log level text = s.withLines lines := by
  unfold log
  split
  · exact ⟨[⟨level, text⟩], rfl⟩
  · exact ⟨[], s.withLines_nil.symm⟩

lemma logFailure_eq (s : Session) (exit : String) (args : List String) (output : List UInt8) :
    ∃ lines, s.logFailure exit args output = s.withLines lines := by
  simp only [logFailure]
  obtain ⟨first, hfirst⟩ := s.log_eq .debug (statusText exit)
  obtain ⟨second, hsecond⟩ := (s.withLines first).log_eq .debug (argsText args)
  rw [hfirst, hsecond, withLines_append]
  split
  · exact ⟨_, rfl⟩
  · obtain ⟨third, hthird⟩ := (s.withLines (first ++ second)).log_eq .debug (outputText output)
    exact ⟨_, hthird.trans (withLines_append _ _ _)⟩

lemma conclude_eq (s : Session) (pool : String) (args : List String) (ending : Ending) :
    ∃ lines, (s.conclude pool args ending).2 = s.withLines lines := by
  cases ending with
  | finished output =>
    simp only [conclude]
    split <;> exact ⟨[], s.withLines_nil.symm⟩
  | exited code output => exact s.logFailure_eq _ _ _
  | timedOut output => exact s.logFailure_eq _ _ _
  | unstarted number => exact ⟨[], s.withLines_nil.symm⟩
  | uncallable fault => exact ⟨[], s.withLines_nil.symm⟩

/-! ## Looking up -/

lemma Looks.refl (ns : String) (s : Session) : Looks ns s s :=
  ⟨⟨[], by simp, by simp, List.nil_prefix⟩, ⟨_, rfl, rfl⟩, rfl⟩

lemma looks_learn (s : Session) (ns : String) : Looks ns s (s.learn ns).2 := by
  obtain ⟨-, world, cache, requests⟩ := s.learn_eq ns
  obtain ⟨events, htrace, quiet⟩ := (s.quiet_learn ns).events
  refine ⟨⟨events, htrace, quiet, ?_⟩, ⟨_, cache, ?_⟩, world⟩
  · rw [htrace, List.filterMap_append, List.append_cancel_left_eq] at requests
    rw [requests]
    exact s.world.asks_prefix ns
  · simp only [Dealing.apply]
    split
    · exact Ledger.erase_insert _ _ _
    · rfl

lemma looks_resolvePermitted (s : Session) (ns : String) (refresh : Bool) :
    Looks ns s (s.resolvePermitted ns refresh).2 := by
  unfold resolvePermitted
  split
  · split
    · exact s.looks_learn ns
    · exact .refl ns s
  · exact s.looks_learn ns

lemma looks_of_resolved {refresh : Bool} {result : Except Failure Credentials}
    (h : s.resolvePermitted ns refresh = (result, t)) : Looks ns s t := by
  have looks := s.looks_resolvePermitted ns refresh
  rwa [h] at looks

lemma Looks.records (h : Looks ns s t) : t.cache.records = s.cache.records := by
  obtain ⟨known, cache, -⟩ := h.cache
  rw [cache]

lemma Looks.setup (h : Looks ns s t) : t.cache.setup = s.cache.setup := by
  obtain ⟨known, cache, -⟩ := h.cache
  rw [cache]

/-! ## Adding -/

/-- After a lookup, the command for a pool ends as the world has it that the lookup found. -/
lemma Looks.called_eq (h : Looks ns s t) (m : Meanwhile) (pool : String) (c : Credentials) :
    t.called m pool c =
      let outcome := (s.world.takeOutcome pool).1
      let others := m outcome.meanwhile (t.launch pool (Command.status s.cache.setup.command pool c))
      others.2.note (.ended outcome.ending others.1) := by
  rw [called, run_eq, h.world, h.setup]

lemma fetch_eq (s : Session) (m : Meanwhile) (pool : String) (c : Credentials) :
    s.fetch m pool c =
      if c.isEmpty then (.error (.ofFetch (.incompleteCredentials pool)), s)
      else (s.called m pool c).conclude pool (Command.status s.cache.setup.command pool c)
        (s.world.takeOutcome pool).1.ending := rfl

/-- A fetch fails without a command, or after the one that was run for the pool, or gives what that reported. -/
lemma fetch_cases (s : Session) (m : Meanwhile) (pool : String) (c : Credentials) :
    (∃ e, s.fetch m pool c = (.error e, s)) ∨
      (∃ e lines, s.fetch m pool c = (.error e, (s.called m pool c).withLines lines)) ∨
      ∃ status, s.fetch m pool c = (.ok status, s.called m pool c) := by
  rw [fetch_eq]
  split
  · exact .inl ⟨_, rfl⟩
  · generalize (s.world.takeOutcome pool).1.ending = ending
    obtain ⟨lines, hlines⟩ :=
      (s.called m pool c).conclude_eq pool (Command.status s.cache.setup.command pool c) ending
    generalize hr : (s.called m pool c).conclude pool (Command.status s.cache.setup.command pool c) ending = r
    rw [hr] at hlines
    obtain ⟨result, t⟩ := r
    cases result with
    | error e => exact .inr (.inl ⟨e, lines, congrArg _ hlines⟩)
    | ok status =>
      obtain ⟨rfl, -⟩ := conclude_eq_ok hr
      exact .inr (.inr ⟨status, rfl⟩)

lemma not_admits_of_skipped {obj : Json} {pool : BlockPool} (described : BlockPool.ofJson obj = .ok pool)
    (unmirrored : pool.mirrored = false) (other : BlockPool) (ns : String) : ¬s.Admits obj other ns := by
  intro h
  obtain rfl : pool = other := Except.ok.inj (described.symm.trans h.described)
  cases unmirrored.symm.trans h.mirrored

lemma add_cases (s : Session) (m : Meanwhile) (obj : Json) : Adds s m obj (s.add m obj) := by
  unfold add
  cases described : BlockPool.ofJson obj with
  | error e => exact .declined fun pool ns h => by cases described.symm.trans h.described
  | ok pool =>
    cases mirrored : pool.mirrored with
    | false =>
      obtain ⟨lines, hlines⟩ := s.log_eq .info (skippedText pool.ns pool.name)
      simp only [mirrored, Bool.false_eq_true, if_false, hlines]
      exact .skipped described mirrored lines
    | true =>
      simp only [mirrored, if_true]
      have admitted {n : String} (permitted : s.cache.setup.permit pool.ns = .ok n) : s.Admits obj pool n :=
        ⟨described, mirrored, (Setup.permit_eq_ok_iff.1 permitted).1, (Setup.permit_eq_ok_iff.1 permitted).2⟩
      have cases := fetchRecord_cases s m pool.name pool.ns
      generalize s.fetchRecord m pool.name pool.ns = r at cases ⊢
      cases cases with
      | refused refused =>
        refine .declined fun other ns h => ?_
        obtain rfl : pool = other := Except.ok.inj (described.symm.trans h.described)
        cases refused.symm.trans (Setup.permit_eq_ok_iff.2 ⟨h.inside, h.permitted⟩)
      | unresolved permitted resolved => exact .unresolved (admitted permitted) resolved
      | misnamed permitted resolved _ => exact .unrun (admitted permitted) resolved
      | @ended n c u t _ _ permitted resolved named fetched =>
        rcases u.fetch_cases m (Text.asString t) c with ⟨e, he⟩ | ⟨e, lines, he⟩ | ⟨status, hs⟩
        · cases fetched.symm.trans he
          exact .unrun (admitted permitted) resolved
        · cases fetched.symm.trans he
          exact .failed (admitted permitted) resolved named lines
        · cases fetched.symm.trans hs
          exact .stored (admitted permitted) resolved named

/-- The end of an addition leaves all credentials and every other record alone, and if it fails, every record. -/
lemma Closes.frame {uid : String} {r : Reply × Session} (h : Closes uid s r) :
    r.2.cache.known = s.cache.known ∧ r.2.cache.records.erase uid = s.cache.records.erase uid ∧
      ∀ e, r.1 = .failure e → r.2.cache = s.cache := by
  cases h with
  | failed e lines => exact ⟨rfl, rfl, fun _ _ => rfl⟩
  | stored record => exact ⟨rfl, Ledger.erase_insert _ _ _, nofun⟩

lemma Admits.unique {obj : Json} {pool pool' : BlockPool} {ns' : String} (h : s.Admits obj pool ns)
    (h' : s.Admits obj pool' ns') : pool = pool' ∧ ns = ns' := by
  obtain rfl : pool = pool' := Except.ok.inj (h.described.symm.trans h'.described)
  exact ⟨rfl, Text.ofString_inj.1 (Json.string.inj (h.inside.symm.trans h'.inside))⟩

/-- The way of an addition that is not declined: a lookup, and then either its failure, or a command and its end. -/
lemma Adds.course {obj : Json} {pool : BlockPool} {r : Except Failure Unit × Session} (h : Adds s m obj r)
    (admitted : s.Admits obj pool ns) :
    ∃ looked, Looks ns s looked ∧
      ((∃ e, r = (.error e, looked)) ∨
        ∃ t c, pool.name = .string t ∧ looked.cache.known.get? ns = some c ∧
          Closes pool.uid (looked.called m (Text.asString t) c) (Reply.ofResult (fun _ => .done) r)) := by
  cases h with
  | declined none => exact absurd admitted (none pool ns)
  | skipped described unmirrored _ => exact absurd admitted (not_admits_of_skipped described unmirrored pool ns)
  | @unresolved _ _ e looked other resolved =>
    obtain ⟨rfl, rfl⟩ := admitted.unique other
    exact ⟨looked, looks_of_resolved resolved, .inl ⟨e, rfl⟩⟩
  | @unrun _ _ c looked e other resolved =>
    obtain ⟨rfl, rfl⟩ := admitted.unique other
    exact ⟨looked, looks_of_resolved resolved, .inl ⟨e, rfl⟩⟩
  | @failed _ _ c looked t e other resolved named lines =>
    obtain ⟨rfl, rfl⟩ := admitted.unique other
    exact ⟨looked, looks_of_resolved resolved, .inr ⟨t, c, named, held_of_resolvePermitted resolved, .failed e lines⟩⟩
  | @stored _ _ c looked t status other resolved named =>
    obtain ⟨rfl, rfl⟩ := admitted.unique other
    exact ⟨looked, looks_of_resolved resolved, .inr ⟨t, c, named, held_of_resolvePermitted resolved, .stored _⟩⟩

lemma perform_add (s : Session) (m : Meanwhile) {obj : Json} {step : Step}
    (adds : step = .add obj ∨ step = .update obj) :
    s.perform m step = Reply.ofResult (fun _ => .done) (s.add m obj) := by
  rcases adds with rfl | rfl <;> rfl

end

/-- Adding the pool that an object describes, for the first time or again.

An object that is declined changes nothing, and nothing is asked for or run. Otherwise there is at most one lookup,
for the namespace of the pool. Either the addition fails after that, or one command is run for the pool and others
take their steps while it runs. From what these leave the addition comes to its end without asking for or running
anything more. If it fails, all is held as they left it. If it succeeds, all credentials are held as they left them,
and so are all other records, in the same order. Where others take no steps, an addition that fails leaves every
record as it was before. -/
theorem add_all_or_nothing (s : Session) (depth : ℕ) {obj : Json} {step : Step}
    (adds : step = .add obj ∨ step = .update obj) :
    let r := s.perform (nested depth) step
    ((∀ pool ns, ¬s.Admits obj pool ns) → ∃ lines, r.2 = s.withLines lines) ∧
    ∀ pool ns, s.Admits obj pool ns →
      (∃ looked, Looks ns s looked ∧
        ((∃ e, r = (.failure e, looked)) ∨
          ∃ t c, pool.name = .string t ∧ looked.cache.known.get? ns = some c ∧
            let outcome := (s.world.takeOutcome (Text.asString t)).1
            let begun := looked.launch (Text.asString t) (Command.status s.cache.setup.command (Text.asString t) c)
            let others := nested depth outcome.meanwhile begun
            Closes pool.uid (others.2.note (.ended outcome.ending others.1)) r ∧
            r.2.cache.known = others.2.cache.known ∧
            r.2.cache.records.erase pool.uid = others.2.cache.records.erase pool.uid ∧
            ∀ e, r.1 = .failure e → r.2.cache = others.2.cache)) ∧
      ((∀ t, pool.name = .string t → (s.world.takeOutcome (Text.asString t)).1.meanwhile = []) →
        ∀ e, r.1 = .failure e → r.2.cache.records = s.cache.records) := by
  intro r
  have hr : r = Reply.ofResult (fun _ => .done) (s.add (nested depth) obj) := s.perform_add _ adds
  have cases := s.add_cases (nested depth) obj
  refine ⟨fun none => ?_, fun pool ns admitted => ?_⟩
  · rw [hr, Reply.ofResult_snd]
    generalize s.add (nested depth) obj = added at cases ⊢
    cases cases with
    | declined _ => exact ⟨[], s.withLines_nil.symm⟩
    | skipped _ _ lines => exact ⟨lines, rfl⟩
    | unresolved other _ => exact absurd other (none _ _)
    | unrun other _ => exact absurd other (none _ _)
    | failed other _ _ _ => exact absurd other (none _ _)
    | stored other _ _ => exact absurd other (none _ _)
  · obtain ⟨looked, looks, early | ⟨t, c, named, held, closes⟩⟩ := cases.course admitted
    · obtain ⟨e, he⟩ := early
      have failed : r = (.failure e, looked) := by rw [hr, he]; rfl
      exact ⟨⟨looked, looks, .inl ⟨e, failed⟩⟩, fun _ _ _ => by rw [failed, looks.records]⟩
    · rw [← hr, looks.called_eq] at closes
      obtain ⟨known, others, failed⟩ := closes.frame
      refine ⟨⟨looked, looks, .inr ⟨t, c, named, held, closes, known, others, failed⟩⟩, fun alone e he => ?_⟩
      rw [failed e he, note_cache, alone t named, (orderly_nested depth).idle]
      exact looks.records

/-- A pool is stored, and while the command for another one fails, the first is deleted. -/
def interrupted : Session :=
  Sample.run "a2V5" true
    [⟨.finished (Sample.document "OK"), []⟩, ⟨.exited 1 [], [.delete (Sample.pool "u1" "pool1" "ns1")]⟩]
    [.add (Sample.pool "u1" "pool1" "ns1")]

lemma interrupted_admits : interrupted.Admits (Sample.pool "u2" "pool1" "ns1")
    ⟨"u2", .ofString "pool1", .ofString "ns1", true⟩ "ns1" where
  described := rfl
  mirrored := rfl
  inside := rfl
  permitted := by decide +kernel

theorem interrupted_all_or_nothing :
    let r := interrupted.perform (nested 1) (.update (Sample.pool "u2" "pool1" "ns1"))
    interrupted.cache.records.keys = ["u1"] ∧ r.2.cache.records.keys = [] ∧
      ∃ looked, Looks "ns1" interrupted looked ∧ ∃ c, looked.cache.known.get? "ns1" = some c ∧
        r.2.cache = (nested 1 (interrupted.world.takeOutcome "pool1").1.meanwhile
          (looked.launch "pool1" (Command.status "rbd" "pool1" c))).2.cache := by
  obtain ⟨before, after, raised, command⟩ : interrupted.cache.records.keys = ["u1"] ∧
      (interrupted.perform (nested 1) (.update (Sample.pool "u2" "pool1" "ns1"))).2.cache.records.keys = [] ∧
      (match (interrupted.perform (nested 1) (.update (Sample.pool "u2" "pool1" "ns1"))).1 with
        | .failure _ => true
        | _ => false) = true ∧
      interrupted.cache.setup.command = "rbd" := by
    decide +kernel
  obtain ⟨⟨looked, looks, course⟩, -⟩ :=
    (add_all_or_nothing interrupted 1 (.inr rfl)).2 _ "ns1" interrupted_admits
  generalize interrupted.perform (nested 1) (.update (Sample.pool "u2" "pool1" "ns1")) = r at *
  refine ⟨before, after, looked, looks, ?_⟩
  rcases course with ⟨e, rfl⟩ | ⟨t, c, named, held, -, -, -, failed⟩
  · -- A failure before the command would have left the pool that was stored.
    rw [looks.records, before] at after
    cases after
  · obtain rfl : Text.ofString "pool1" = t := Json.string.inj named
    rw [Text.asString_ofString, command] at failed
    obtain ⟨reply, left⟩ := r
    cases reply with
    | failure e => exact ⟨c, held, failed e rfl⟩
    | _ => cases raised

end Session
end ReplicaWatch
