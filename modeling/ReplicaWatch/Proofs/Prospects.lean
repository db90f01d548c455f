import Mathlib
import ReplicaWatch.Proofs.Adding
import ReplicaWatch.Proofs.Writes.Log

/-! Prospects: what adding a pool depends on where no command leaves time for others. That is the credentials of its
namespace, whether they are held or have yet to be looked up, and the outcomes of the commands for the pool itself.
Main statements: from these it can be told how an addition ends and what it stores, and it leaves the prospects of
all other pools as they were. -/
namespace ReplicaWatch

/-! ## Outcomes -/

namespace World

lemma takeOutcome_congr {w w' : World} {pool : String} (h : w.outcomes.get? pool = w'.outcomes.get? pool) :
    (w.takeOutcome pool).1 = (w'.takeOutcome pool).1 := by
  unfold takeOutcome
  rw [h]
  split <;> rfl

/-- Taking an outcome touches nothing but the outcomes of that pool. -/
lemma takeOutcome_frame (w : World) (pool : String) :
    (w.takeOutcome pool).2.objects = w.objects ∧
      ∀ other, other ≠ pool → (w.takeOutcome pool).2.outcomes.get? other = w.outcomes.get? other := by
  unfold takeOutcome
  split
  · exact ⟨rfl, fun _ _ => rfl⟩
  · exact ⟨rfl, fun _ apart => (Ledger.get?_insert _ _ _ _).trans (if_neg apart)⟩
  · exact ⟨rfl, fun _ apart => (Ledger.get?_insert _ _ _ _).trans (if_neg apart)⟩

lemma find_congr {w w' : World} (h : w.objects = w'.objects) (ns : String) : w.find ns = w'.find ns := by
  unfold find respond
  rw [h]

end World

/-- An object describes a pool of a name. -/
def BlockPool.Named (obj : Json) (name : String) : Prop :=
  ∃ pool t, ofJson obj = .ok pool ∧ pool.name = .string t ∧ Text.asString t = name

/-- The namespace whose credentials are used to add the pool that an object describes. -/
def Setup.sought? (setup : Setup) (obj : Json) : Option String :=
  match BlockPool.ofJson obj with
  | .ok pool => if pool.mirrored then (setup.permit pool.ns).toOption else none
  | .error _ => none

/-- What a record says of a pool, apart from the moment at which the status came in. -/
def Record.content (r : Record) : String × String × Status.Pool := (r.pool, r.ns, r.status)

namespace Session

/-- What is stored for pools, apart from the moments at which it came in. -/
def stored (s : Session) : Ledger String (String × String × Status.Pool) := s.cache.records.map Record.content

/-- The credentials of a namespace: those that are held, or else what a lookup finds. -/
def credentialsOf (s : Session) (ns : String) : Except Failure Credentials :=
  match s.cache.known.get? ns with
  | some c => .ok c
  | none => s.world.find ns

/-- What a fetch of the status of a pool is going to give. -/
def forecast (s : Session) (pool ns : Json) : Except Failure (String × String × Status.Pool) := do
  let ns ← s.cache.setup.permit ns
  let c ← s.credentialsOf ns
  match pool with
  | .string t =>
    let pool := Text.asString t
    if c.isEmpty then .error (.ofFetch (.incompleteCredentials pool))
    else
      let status ← (s.conclude pool [] (s.world.takeOutcome pool).1.ending).1
      return (pool, ns, status)
  | _ => .error .wrongKind

/-- What an addition is going to store: the identity of the pool and what its record will say. -/
def verdict (s : Session) (obj : Json) : Except Failure (Option (String × String × String × Status.Pool)) := do
  let pool ← BlockPool.ofJson obj
  if pool.mirrored then
    let content ← s.forecast pool.name pool.ns
    return some (pool.uid, content)
  else return none

/-- In two sessions the same is to be expected for some pools. -/
structure Matches (pools : String → Prop) (s t : Session) : Prop where
  setup : s.cache.setup = t.cache.setup
  locked : s.cache.locked = t.cache.locked
  credentials : ∀ ns, s.credentialsOf ns = t.credentialsOf ns
  outcomes : ∀ pool, pools pool → s.world.outcomes.get? pool = t.world.outcomes.get? pool

section
variable {pools : String → Prop} {s t u : Session}

lemma Matches.refl (pools : String → Prop) (s : Session) : Matches pools s s :=
  ⟨rfl, rfl, fun _ => rfl, fun _ _ => rfl⟩

lemma Matches.trans (h : Matches pools s t) (h' : Matches pools t u) : Matches pools s u :=
  ⟨h.setup.trans h'.setup, h.locked.trans h'.locked, fun ns => (h.credentials ns).trans (h'.credentials ns),
    fun pool hp => (h.outcomes pool hp).trans (h'.outcomes pool hp)⟩

lemma Matches.mono (h : Matches pools s t) {fewer : String → Prop} (sub : ∀ pool, fewer pool → pools pool) :
    Matches fewer s t :=
  ⟨h.setup, h.locked, h.credentials, fun pool hp => h.outcomes pool (sub pool hp)⟩

/-! ## Lookups -/

lemma resolvePermitted_eq (s : Session) (ns : String) : (s.resolvePermitted ns false).1 = s.credentialsOf ns := by
  unfold resolvePermitted credentialsOf
  cases s.cache.known.get? ns with
  | some c => rfl
  | none => exact (s.learn_eq ns).1

/-- After credentials were resolved, they are held if there are any. -/
lemma get?_resolvePermitted (s : Session) (ns k : String) :
    (s.resolvePermitted ns false).2.cache.known.get? k =
      if k = ns then (s.credentialsOf ns).toOption else s.cache.known.get? k := by
  unfold resolvePermitted credentialsOf
  cases held : s.cache.known.get? ns with
  | some c =>
    by_cases hk : k = ns
    · simp [hk, held, Except.toOption]
    · simp [hk]
  | none =>
    simp only [(s.learn_eq ns).2.2.1, Dealing.apply]
    cases s.world.find ns with
    | ok c => exact Ledger.get?_insert _ _ _ _
    | error e =>
      by_cases hk : k = ns
      · simp [hk, held, Except.toOption]
      · simp [hk]

lemma matches_resolvePermitted (pools : String → Prop) (s : Session) (ns : String) :
    Matches pools s (s.resolvePermitted ns false).2 := by
  have looks := s.looks_resolvePermitted ns false
  have held := s.get?_resolvePermitted ns
  generalize (s.resolvePermitted ns false).2 = t at looks held
  obtain ⟨known, cache, -⟩ := looks.cache
  refine ⟨by rw [cache], by rw [cache], fun k => ?_, fun pool _ => by rw [looks.world]⟩
  rw [credentialsOf.eq_def t, held k, looks.world]
  by_cases hk : k = ns
  · subst hk
    simp only [if_true, credentialsOf]
    cases s.cache.known.get? k with
    | some c => rfl
    | none => cases s.world.find k <;> rfl
  · simp only [hk, if_false, credentialsOf]

/-! ## Fetching -/

/-- What the end of a command means depends on the setup alone. -/
lemma conclude_congr (h : s.cache.setup = t.cache.setup) (pool : String) (args args' : List String)
    (ending : Ending) :
    (s.conclude pool args ending).1 = (t.conclude pool args' ending).1 := by
  cases ending with
  | finished output =>
    simp only [conclude]
    split <;> rfl
  | _ => simp only [conclude, h]

lemma Matches.forecast_eq (h : Matches pools s t) (pool ns : Json)
    (own : ∀ p, pool = .string p → pools (Text.asString p)) :
    s.forecast pool ns = t.forecast pool ns := by
  simp only [forecast, h.setup, h.credentials]
  cases pool with
  | string p =>
    simp only [World.takeOutcome_congr (h.outcomes _ (own p rfl))]
    simp only [conclude_congr h.setup (Text.asString p) [] []]
  | _ => rfl

variable {m : Meanwhile} (hm : Orderly m) (still : s.world.Undisturbed)
include hm still

lemma called_undisturbed (pool : String) (c : Credentials) :
    (s.called m pool c).cache = s.cache ∧ (s.called m pool c).world = (s.world.takeOutcome pool).2 := by
  rw [called, run_eq, (still.takeOutcome pool).1, hm.idle]
  exact ⟨rfl, rfl⟩

lemma matches_called (pool : String) (c : Credentials) : Matches (· ≠ pool) s (s.called m pool c) := by
  obtain ⟨cache, world⟩ := called_undisturbed hm still pool c
  obtain ⟨objects, others⟩ := s.world.takeOutcome_frame pool
  refine ⟨by rw [cache], by rw [cache], fun ns => ?_, fun other apart => by rw [world, others other apart]⟩
  simp only [credentialsOf, cache, world, World.find_congr objects]

lemma fetch_undisturbed (pool : String) (c : Credentials) :
    (s.fetch m pool c).1 =
        (if c.isEmpty then .error (.ofFetch (.incompleteCredentials pool))
        else (s.conclude pool [] (s.world.takeOutcome pool).1.ending).1) ∧
      (s.fetch m pool c).2.cache = s.cache ∧ Matches (· ≠ pool) s (s.fetch m pool c).2 := by
  obtain ⟨cache, world⟩ := called_undisturbed hm still pool c
  have matched := matches_called hm still pool c
  rw [fetch_eq]
  split
  · exact ⟨rfl, rfl, .refl _ s⟩
  · generalize (s.world.takeOutcome pool).1.ending = ending
    obtain ⟨lines, hlines⟩ :=
      (s.called m pool c).conclude_eq pool (Command.status s.cache.setup.command pool c) ending
    rw [hlines]
    exact ⟨conclude_congr (by rw [cache]) _ _ _ _, cache,
      ⟨matched.setup, matched.locked, matched.credentials, matched.outcomes⟩⟩

/-- A fetch gives what was forecast, has the credentials held that there are, and matters for no other pool. -/
lemma fetchRecord_undisturbed (pool ns : Json) :
    (s.fetchRecord m pool ns).1.map Record.content = s.forecast pool ns ∧
      (∀ k, (s.fetchRecord m pool ns).2.cache.known.get? k =
        if (s.cache.setup.permit ns).toOption = some k then (s.credentialsOf k).toOption else s.cache.known.get? k) ∧
      Matches (fun p => ∀ t, pool = .string t → p ≠ Text.asString t) s (s.fetchRecord m pool ns).2 := by
  have resolves {n : String} {result : Except Failure Credentials} {t : Session}
      (permitted : s.cache.setup.permit ns = .ok n) (h : s.resolvePermitted n false = (result, t)) :
      s.credentialsOf n = result ∧ Matches (fun _ => True) s t ∧ t.world = s.world ∧
        ∀ k, t.cache.known.get? k =
          if (s.cache.setup.permit ns).toOption = some k then (s.credentialsOf k).toOption
          else s.cache.known.get? k := by
    have result := s.resolvePermitted_eq n
    have matched := matches_resolvePermitted (fun _ => True) s n
    have world := s.resolvePermitted_world n false
    have held := s.get?_resolvePermitted n
    rw [h] at result matched world held
    refine ⟨result.symm, matched, world, fun k => ?_⟩
    rw [held k, permitted]
    by_cases hk : k = n
    · simp [hk, Except.toOption]
    · simp [hk, Ne.symm hk, Except.toOption]
  have cases := fetchRecord_cases s m pool ns
  generalize s.fetchRecord m pool ns = r at cases ⊢
  cases cases with
  | refused refused =>
    refine ⟨?_, fun k => ?_, .refl _ s⟩
    · simp [forecast, refused, Except.map, bind, Except.bind]
    · simp [refused, Except.toOption]
  | unresolved permitted resolved =>
    obtain ⟨result, matched, -, held⟩ := resolves permitted resolved
    refine ⟨?_, held, matched.mono fun _ _ => trivial⟩
    simp [forecast, permitted, result, Except.map, bind, Except.bind]
  | misnamed permitted resolved nameless =>
    obtain ⟨result, matched, -, held⟩ := resolves permitted resolved
    refine ⟨?_, held, matched.mono fun _ _ => trivial⟩
    simp only [forecast, permitted, result, bind, Except.bind]
    cases pool with
    | string p => exact absurd rfl (nameless p)
    | _ => rfl
  | @ended n c t p fetched u permitted resolved named ended =>
    obtain ⟨result, matched, world, held⟩ := resolves permitted resolved
    obtain ⟨status, cache, others⟩ := fetch_undisturbed hm (world ▸ still) (Text.asString p) c
    rw [ended] at status cache others
    refine ⟨?_, fun k => by rw [cache, held k],
      (matched.mono fun _ _ => trivial).trans (others.mono fun _ apart => apart p named)⟩
    subst named
    simp only [forecast, permitted, result, bind, Except.bind]
    rw [show fetched = _ from status, world, conclude_congr matched.setup.symm (Text.asString p) [] []]
    cases c.isEmpty with
    | true => rfl
    | false =>
      simp only [Bool.false_eq_true, if_false]
      cases (s.conclude (Text.asString p) [] (s.world.takeOutcome (Text.asString p)).1.ending).1 <;> rfl

/-! ## Adding -/

omit hm still in
/-- The verdict on an addition depends on the prospects of its own pool alone. -/
lemma Matches.verdict_eq (h : Matches pools s t) (obj : Json) (own : ∀ p, BlockPool.Named obj p → pools p) :
    s.verdict obj = t.verdict obj := by
  unfold verdict
  cases described : BlockPool.ofJson obj with
  | error e => rfl
  | ok pool =>
    have same := h.forecast_eq pool.name pool.ns fun t named => own _ ⟨pool, t, described, named, rfl⟩
    simp only [bind, Except.bind, same]

/-- An addition ends as the verdict has it, stores what that says, has the credentials held that there are, and
matters for no other pool. -/
lemma add_undisturbed (obj : Json) :
    (s.add m obj).1 = (s.verdict obj).map (fun _ => ()) ∧
      (s.add m obj).2.stored =
        (match s.verdict obj with
          | .ok (some (uid, content)) => s.stored.insert uid content
          | _ => s.stored) ∧
      (∀ k, (s.add m obj).2.cache.known.get? k =
        if s.cache.setup.sought? obj = some k then (s.credentialsOf k).toOption else s.cache.known.get? k) ∧
      (s.add m obj).2.world.Undisturbed ∧
      Matches (fun p => ¬BlockPool.Named obj p) s (s.add m obj).2 := by
  unfold add verdict Setup.sought?
  cases described : BlockPool.ofJson obj with
  | error e => exact ⟨rfl, rfl, fun _ => rfl, still, .refl _ s⟩
  | ok pool =>
    obtain ⟨uid, name, ns, mirrored⟩ := pool
    cases mirrored with
    | false =>
      obtain ⟨lines, hlines⟩ := s.log_eq .info (skippedText ns name)
      simp only [Bool.false_eq_true, if_false, hlines]
      exact ⟨rfl, rfl, fun _ => rfl, still, ⟨rfl, rfl, fun _ => rfl, fun _ _ => rfl⟩⟩
    | true =>
      obtain ⟨result, held, others⟩ := fetchRecord_undisturbed hm still name ns
      obtain ⟨records, left⟩ := undisturbed_fetchRecord hm still name ns
      have stored : (s.fetchRecord m name ns).2.stored = s.stored := congrArg (Ledger.map · Record.content) records
      simp only [if_true, ← result, bind, Except.bind]
      generalize s.fetchRecord m name ns = r at held others stored left ⊢
      obtain ⟨fetched, t⟩ := r
      have apart (p : String) (h : ¬BlockPool.Named obj p) (u : Text) (named : name = .string u) :
          p ≠ Text.asString u :=
        fun same => h ⟨_, u, described, named, same.symm⟩
      cases fetched with
      | error e => exact ⟨rfl, stored, held, left, others.mono apart⟩
      | ok record =>
        refine ⟨rfl, ?_, held, left, others.setup, others.locked, others.credentials, fun p hp => ?_⟩
        · exact (Ledger.map_insert _ _ _ _).trans (congrArg (Ledger.insert · uid record.content) stored)
        · exact others.outcomes p (apart p hp)

end

end Session
end ReplicaWatch
