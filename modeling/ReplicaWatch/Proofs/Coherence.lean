import Mathlib
import ReplicaWatch.Proofs.Holding
import ReplicaWatch.Proofs.Sweeping

/-! The credentials that are held for a namespace. A log tells of every lookup, with the world that answered it, and
of every invalidation. Main statement: in every reachable session the credentials that are held for a namespace are
those of the last lookup that found some, unless they were invalidated since. -/
namespace ReplicaWatch

namespace World

/-- What a lookup of the credentials of a namespace finds. -/
def find (w : World) (ns : String) : Except Failure Credentials :=
  match Credentials.keyOf ns (w.respond (.secretOf ns)) with
  | .error e => .error e
  | .ok key =>
    match Credentials.monitorOf ns (w.respond (.configOf ns)) with
    | .error e => .error e
    | .ok monitor => .ok ⟨monitor, Credentials.clientId, key⟩

/-- The objects that a lookup asks for: the secret, and the configuration only if the secret gave a key. -/
def asks (w : World) (ns : String) : List ObjectName :=
  match Credentials.keyOf ns (w.respond (.secretOf ns)) with
  | .error _ => [.secretOf ns]
  | .ok _ => [.secretOf ns, .configOf ns]

end World

/-- What concerns the credentials that are held: a lookup in the world as it is then, or an invalidation. -/
inductive Dealing where
  | lookup (ns : String) (w : World)
  | invalidation (scope : Json)

namespace Dealing

/-- An invalidation covers a namespace if it names that or none. -/
def Covers (scope : Json) (ns : String) : Prop := scope = .null ∨ scope = .ofString ns

/-- What decides about a namespace: a lookup that finds credentials for it, or an invalidation that covers it. -/
def Settles (ns : String) : Dealing → Prop
  | lookup n w => n = ns ∧ ∃ c, w.find n = .ok c
  | invalidation scope => Covers scope ns

/-- The objects that are asked for. -/
def asks : Dealing → List ObjectName
  | lookup ns w => w.asks ns
  | invalidation _ => []

/-- What becomes of the credentials that are held. -/
def apply (known : Ledger String Credentials) : Dealing → Ledger String Credentials
  | lookup ns w =>
    match w.find ns with
    | .ok c => known.insert ns c
    | .error _ => known
  | invalidation .null => ∅
  | invalidation (.string t) => if Text.isPlain t then known.erase (Text.asString t) else known
  | invalidation _ => known

end Dealing

/-- By a log, the last lookup of a namespace that found credentials found these, and no invalidation has covered the
namespace since. -/
def Remembered (log : List Dealing) (ns : String) (c : Credentials) : Prop :=
  ∃ before w after, log = before ++ .lookup ns w :: after ∧ w.find ns = .ok c ∧ ∀ d ∈ after, ¬d.Settles ns

/-! ## What a log leaves -/

lemma covers_string_iff {t : Text} {ns : String} :
    Dealing.Covers (.string t) ns ↔ Text.isPlain t = true ∧ Text.asString t = ns := by
  constructor
  · rintro (h | h)
    · cases h
    · cases h
      exact ⟨Text.isPlain_ofString ns, Text.asString_ofString ns⟩
  · rintro ⟨plain, rfl⟩
    exact .inr (congrArg Json.string (Text.ofString_asString plain).symm)

/-- A dealing that does not decide about a namespace leaves what is held for it. -/
lemma get?_apply_of_not_settles {d : Dealing} {ns : String} (h : ¬d.Settles ns) (known : Ledger String Credentials) :
    (d.apply known).get? ns = known.get? ns := by
  cases d with
  | lookup n w =>
    simp only [Dealing.apply]
    split
    · next c found =>
      have other : ¬ns = n := fun same => h ⟨same.symm, c, found⟩
      exact (Ledger.get?_insert _ _ _ _).trans (if_neg other)
    · rfl
  | invalidation scope =>
    cases scope with
    | null => exact absurd (.inl rfl) h
    | string t =>
      simp only [Dealing.apply]
      split
      · next plain =>
        have other : ¬ns = Text.asString t := fun same => h (covers_string_iff.2 ⟨plain, same.symm⟩)
        exact (Ledger.get?_erase _ _ _).trans (if_neg other)
      · rfl
    | _ => rfl

/-- After a dealing that decides about a namespace, credentials are held only if they were found then. -/
lemma get?_apply_of_settles {d : Dealing} {ns : String} (h : d.Settles ns) (known : Ledger String Credentials)
    (c : Credentials) : (d.apply known).get? ns = some c ↔ ∃ w, d = .lookup ns w ∧ w.find ns = .ok c := by
  cases d with
  | lookup n w =>
    obtain ⟨rfl, found, hfound⟩ := h
    simp [Dealing.apply, hfound, Ledger.get?_insert]
  | invalidation scope =>
    cases scope with
    | null => simp [Dealing.apply]
    | string t =>
      obtain ⟨plain, rfl⟩ := covers_string_iff.1 h
      simp [Dealing.apply, plain, Ledger.get?_erase]
    | _ =>
      rcases h with h | h
      · cases h
      · cases h

lemma remembered_concat_of_settles {log : List Dealing} {d : Dealing} {ns : String} (h : d.Settles ns)
    (c : Credentials) : Remembered (log ++ [d]) ns c ↔ ∃ w, d = .lookup ns w ∧ w.find ns = .ok c := by
  constructor
  · rintro ⟨before, w, after, hlog, found, quiet⟩
    rcases List.eq_nil_or_concat after with rfl | ⟨after, last, rfl⟩
    · exact ⟨w, (List.append_inj' hlog rfl).2 |> List.singleton_inj.1, found⟩
    · rw [List.concat_eq_append, ← List.cons_append, ← List.append_assoc] at hlog
      obtain rfl := List.singleton_inj.1 (List.append_inj' hlog rfl).2
      exact absurd h (quiet d (by simp))
  · rintro ⟨w, rfl, found⟩
    exact ⟨log, w, [], rfl, found, by simp⟩

lemma remembered_concat_of_not_settles {log : List Dealing} {d : Dealing} {ns : String} (h : ¬d.Settles ns)
    (c : Credentials) : Remembered (log ++ [d]) ns c ↔ Remembered log ns c := by
  constructor
  · rintro ⟨before, w, after, hlog, found, quiet⟩
    rcases List.eq_nil_or_concat after with rfl | ⟨after, last, rfl⟩
    · obtain rfl := List.singleton_inj.1 (List.append_inj' hlog rfl).2
      exact absurd ⟨rfl, c, found⟩ h
    · rw [List.concat_eq_append, ← List.cons_append, ← List.append_assoc] at hlog
      exact ⟨before, w, after, (List.append_inj' hlog rfl).1, found, fun d hd => quiet d (by simp [hd])⟩
  · rintro ⟨before, w, after, rfl, found, quiet⟩
    refine ⟨before, w, after ++ [d], by simp, found, fun e he => ?_⟩
    rcases List.mem_append.1 he with he | he
    · exact quiet e he
    · rw [List.mem_singleton.1 he]
      exact h

/-- What a log leaves for a namespace is what is remembered by it. -/
lemma get?_foldl_apply_iff (log : List Dealing) (ns : String) (c : Credentials) :
    (log.foldl Dealing.apply ∅).get? ns = some c ↔ Remembered log ns c := by
  induction log using List.reverseRecOn with
  | nil => simp [Remembered]
  | append_singleton log d ih =>
    rw [List.foldl_append, List.foldl_cons, List.foldl_nil]
    by_cases h : d.Settles ns
    · rw [get?_apply_of_settles h, remembered_concat_of_settles h]
    · rw [get?_apply_of_not_settles h, remembered_concat_of_not_settles h, ih]

/-! ## Moves -/

/-- Whether an event is a log line, or the start or the end of a command. -/
def Event.isAside : Event → Bool
  | logged _ => true
  | started _ _ _ => true
  | ended _ _ => true
  | _ => false

namespace Session

/-- From one session to another, the lookups and invalidations of a log were made, in this order. -/
inductive Dealt : Session → List Dealing → Session → Prop
  | refl (s) : Dealt s [] s
  | trans {s l t l' u} (h : Dealt s l t) (h' : Dealt t l' u) : Dealt s (l ++ l') u
  | surroundings (s) (world : World) : Dealt s [] { s with world := world }
  | lock (s) (locked : Bool) : Dealt s [] (s.setLocked locked)
  | noted (s) {e : Event} (h : e.isAside = true) : Dealt s [] (s.note e)
  | stored (s) {change : Change} (h : change.isOfStore = true) : Dealt s [] (s.change change)
  | looked (s) {ns} (permitted : ns ∈ s.cache.setup.allowed) : Dealt s [.lookup ns s.world] (s.learn ns).2
  | invalidated (s) (scope : Json) : Dealt s [.invalidation scope] (s.invalidate scope).2

/-- One session comes out of another by lookups and invalidations, whichever they are. -/
def Deals (s t : Session) : Prop := ∃ log, Dealt s log t

section
variable {s t u : Session} {ns : String}

lemma lookup_eq (s : Session) (ns : String) :
    s.lookup ns = (s.world.find ns, { s with trace := s.trace ++ (s.world.asks ns).map Event.asked }) := by
  simp only [lookup, ask, World.find, World.asks, ObjectName.secretOf, ObjectName.configOf, note_world]
  cases Credentials.keyOf ns (s.world.respond ⟨.secret, ns, Credentials.secretName⟩) with
  | error e => rfl
  | ok key =>
    simp only [note, List.append_assoc, List.cons_append, List.nil_append]
    cases Credentials.monitorOf ns (s.world.respond ⟨.configuration, ns, Credentials.configName⟩) with
    | error e => rfl
    | ok monitor => rfl

/-- A lookup that finds credentials has them held, and one that finds none leaves everything as it was. Apart from
that, only log lines are written. -/
lemma learn_eq (s : Session) (ns : String) :
    (s.learn ns).1 = s.world.find ns ∧ (s.learn ns).2.world = s.world ∧
      (s.learn ns).2.cache = { s.cache with known := (Dealing.lookup ns s.world).apply s.cache.known } ∧
      (s.learn ns).2.trace.filterMap Event.request? = s.trace.filterMap Event.request? ++ s.world.asks ns := by
  have asked (names : List ObjectName) : (names.map Event.asked).filterMap Event.request? = names := by
    rw [List.filterMap_map]
    exact List.filterMap_some
  have lines (line : Log.Line) (logging : Bool) :
      ((line.when logging).map Event.logged).filterMap Event.request? = [] := by
    rw [List.filterMap_map, List.filterMap_eq_nil_iff]
    exact fun _ _ => rfl
  simp only [learn, lookup_eq, Dealing.apply]
  cases s.world.find ns with
  | ok c => simp [asked, Event.request?, Cache.apply]
  | error e =>
    simp only
    split <;> simp [asked, lines]

/-- The credentials of an allowed namespace are looked up unless they are held and need not be new. -/
lemma resolve_eq (permitted : ns ∈ s.cache.setup.allowed) (refresh : Bool) :
    s.resolve (.ofString ns) refresh =
      match s.cache.known.get? ns with
      | some c => if refresh then s.learn ns else (.ok c, s)
      | none => s.learn ns := by
  simp only [resolve, Setup.permit_eq_ok_iff.2 ⟨rfl, permitted⟩]
  rfl

/-! ## Operations -/

lemma Deals.refl (s : Session) : Deals s s := ⟨[], .refl s⟩

lemma Deals.trans (h : Deals s t) (h' : Deals t u) : Deals s u := by
  obtain ⟨l, hl⟩ := h
  obtain ⟨l', hl'⟩ := h'
  exact ⟨l ++ l', hl.trans hl'⟩

lemma deals_change (s : Session) {change : Change} (h : change.isOfStore = true) : Deals s (s.change change) :=
  ⟨[], .stored s h⟩

lemma deals_log (s : Session) (level : Log.Level) (text : String) : Deals s (s.log level text) := by
  unfold log
  split
  · exact ⟨[], .noted s rfl⟩
  · exact .refl s

lemma deals_resolvePermitted (s : Session) (permitted : ns ∈ s.cache.setup.allowed) (refresh : Bool) :
    Deals s (s.resolvePermitted ns refresh).2 := by
  have looked : Deals s (s.learn ns).2 := ⟨_, .looked s permitted⟩
  simp only [resolvePermitted]
  split
  · split
    · exact looked
    · exact .refl s
  · exact looked

lemma deals_of_resolved {result : Except Failure Credentials} {refresh : Bool} {ns : Json} {n : String}
    (permitted : s.cache.setup.permit ns = .ok n) (h : s.resolvePermitted n refresh = (result, t)) : Deals s t := by
  have deals := deals_resolvePermitted s (Setup.permit_eq_ok_iff.1 permitted).2 refresh
  rwa [h] at deals

lemma deals_resolve (s : Session) (ns : Json) (refresh : Bool) : Deals s (s.resolve ns refresh).2 := by
  simp only [resolve]
  split
  · exact .refl s
  · next permitted => exact deals_resolvePermitted s (Setup.permit_eq_ok_iff.1 permitted).2 refresh

lemma deals_invalidate (s : Session) (scope : Json) : Deals s (s.invalidate scope).2 := ⟨_, .invalidated s scope⟩

lemma deals_logFailure (s : Session) (exit : String) (args : List String) (output : List UInt8) :
    Deals s (s.logFailure exit args output) := by
  simp only [logFailure]
  split
  · exact (deals_log _ _ _).trans (deals_log _ _ _)
  · exact ((deals_log _ _ _).trans (deals_log _ _ _)).trans (deals_log _ _ _)

lemma deals_conclude (s : Session) (pool : String) (args : List String) (ending : Ending) :
    Deals s (s.conclude pool args ending).2 := by
  cases ending with
  | finished output =>
    simp only [conclude]
    split <;> exact .refl s
  | exited code output => exact deals_logFailure s _ _ _
  | timedOut output => exact deals_logFailure s _ _ _
  | unstarted number => exact .refl s
  | uncallable fault => exact .refl s

lemma deals_launch (s : Session) (pool : String) (args : List String) : Deals s (s.launch pool args) :=
  ⟨_, (Dealt.surroundings s _).trans (.noted _ rfl)⟩

lemma deals_sweepStart (s : Session) : Deals s s.sweepStart := (deals_log s .info _).trans ⟨[], .lock _ _⟩

lemma deals_delete (s : Session) (obj : Json) : Deals s (s.delete obj).2 := by
  simp only [delete]
  split
  · exact .refl s
  · exact deals_change s rfl

end

section
variable {m : Meanwhile} (hm : ∀ steps s, Deals s (m steps s).2)
include hm

lemma deals_fetch (s : Session) (pool : String) (c : Credentials) : Deals s (s.fetch m pool c).2 := by
  simp only [fetch]
  split
  · exact .refl s
  · rw [run_eq]
    have ended (t : Session) (ending : Ending) (replies : List Reply) : Deals t (t.note (.ended ending replies)) :=
      ⟨[], .noted t rfl⟩
    exact (((deals_launch s _ _).trans (hm _ _)).trans (ended _ _ _)).trans (deals_conclude _ _ _ _)

lemma deals_fetchRecord (s : Session) (pool ns : Json) : Deals s (s.fetchRecord m pool ns).2 := by
  have cases := fetchRecord_cases s m pool ns
  generalize s.fetchRecord m pool ns = r at cases ⊢
  cases cases with
  | refused _ => exact .refl s
  | unresolved permitted resolved => exact deals_of_resolved permitted resolved
  | misnamed permitted resolved _ => exact deals_of_resolved permitted resolved
  | @ended n c t p _ _ permitted resolved _ fetched =>
    have hf := deals_fetch hm t (Text.asString p) c
    rw [fetched] at hf
    exact (deals_of_resolved permitted resolved).trans hf

lemma deals_add (s : Session) (obj : Json) : Deals s (s.add m obj).2 := by
  simp only [add]
  split
  · exact .refl s
  · next pool _ =>
    split
    · have hf := deals_fetchRecord hm s pool.name pool.ns
      split
      · next h =>
        rw [h] at hf
        exact hf
      · next h =>
        rw [h] at hf
        exact hf.trans (deals_change _ rfl)
    · exact deals_log _ _ _

lemma deals_addAll (s : Session) (items : List Json) : Deals s (s.addAll m items).2 := by
  induction items generalizing s with
  | nil => exact .refl s
  | cons item rest ih =>
    have ha := deals_add hm s item
    simp only [addAll]
    split
    · next h =>
      rw [h] at ha
      exact ha
    · next h =>
      rw [h] at ha
      exact ha.trans (ih _)

lemma deals_replace (s : Session) (items : Json) : Deals s (s.replace m items).2 := by
  have cleared : Deals s (s.change .cleared) := deals_change s rfl
  simp only [replace]
  split
  · exact cleared.trans (deals_addAll hm _ _)
  · exact cleared

lemma deals_refresh (s : Session) (held : Bool) (uid : String) (record : Record) (tally : Tally) :
    Deals s (s.refresh m held uid record tally).2 := by
  have hf := deals_fetchRecord hm s (.ofString record.pool) (.ofString record.ns)
  have cases := refresh_cases s m held uid record tally
  generalize s.fetchRecord m (.ofString record.pool) (.ofString record.ns) = r at hf cases
  generalize s.refresh m held uid record tally = r' at cases ⊢
  obtain ⟨fetched, u⟩ := r
  cases cases with
  | wrote _ => exact hf.trans (deals_change _ rfl)
  | skipped _ => exact hf
  | failed cause => exact hf.trans (deals_log _ _ _)
  | ended _ => exact hf

lemma deals_sweep (s : Session) (held : Bool) (tally : Tally) (entries : List (String × Record)) :
    Deals s (s.sweep m held tally entries).2 := by
  induction entries generalizing s tally with
  | nil => exact .refl s
  | cons entry rest ih =>
    have hr := deals_refresh hm s held entry.1 entry.2 tally
    simp only [sweep]
    split
    · next h =>
      rw [h] at hr
      exact hr
    · next h =>
      rw [h] at hr
      exact hr.trans (ih _ _)

lemma deals_resync (s : Session) : Deals s (s.resync m).2 := by
  have free (t : Session) : Deals t (t.setLocked false) := ⟨[], .lock t false⟩
  have hs := (deals_sweepStart s).trans
    (deals_sweep hm s.sweepStart s.cache.setup.serialize ⟨0, 0, 0⟩ s.cache.records.entries)
  rw [resync_eq]
  split
  · next h =>
    rw [h] at hs
    exact hs.trans (free _)
  · next h =>
    rw [h] at hs
    exact (hs.trans (free _)).trans (deals_log _ _ _)

lemma deals_handle (s : Session) (event obj : Json) (ns name : String) :
    Deals s (s.handle m event obj ns name).2 := by
  have answered {r : Except Failure Unit × Session} (h : Deals s r.2) : Deals s (answerEvent ns name r).2 := by
    unfold answerEvent
    split
    · exact h.trans ⟨[], .noted _ rfl⟩
    · exact h
  simp only [handle]
  split
  · split
    · exact .refl s
    · apply answered
      split
      · exact deals_delete s obj
      · exact deals_add hm s obj
  · exact .refl s

lemma deals_perform (s : Session) (step : Step) : Deals s (s.perform m step).2 := by
  cases step with
  | add obj => simpa [perform] using deals_add hm s obj
  | update obj => simpa [perform] using deals_add hm s obj
  | delete obj => simpa [perform] using deals_delete s obj
  | replace items => simpa [perform] using deals_replace hm s items
  | resync => simpa [perform] using deals_resync hm s
  | resolve ns refresh => simpa [perform] using deals_resolve s ns refresh
  | invalidate ns => simpa [perform] using deals_invalidate s ns
  | event event obj ns name => simpa [perform] using deals_handle hm s event obj ns name
  | isAllowed ns => simpa [perform] using Deals.refl s
  | setObject name response => exact ⟨[], .surroundings s _⟩
  | removeObject name => exact ⟨[], .surroundings s _⟩
  | setEndings pool outcomes => exact ⟨[], .surroundings s _⟩
  | _ => exact .refl s

lemma deals_attempt (s : Session) (step : Step) : Deals s (s.attempt m step).2 := by
  simp only [attempt]
  split
  · exact .refl s
  · exact deals_perform hm s step

lemma deals_attemptAll (s : Session) (steps : List Step) : Deals s (s.attemptAll m steps).2 := by
  induction steps generalizing s with
  | nil => exact .refl s
  | cons step rest ih => exact (deals_attempt hm s step).trans (ih _)

end

/-- However deep steps are nested, they come down to lookups and invalidations. -/
lemma deals_nested (depth : ℕ) (steps : List Step) (s : Session) : Deals s (nested depth steps s).2 := by
  induction depth generalizing steps s with
  | zero => exact .refl s
  | succ depth ih => exact deals_attemptAll ih s steps

/-! ## Runs -/

lemma FetchBegins.deals {s t : Session} {pool ns : Json} (h : s.FetchBegins pool ns t) : Deals s t := by
  obtain ⟨permitted, resolved, -, -⟩ := h
  exact (deals_of_resolved permitted resolved).trans (deals_launch _ _ _)

lemma Begins.deals {s t : Session} {depth : ℕ} {step : Step} (h : s.Begins (nested depth) step t) : Deals s t := by
  have added {u : Session} {obj : Json} (h : u.AddBegins obj t) : Deals u t := by
    obtain ⟨pool, -, -, fetches⟩ := h
    exact fetches.deals
  cases h with
  | add h => exact added h
  | update h => exact added h
  | event _ _ h => exact added h
  | @replace items before item after u _ _ before' h =>
    have ha := deals_addAll (deals_nested depth) (s.change .cleared) before
    rw [before'] at ha
    exact ((deals_change s rfl).trans ha).trans (added h)
  | @resync uid record tally u _ comes h =>
    obtain ⟨before, after, -, swept⟩ := comes
    have hs := deals_sweep (deals_nested depth) s.sweepStart s.cache.setup.serialize ⟨0, 0, 0⟩ before
    rw [swept] at hs
    exact ((deals_sweepStart s).trans hs).trans h.deals

lemma Reachable.deals {setup : Setup} {history : List Event} {s : Session} (h : Reachable setup history s) :
    ∃ world, Deals ⟨Cache.new setup, world, history⟩ s := by
  induction h with
  | start world => exact ⟨world, .refl _⟩
  | took _ depth step ih =>
    obtain ⟨world, deals⟩ := ih
    exact ⟨world, deals.trans (deals_attempt (deals_nested depth) _ step)⟩
  | within _ _ _ begins ih =>
    obtain ⟨world, deals⟩ := ih
    exact ⟨world, deals.trans begins.deals⟩

/-! ## What is held -/

/-- What a log tells of the sessions before and after it. -/
structure Accounts (s : Session) (log : List Dealing) (t : Session) : Prop where
  setup : t.cache.setup = s.cache.setup
  known : t.cache.known = log.foldl Dealing.apply s.cache.known
  requests : t.trace.filterMap Event.request? = s.trace.filterMap Event.request? ++ log.flatMap Dealing.asks
  permitted : ∀ ns w, .lookup ns w ∈ log → ns ∈ s.cache.setup.allowed

lemma invalidate_eq (s : Session) (scope : Json) :
    (s.invalidate scope).2.cache = { s.cache with known := (Dealing.invalidation scope).apply s.cache.known } ∧
      (s.invalidate scope).2.trace.filterMap Event.request? = s.trace.filterMap Event.request? := by
  cases scope with
  | null => simp [invalidate, Dealing.apply, Cache.apply, Event.request?]
  | string t =>
    simp only [invalidate, Dealing.apply]
    split <;> simp [Cache.apply, Event.request?]
  | _ => exact ⟨rfl, rfl⟩

lemma Dealt.accounts {s t : Session} {log : List Dealing} (h : Dealt s log t) : Accounts s log t := by
  induction h with
  | refl s => exact ⟨rfl, rfl, by simp, by simp⟩
  | @trans s l t l' u _ _ ih ih' =>
    refine ⟨ih'.setup.trans ih.setup, by rw [ih'.known, ih.known, List.foldl_append], ?_, fun ns w hw => ?_⟩
    · rw [ih'.requests, ih.requests, List.flatMap_append, List.append_assoc]
    · rcases List.mem_append.1 hw with hw | hw
      · exact ih.permitted ns w hw
      · exact ih.setup ▸ ih'.permitted ns w hw
  | surroundings s world => exact ⟨rfl, rfl, by simp, by simp⟩
  | lock s locked => exact ⟨rfl, rfl, by simp, by simp⟩
  | @noted s e h =>
    have silent : e.request? = none := by
      cases e with
      | asked name => cases h
      | _ => rfl
    exact ⟨rfl, rfl, by simp [silent], by simp⟩
  | @stored s change h =>
    refine ⟨by simp, ?_, by simp [Event.request?], by simp⟩
    cases change with
    | learned ns c => cases h
    | forgot ns => cases h
    | forgotAll => cases h
    | _ => rfl
  | @looked s ns permitted =>
    obtain ⟨-, -, cache, requests⟩ := s.learn_eq ns
    refine ⟨by rw [cache], by rw [cache]; rfl, by rw [requests]; simp [Dealing.asks], fun n w hw => ?_⟩
    cases List.mem_singleton.1 hw
    exact permitted
  | invalidated s scope =>
    obtain ⟨cache, requests⟩ := s.invalidate_eq scope
    exact ⟨by rw [cache], by rw [cache]; rfl, by rw [requests]; simp [Dealing.asks], by simp⟩

/-- Credentials are only held for allowed namespaces. -/
lemma Reachable.permitted_of_known {setup : Setup} {history : List Event} {s : Session}
    (reachable : Reachable setup history s) {ns : String} {c : Credentials} (held : s.cache.known.get? ns = some c) :
    ns ∈ s.cache.setup.allowed := by
  obtain ⟨world, log, dealt⟩ := reachable.deals
  have accounts := dealt.accounts
  rw [accounts.known] at held
  obtain ⟨before, w, after, rfl, -, -⟩ := (get?_foldl_apply_iff log ns c).1 held
  exact accounts.setup ▸ accounts.permitted ns w (by simp)

/-- A namespace that is not held, or is to be asked for afresh, is looked up once in the world as it is. -/
lemma resolve_afresh {s : Session} {ns : String} (permitted : ns ∈ s.cache.setup.allowed) {refresh : Bool}
    (afresh : refresh = true ∨ s.cache.known.get? ns = none) : s.resolve (.ofString ns) refresh = s.learn ns := by
  rw [resolve_eq permitted]
  rcases afresh with rfl | absent
  · cases s.cache.known.get? ns <;> rfl
  · rw [absent]

/-- A reachable session has come from its start by lookups and invalidations. By every log of these, the credentials
that are held for a namespace are those that the last lookup of it found that found some, if no invalidation has
covered the namespace since, and the objects that were asked for are those of the lookups.

Credentials that are held are given as they are, and nothing happens. Otherwise, or if they are to be new, they are
looked up once in the world as it is, and are held from then on if they were found. A lookup that finds none leaves
the cache as it was, and whatever the world is then, the next time they are looked up again. -/
theorem credentials_coherent {setup : Setup} {history : List Event} {s : Session}
    (reachable : Reachable setup history s) :
    (∃ world log, Dealt ⟨Cache.new setup, world, history⟩ log s) ∧
    (∀ world log, Dealt ⟨Cache.new setup, world, history⟩ log s →
      s.trace.filterMap Event.request? = history.filterMap Event.request? ++ log.flatMap Dealing.asks ∧
      ∀ ns c, s.cache.known.get? ns = some c ↔ Remembered log ns c) ∧
    (∀ ns c, s.cache.known.get? ns = some c → s.resolve (.ofString ns) false = (.ok c, s)) ∧
    ∀ ns refresh, ns ∈ setup.allowed → (refresh = true ∨ s.cache.known.get? ns = none) →
      let r := s.resolve (.ofString ns) refresh
      r.1 = s.world.find ns ∧ Dealt s [.lookup ns s.world] r.2 ∧
      r.2.trace.filterMap Event.request? = s.trace.filterMap Event.request? ++ s.world.asks ns ∧
      (∀ c, r.1 = .ok c → r.2.cache = { s.cache with known := s.cache.known.insert ns c }) ∧
      ∀ e, r.1 = .error e → r.2.cache = s.cache ∧
        ∀ world refresh', (refresh' = true ∨ s.cache.known.get? ns = none) →
          let again := { r.2 with world := world }.resolve (.ofString ns) refresh'
          again.1 = world.find ns ∧
          again.2.trace.filterMap Event.request? = r.2.trace.filterMap Event.request? ++ world.asks ns := by
  obtain ⟨start, log, dealt⟩ := reachable.deals
  have setup_eq : s.cache.setup = setup := dealt.accounts.setup
  refine ⟨⟨start, log, dealt⟩, fun world log dealt => ?_, fun ns c held => ?_, fun ns refresh permitted afresh => ?_⟩
  · have accounts := dealt.accounts
    refine ⟨accounts.requests, fun ns c => ?_⟩
    rw [accounts.known]
    exact get?_foldl_apply_iff log ns c
  · rw [resolve_eq (reachable.permitted_of_known held), held]
    rfl
  · rw [← setup_eq] at permitted
    obtain ⟨result, -, cache, requests⟩ := s.learn_eq ns
    rw [resolve_afresh permitted afresh]
    refine ⟨result, .looked s permitted, requests, fun c found => ?_, fun e missed => ?_⟩
    · rw [cache, Dealing.apply, ← result, found]
    · have unchanged : (s.learn ns).2.cache = s.cache := by rw [cache, Dealing.apply, ← result, missed]
      refine ⟨unchanged, fun world refresh' afresh' => ?_⟩
      rw [← unchanged] at permitted afresh'
      obtain ⟨again, -, -, asked⟩ := { (s.learn ns).2 with world := world }.learn_eq ns
      rw [resolve_afresh (s := { (s.learn ns).2 with world := world }) permitted afresh']
      exact ⟨again, asked⟩

/-- The credentials of a namespace are resolved, its secret is removed, and they are asked for afresh. -/
def outdated : Session :=
  Sample.run "a2V5" true []
    [.resolve (.ofString "ns1") false, .removeObject (.secretOf "ns1"), .resolve (.ofString "ns1") true]

theorem outdated_credentials_coherent :
    outdated.cache.known.get? "ns1" = some ⟨"10.0.0.1", "admin", "key"⟩ ∧
      (∃ world log, Dealt ⟨Cache.new (Sample.setup true), world, []⟩ log outdated ∧
        Remembered log "ns1" ⟨"10.0.0.1", "admin", "key"⟩ ∧
        log.flatMap Dealing.asks = [.secretOf "ns1", .configOf "ns1", .secretOf "ns1"]) ∧
      outdated.resolve (.ofString "ns1") false = (.ok ⟨"10.0.0.1", "admin", "key"⟩, outdated) ∧
      (outdated.resolve (.ofString "ns1") true).2.cache = outdated.cache := by
  have reachable : Reachable (Sample.setup true) [] outdated := Sample.run_reachable _ _ _ _
  have held : outdated.cache.known.get? "ns1" = some ⟨"10.0.0.1", "admin", "key"⟩ := by decide +kernel
  have asked : outdated.trace.filterMap Event.request? = [.secretOf "ns1", .configOf "ns1", .secretOf "ns1"] := by
    decide +kernel
  obtain ⟨⟨world, log, dealt⟩, logs, cached, afresh⟩ := credentials_coherent reachable
  obtain ⟨requests, remembered⟩ := logs world log dealt
  obtain ⟨result, -, -, -, failed⟩ := afresh "ns1" true (by decide) (.inl rfl)
  have missing : (outdated.world.find "ns1").toOption = none := by decide +kernel
  obtain ⟨e, missed⟩ : ∃ e, outdated.world.find "ns1" = .error e := by
    cases found : outdated.world.find "ns1" with
    | ok c =>
      rw [found] at missing
      cases missing
    | error e => exact ⟨e, rfl⟩
  exact ⟨held, ⟨world, log, dealt, (remembered _ _).1 held, by rw [← asked, requests]; simp⟩, cached _ _ held,
    (failed e (result.trans missed)).1⟩

end Session
end ReplicaWatch
