import Mathlib
import ReplicaWatch.Proofs.Evolution

/-! Confinement to the allowed namespaces. Main statement: whatever runs, only the two objects of allowed namespaces
are read, commands run with credentials that were read for allowed namespaces, and credentials and records are kept
for allowed namespaces only; a request for any other namespace has no effect. -/
namespace ReplicaWatch

/-- An event keeps to the allowed namespaces, given what happened before it. -/
def Event.ConfinedTo (allowed : List String) (before : List Event) : Event → Prop
  | asked name => ∃ ns ∈ allowed, name = .secretOf ns ∨ name = .configOf ns
  | started args _ _ => ∃ ns ∈ allowed, ∃ (command pool : String) (c : Credentials),
      .changed (.learned ns c) ∈ before ∧ args = Command.status command pool c
  | changed (.learned ns _) => ns ∈ allowed ∧ [.asked (.secretOf ns), .asked (.configOf ns)] <:+ before
  | changed (.stored _ record) => record.ns ∈ allowed
  | changed (.refreshed _ record) => record.ns ∈ allowed
  | _ => True

/-- Everything that happened keeps to the allowed namespaces. -/
def Confined (allowed : List String) (trace : List Event) : Prop :=
  ∀ before e after, trace = before ++ e :: after → e.ConfinedTo allowed before

/-- Credentials are held and records are kept for allowed namespaces only. -/
def Cache.Within (allowed : List String) (c : Cache) : Prop :=
  (∀ ns ∈ c.known.keys, ns ∈ allowed) ∧ ∀ uid record, c.records.get? uid = some record → record.ns ∈ allowed

lemma confined_nil (allowed : List String) : Confined allowed [] := by
  intro before e after h
  simp at h

lemma Confined.append {allowed : List String} {trace : List Event} (h : Confined allowed trace) {e : Event}
    (he : e.ConfinedTo allowed trace) : Confined allowed (trace ++ [e]) := by
  intro before e' after heq
  rcases List.eq_nil_or_concat' after with rfl | ⟨rest, last, rfl⟩
  · obtain ⟨rfl, hl⟩ := List.append_inj' heq rfl
    cases hl
    exact he
  · rw [← List.cons_append, ← List.append_assoc] at heq
    exact h before e' rest (List.append_inj' heq rfl).1

lemma Confined.append_logged {allowed : List String} {trace : List Event} (h : Confined allowed trace)
    (lines : List Log.Line) : Confined allowed (trace ++ lines.map Event.logged) := by
  induction lines generalizing trace with
  | nil => simpa using h
  | cons line rest ih =>
    rw [List.map_cons, ← List.singleton_append, ← List.append_assoc]
    exact ih (h.append trivial)

namespace Session

/-- What every move preserves: besides the statement itself, that credentials that are held were learned. -/
structure Guarded (allowed : List String) (s : Session) : Prop where
  setup : s.cache.setup.allowed = allowed
  trace : Confined allowed s.trace
  known : ∀ ns c, s.cache.known.get? ns = some c → ns ∈ allowed ∧ .changed (.learned ns c) ∈ s.trace
  records : ∀ uid record, s.cache.records.get? uid = some record → record.ns ∈ allowed

section
variable {allowed : List String} {s t : Session}

lemma Guarded.within (h : Guarded allowed s) : s.cache.Within allowed := by
  refine ⟨fun ns hns => ?_, h.records⟩
  obtain ⟨c, hc⟩ := Option.isSome_iff_exists.1 ((Ledger.mem_keys_iff _ _).1 hns)
  exact (h.known ns c hc).1

lemma Guarded.note (h : Guarded allowed s) {e : Event} (he : e.ConfinedTo allowed s.trace) :
    Guarded allowed (s.note e) where
  setup := h.setup
  trace := h.trace.append he
  known ns c hc := ⟨(h.known ns c hc).1, List.mem_append_left _ (h.known ns c hc).2⟩
  records := h.records

lemma Guarded.change (h : Guarded allowed s) {change : Change}
    (he : (Event.changed change).ConfinedTo allowed s.trace) : Guarded allowed (s.change change) where
  setup := by rw [change_cache, Cache.apply_setup, h.setup]
  trace := h.trace.append he
  known ns c hc := by
    have old (hc : s.cache.known.get? ns = some c) :
        ns ∈ allowed ∧ Event.changed (.learned ns c) ∈ s.trace ++ [.changed change] :=
      ⟨(h.known ns c hc).1, List.mem_append_left _ (h.known ns c hc).2⟩
    cases change with
    | learned n c' =>
      simp only [change_cache, Cache.apply, Ledger.get?_insert] at hc
      split at hc
      · next hn =>
        cases hc
        subst hn
        exact ⟨he.1, by simp⟩
      · exact old hc
    | forgot n =>
      simp only [change_cache, Cache.apply, Ledger.get?_erase] at hc
      split at hc
      · cases hc
      · exact old hc
    | forgotAll => simp [Cache.apply] at hc
    | _ => exact old hc
  records uid record hr := by
    cases change with
    | stored u r =>
      simp only [change_cache, Cache.apply, Ledger.get?_insert] at hr
      split at hr
      · cases hr
        exact he
      · exact h.records uid record hr
    | refreshed u r =>
      simp only [change_cache, Cache.apply, Ledger.get?_insert] at hr
      split at hr
      · cases hr
        exact he
      · exact h.records uid record hr
    | removed u =>
      simp only [change_cache, Cache.apply, Ledger.get?_erase] at hr
      split at hr
      · cases hr
      · exact h.records uid record hr
    | cleared => simp [Cache.apply] at hr
    | _ => exact h.records uid record hr

lemma Guarded.launch (h : Guarded allowed s) {ns : String} {c : Credentials} (held : s.cache.known.get? ns = some c)
    (pool : String) : Guarded allowed (s.launch pool (Command.status s.cache.setup.command pool c)) :=
  Guarded.note (s := { s with world := (s.world.takeOutcome pool).2 }) ⟨h.setup, h.trace, h.known, h.records⟩
    ⟨ns, (h.known ns c held).1, _, pool, c, (h.known ns c held).2, rfl⟩

/-- Every move keeps to the allowed namespaces. -/
lemma Evolves.guarded (h : Evolves s t) : Guarded allowed s → Guarded allowed t := by
  induction h with
  | refl s => exact id
  | trans _ _ ih ih' => exact ih' ∘ ih
  | surroundings s world => exact fun h => ⟨h.setup, h.trace, h.known, h.records⟩
  | lock s locked _ => exact fun h => ⟨h.setup, h.trace, h.known, h.records⟩
  | logged s line => exact fun h => h.note trivial
  | asked s permitted readable => exact fun h => h.note ⟨_, h.setup ▸ permitted, readable⟩
  | @learned s ns c permitted _ _ _ =>
    intro h
    have hns : ns ∈ allowed := h.setup ▸ permitted
    have secret : Guarded allowed (s.note (.asked (.secretOf ns))) := h.note ⟨ns, hns, .inl rfl⟩
    have both : Guarded allowed ((s.note (.asked (.secretOf ns))).note (.asked (.configOf ns))) :=
      secret.note ⟨ns, hns, .inr rfl⟩
    exact both.change ⟨hns, s.trace, by simp⟩
  | @dropped s change hd =>
    intro h
    refine h.change ?_
    cases change with
    | learned ns c => cases hd
    | stored uid record => cases hd
    | refreshed uid record => cases hd
    | _ => trivial
  | @command s t ns pool c held _ ending replies ih =>
    exact fun h => (ih (h.launch held pool)).note trivial
  | @committed s t ns pool c output status uid held _ replies _ change written ih =>
    intro h
    have ended : Guarded allowed (t.note (.ended (.finished output) replies)) :=
      (ih (h.launch held pool)).note trivial
    have hns := (h.known ns c held).1
    refine ended.change ?_
    cases change with
    | stored u r =>
      cases written
      exact hns
    | refreshed u r =>
      cases written
      exact hns
    | _ => cases written

theorem Reachable.guarded {setup : Setup} (h : Reachable setup [] s) : Guarded setup.allowed s := by
  refine Reachable.invariant (fun world => ?_) (fun s t hm hs => hm.guarded hs) ?_ h
  · exact ⟨rfl, confined_nil _, by simp [Cache.new], by simp [Cache.new]⟩
  · exact fun s ns pool c held hs => hs.launch held pool

lemma Guarded.append_logged (h : Guarded allowed s) (lines : List Log.Line) :
    Guarded allowed { s with trace := s.trace ++ lines.map Event.logged } where
  setup := h.setup
  trace := h.trace.append_logged lines
  known ns c hc := ⟨(h.known ns c hc).1, List.mem_append_left _ (h.known ns c hc).2⟩
  records := h.records

end

/-! ## Refusals -/

section
variable {s : Session} {m : Meanwhile}

lemma permit_of_not_allowed {setup : Setup} {ns : Json} (h : ∀ n ∈ setup.allowed, ns ≠ .ofString n) :
    ∃ e, setup.permit ns = .error e := by
  cases hp : setup.permit ns with
  | ok n =>
    obtain ⟨hns, hn⟩ := Setup.permit_eq_ok_iff.1 hp
    exact absurd hns (h n hn)
  | error e => exact ⟨e, rfl⟩

lemma resolve_of_not_allowed {ns : Json} (h : ∀ n ∈ s.cache.setup.allowed, ns ≠ .ofString n) (refresh : Bool) :
    (s.resolve ns refresh).2 = s := by
  obtain ⟨e, he⟩ := permit_of_not_allowed h
  simp [resolve, he]

lemma add_of_not_allowed {obj : Json}
    (h : ∀ pool, BlockPool.ofJson obj = .ok pool → ∀ n ∈ s.cache.setup.allowed, pool.ns ≠ .ofString n) :
    ∃ lines : List Log.Line, (s.add m obj).2 = { s with trace := s.trace ++ lines.map Event.logged } := by
  have unchanged : s = { s with trace := s.trace ++ ([] : List Log.Line).map Event.logged } := by simp
  simp only [add]
  split
  · exact ⟨[], unchanged⟩
  · next pool hpool =>
    obtain ⟨e, he⟩ := permit_of_not_allowed (h pool hpool)
    split
    · simp only [fetchRecord, he]
      exact ⟨[], unchanged⟩
    · unfold log
      split
      · exact ⟨[_], rfl⟩
      · exact ⟨[], unchanged⟩

end

end Session

/-! ## Operators -/

lemma Settings.allowed_of_read {env : List (String × String)} {settings : Settings}
    (h : Settings.read env = .ok settings) :
    settings.allowed = Settings.list ((env.lookup "RBD_MIRROR_ALLOWED_NAMESPACES").getD "openshift-storage") := by
  simp only [Settings.read, bind, Except.bind] at h
  split at h
  · cases h
  · split at h
    · cases h
    · cases h
      rfl

namespace Operator

section
variable {settings : Settings} {o : Operator}

lemma log_trace (o : Operator) (lines : List Log.Line) :
    (o.log lines).trace = o.trace ++ lines.map Event.logged := rfl

/-- Starting writes log lines and leaves the cache or replaces it by a new one. -/
lemma start_cases (o : Operator) :
    ∃ lines : List Log.Line, o.start.2.trace = o.trace ++ lines.map Event.logged ∧
      o.start.2.settings = o.settings ∧
      (o.start.2.cache = o.cache ∨ o.start.2.cache = some (Cache.new o.setup)) := by
  simp only [start, Cache.build]
  cases (CephConfig.ensure o.tree o.settings.configRoot).result with
  | error e =>
    simp only [Except.map]
    split
    · exact ⟨_, rfl, rfl, .inl rfl⟩
    · exact ⟨_, rfl, rfl, .inl rfl⟩
    · next h => cases h
  | ok done =>
    simp only [Except.map, log_trace, List.append_assoc, ← List.map_append]
    exact ⟨_, rfl, rfl, .inr rfl⟩

/-- Stopping writes log lines. -/
lemma stop_cases (o : Operator) :
    ∃ lines : List Log.Line, o.stop.trace = o.trace ++ lines.map Event.logged ∧
      o.stop.settings = o.settings ∧ o.stop.cache = o.cache := by
  have unchanged : o.trace = o.trace ++ ([] : List Log.Line).map Event.logged := by simp
  simp only [stop]
  split
  · split
    · exact ⟨_, rfl, rfl, rfl⟩
    · exact ⟨[], unchanged, rfl, rfl⟩
  · exact ⟨[], unchanged, rfl, rfl⟩

/-- With a cache, a step is one of its session. -/
lemma step_of_cache {cache : Cache} (h : o.cache = some cache) (step : Step) :
    o.step step = (((o.session cache).step step).1, o.withSession ((o.session cache).step step).2) := by
  simp only [Operator.step, h]
  rfl

lemma step_of_none (h : o.cache = none) (step : Step) :
    (o.step step).2.trace = o.trace ∧ (o.step step).2.settings = o.settings ∧ (o.step step).2.cache = none := by
  simp only [Operator.step, h]
  split <;> simp [h]

/-- What every order preserves. -/
structure Guarded (settings : Settings) (o : Operator) : Prop where
  settings_eq : o.settings = settings
  trace : Confined settings.allowed o.trace
  session : ∀ cache, o.cache = some cache → (o.session cache).Guarded settings.allowed

lemma Guarded.withSession (h : Guarded settings o) {s : Session} (hs : s.Guarded settings.allowed) :
    Guarded settings (o.withSession s) where
  settings_eq := h.settings_eq
  trace := hs.trace
  session cache hc := by
    cases hc
    exact hs

/-- Log lines leave a session as it was. -/
lemma Guarded.logged (h : Guarded settings o) {o' : Operator} {lines : List Log.Line}
    (htrace : o'.trace = o.trace ++ lines.map Event.logged) {cache : Cache} (hc : o.cache = some cache) :
    (o'.session cache).Guarded settings.allowed := by
  have hs := (h.session cache hc).append_logged lines
  refine ⟨hs.setup, ?_, fun ns c hk => ⟨(hs.known ns c hk).1, ?_⟩, hs.records⟩
  · change Confined settings.allowed o'.trace
    rw [htrace]
    exact hs.trace
  · change _ ∈ o'.trace
    rw [htrace]
    exact (hs.known ns c hk).2

lemma Guarded.start (h : Guarded settings o) : Guarded settings o.start.2 := by
  obtain ⟨lines, htrace, hsettings, hcache⟩ := o.start_cases
  have trace : Confined settings.allowed o.start.2.trace := htrace ▸ h.trace.append_logged lines
  refine ⟨hsettings.trans h.settings_eq, trace, fun cache hc => ?_⟩
  rcases hcache with hcache | hcache
  · exact h.logged htrace (hcache ▸ hc)
  · cases hcache.symm.trans hc
    exact ⟨congrArg Settings.allowed h.settings_eq, trace, by simp [Operator.session, Cache.new],
      by simp [Operator.session, Cache.new]⟩

lemma Guarded.stop (h : Guarded settings o) : Guarded settings o.stop := by
  obtain ⟨lines, htrace, hsettings, hcache⟩ := o.stop_cases
  have trace : Confined settings.allowed o.stop.trace := htrace ▸ h.trace.append_logged lines
  exact ⟨hsettings.trans h.settings_eq, trace, fun cache hc => h.logged htrace (hcache ▸ hc)⟩

lemma Guarded.step (h : Guarded settings o) (step : Step) : Guarded settings (o.step step).2 := by
  cases hc : o.cache with
  | none =>
    obtain ⟨htrace, hsettings, hnone⟩ := step_of_none hc step
    exact ⟨hsettings.trans h.settings_eq, htrace ▸ h.trace, fun cache hcache => by cases hnone.symm.trans hcache⟩
  | some cache =>
    rw [step_of_cache hc]
    exact h.withSession ((Session.evolves_attempt (Session.evolves_nested _) _ step).guarded (h.session cache hc))

theorem Reachable.guarded (h : Reachable settings o) : Guarded settings o := by
  induction h with
  | new logging world tree => exact ⟨rfl, confined_nil _, by simp [Operator.new]⟩
  | obeyed _ order ih =>
    cases order with
    | start present =>
      rw [obey_start_snd]
      split
      · exact ih.start
      · exact ih
    | stop => exact ih.stop
    | take step => exact ih.step step
  | @took o cache _ there depth step ih =>
    exact ih.withSession
      ((Session.evolves_attempt (Session.evolves_nested depth) _ step).guarded (ih.session cache there))
  | @within o cache step t _ there _ depth begins ih =>
    obtain ⟨u, n, p, c, hu, held, rfl⟩ := begins.launches (Session.evolves_nested depth)
    exact ih.withSession ((hu.guarded (ih.session cache there)).launch held p)

end
end Operator

/-! ## Whole runs -/

/-- Operators keep to the namespaces that their environment allows and sessions to those that they are set up with,
and steps for other namespaces at most write log lines. -/
theorem confined_to_allowed_namespaces :
    (∀ (env : List (String × String)) (settings : Settings) (o : Operator), Settings.read env = .ok settings →
      Operator.Reachable settings o →
        let allowed := Settings.list ((env.lookup "RBD_MIRROR_ALLOWED_NAMESPACES").getD "openshift-storage")
        Confined allowed o.trace ∧ ∀ cache, o.cache = some cache → cache.Within allowed) ∧
    (∀ (setup : Setup) (s : Session), Session.Reachable setup [] s →
      Confined setup.allowed s.trace ∧ s.cache.Within setup.allowed) ∧
    (∀ (s : Session) (m : Meanwhile) (ns : Json) (refresh : Bool),
      (∀ n ∈ s.cache.setup.allowed, ns ≠ .ofString n) → (s.attempt m (.resolve ns refresh)).2 = s) ∧
    ∀ (s : Session) (m : Meanwhile) (obj : Json) (step : Step), step = .add obj ∨ step = .update obj →
      (∀ pool, BlockPool.ofJson obj = .ok pool → ∀ n ∈ s.cache.setup.allowed, pool.ns ≠ .ofString n) →
        ∃ lines : List Log.Line, (s.attempt m step).2 = { s with trace := s.trace ++ lines.map Event.logged } := by
  refine ⟨?_, ?_, ?_, ?_⟩
  · intro env settings o hread reachable
    have guarded := reachable.guarded
    have allowed := Settings.allowed_of_read hread
    rw [← allowed]
    exact ⟨guarded.trace, fun cache hc => (guarded.session cache hc).within⟩
  · intro setup s reachable
    exact ⟨reachable.guarded.trace, reachable.guarded.within⟩
  · intro s m ns refresh hns
    simp only [Session.attempt]
    split
    · rfl
    · simpa [Session.perform] using Session.resolve_of_not_allowed hns refresh
  · intro s m obj step hstep hobj
    simp only [Session.attempt]
    split
    · exact ⟨[], by simp⟩
    · rcases hstep with rfl | rfl
      · simpa [Session.perform] using Session.add_of_not_allowed hobj
      · simpa [Session.perform] using Session.add_of_not_allowed hobj

/-- The operator takes an event about a pool of an allowed namespace and one of another namespace. -/
def Sample.collecting : Operator :=
  Sample.operate "a2V5" [⟨.finished (Sample.document "OK"), []⟩]
    [.start fun _ => true, .take (.add (Sample.pool "u1" "pool1" "ns1")),
      .take (.add (Sample.pool "u2" "pool1" "ns3"))]

lemma Sample.collecting_reachable : Operator.Reachable Sample.settings Sample.collecting :=
  Sample.operate_reachable _ _ _

theorem collecting_confined :
    Confined ["ns1", "ns2"] Sample.collecting.trace ∧
      (∃ cache, Sample.collecting.cache = some cache ∧ cache.records.keys = ["u1"] ∧ cache.Within ["ns1", "ns2"]) ∧
      ((Sample.run "a2V5" true [] []).attempt (Session.nested 1) (.resolve (.ofString "ns3") true)).2 =
        Sample.run "a2V5" true [] [] ∧
      ∃ lines : List Log.Line,
        ((Sample.run "a2V5" true [] []).attempt (Session.nested 1) (.add (Sample.pool "u2" "pool1" "ns3"))).2 =
          { Sample.run "a2V5" true [] [] with
            trace := (Sample.run "a2V5" true [] []).trace ++ lines.map Event.logged } := by
  obtain ⟨operators, -, resolving, adding⟩ := confined_to_allowed_namespaces
  have other (n : String) (hn : n ∈ ["ns1"]) : Json.ofString "ns3" ≠ .ofString n := by
    intro h
    cases List.mem_singleton.1 hn
    exact absurd (Json.string.inj h) (by decide)
  have allowed : Settings.list ((Sample.environment.lookup "RBD_MIRROR_ALLOWED_NAMESPACES").getD
      "openshift-storage") = ["ns1", "ns2"] := by decide +kernel
  obtain ⟨confined, within⟩ := operators _ _ _ Sample.settings_read Sample.collecting_reachable
  rw [allowed] at confined within
  refine ⟨confined, ?_, resolving _ _ _ _ other, adding _ _ _ _ (.inl rfl) ?_⟩
  · have kept : (Sample.collecting.cache.map fun cache => cache.records.keys) = some ["u1"] := by
      simp only [Sample.collecting, Sample.operate, Operator.obeyAll, Operator.obey, Operator.connectAndStart_eq,
        Operator.start, Operator.new, Cache.build, Sample.settings, Sample.ensure_root]
      decide +kernel
    obtain ⟨cache, hcache, hkeys⟩ := Option.map_eq_some_iff.1 kept
    exact ⟨cache, hcache, hkeys, within cache hcache⟩
  · intro pool hpool
    have described : (BlockPool.ofJson (Sample.pool "u2" "pool1" "ns3")).toOption.map (·.ns) =
        some (.ofString "ns3") := rfl
    rw [hpool] at described
    have hns : pool.ns = .ofString "ns3" := Option.some.inj described
    rw [hns]
    exact other

end ReplicaWatch
