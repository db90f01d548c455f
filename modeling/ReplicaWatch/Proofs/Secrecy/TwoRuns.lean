import Mathlib
import ReplicaWatch.Proofs.Secrecy.Sessions

/-! Two runs that differ in nothing but the keys of secrets. Main statement: their logs, the requests they make, the
records they store, and all that they answer but the keys that are asked for are the same, and their commands differ
in the key alone. -/
namespace ReplicaWatch

/-! ## Operators -/
namespace Operator

/-- The same order, of which a step may set up other keys. -/
inductive Order.Alike : Order → Order → Prop
  | start (present) : Alike (.start present) (.start present)
  | stop : Alike .stop .stop
  | take {step step'} (h : step.Alike step') : Alike (.take step) (.take step')

lemma Order.Alike.refl (order : Order) : order.Alike order := by
  cases order with
  | start present => exact .start present
  | stop => exact .stop
  | take step => exact .take (.same step)

/-- The same operators but for the keys of secrets. -/
structure Alike (o p : Operator) : Prop where
  settings : o.settings = p.settings
  logging : o.logging = p.logging
  tree : o.tree = p.tree
  sweepers : o.sweepers = p.sweepers
  sweeping : o.sweeping = p.sweeping
  cache : Option.Rel Cache.Alike o.cache p.cache
  world : o.world.Alike p.world
  trace : List.Forall₂ Event.Alike o.trace p.trace

variable {o p : Operator}

lemma Alike.records (h : o.Alike p) : o.cache.map Cache.records = p.cache.map Cache.records := by
  have hc := h.cache
  generalize o.cache = c at hc ⊢
  generalize p.cache = d at hc ⊢
  cases hc with
  | none => rfl
  | some hc => exact congrArg some hc.records

lemma Alike.log (h : o.Alike p) (lines : List Log.Line) : (o.log lines).Alike (p.log lines) := by
  have logged : List.Forall₂ Event.Alike (lines.map Event.logged) (lines.map Event.logged) := by
    rw [List.forall₂_map_left_iff, List.forall₂_map_right_iff]
    exact List.forall₂_same.2 fun line _ => .logged line
  exact ⟨h.settings, h.logging, h.tree, h.sweepers, h.sweeping, h.cache, h.world, List.rel_append h.trace logged⟩

lemma Alike.withCache (h : o.Alike p) {c d : Cache} (hc : c.Alike d) (sweepers : List Sweeper) :
    Alike { o with cache := some c, sweepers := sweepers, sweeping := true }
      { p with cache := some d, sweepers := sweepers, sweeping := true } :=
  ⟨h.settings, h.logging, h.tree, rfl, rfl, .some hc, h.world, h.trace⟩

/-- Orders that two operators obey end alike. -/
def ReplyAlike (r r' : Reply × Operator) : Prop := r.1.Alike r'.1 ∧ r.2.Alike r'.2

lemma Alike.start (h : o.Alike p) : o.start.1 = p.start.1 ∧ o.start.2.Alike p.start.2 := by
  obtain ⟨settings, logging, world, tree, cache, sweepers, sweeping, trace⟩ := o
  obtain ⟨settings', logging', world', tree', cache', sweepers', sweeping', trace'⟩ := p
  obtain ⟨rfl, rfl, rfl, rfl, rfl, hcache, hworld, htrace⟩ := h
  have ensured (tree : Files.Tree) : Alike ⟨settings, logging, world, tree, cache, sweepers, sweeping, trace⟩
      ⟨settings, logging, world', tree, cache', sweepers, sweeping, trace'⟩ :=
    ⟨rfl, rfl, rfl, rfl, rfl, hcache, hworld, htrace⟩
  simp only [Operator.start, Cache.build]
  cases (CephConfig.ensure tree settings.configRoot).result with
  | error e =>
    simp only [Except.map]
    split
    · exact ⟨rfl, (ensured _).log _⟩
    · exact ⟨rfl, (ensured _).log _⟩
    · next h => cases h
  | ok path =>
    exact ⟨rfl, ((((ensured _).log _).log _).withCache ⟨rfl, Ledger.alike_empty, rfl, rfl⟩ _).log _⟩

lemma Alike.stop (h : o.Alike p) : o.stop.Alike p.stop := by
  obtain ⟨settings, logging, world, tree, cache, sweepers, sweeping, trace⟩ := o
  obtain ⟨settings', logging', world', tree', cache', sweepers', sweeping', trace'⟩ := p
  obtain ⟨rfl, rfl, rfl, rfl, rfl, hcache, hworld, htrace⟩ := h
  have same (sweepers : List Sweeper) (sweeping : Bool) :
      Alike ⟨settings, logging, world, tree, cache, sweepers, sweeping, trace⟩
        ⟨settings, logging, world', tree, cache', sweepers, sweeping, trace'⟩ :=
    ⟨rfl, rfl, rfl, rfl, rfl, hcache, hworld, htrace⟩
  simp only [Operator.stop]
  split
  · split
    · exact (same _ _).log _
    · exact same _ _
  · exact same _ _

lemma Alike.step (h : o.Alike p) {step step' : Step} (hstep : step.Alike step') :
    ReplyAlike (o.step step) (p.step step') := by
  obtain ⟨settings, logging, world, tree, cache, sweepers, sweeping, trace⟩ := o
  obtain ⟨settings', logging', world', tree', cache', sweepers', sweeping', trace'⟩ := p
  obtain ⟨rfl, rfl, rfl, rfl, rfl, hcache, hworld, htrace⟩ := h
  have surroundings {w w' : World} (hw : w.Alike w') :
      Alike ⟨settings, logging, w, tree, none, sweepers, sweeping, trace⟩
        ⟨settings, logging, w', tree, none, sweepers, sweeping, trace'⟩ :=
    ⟨rfl, rfl, rfl, rfl, rfl, .none, hw, htrace⟩
  cases hcache with
  | some hc =>
    have session : Session.Alike ⟨_, world, trace⟩ ⟨_, world', trace'⟩ := ⟨hc, hworld, htrace⟩
    obtain ⟨hreply, hafter⟩ := session.step hstep
    exact ⟨hreply, rfl, rfl, rfl, rfl, rfl, .some hafter.cache, hafter.world, hafter.trace⟩
  | none =>
    cases hstep with
    | setObject hr => exact ⟨.same _, surroundings (hworld.setObject hr)⟩
    | setEndings pool ho => exact ⟨.same _, surroundings (hworld.setOutcomes pool ho)⟩
    | same =>
      cases step with
      | setObject name r => exact ⟨.same _, surroundings (hworld.setObject (.same r))⟩
      | removeObject name => exact ⟨.same _, surroundings (hworld.removeObject name)⟩
      | setEndings pool outcomes =>
        exact ⟨.same _, surroundings (hworld.setOutcomes pool (List.forall₂_same.2 fun o _ => .refl o))⟩
      | _ => exact ⟨.same _, surroundings hworld⟩

lemma Alike.obey (h : o.Alike p) {order order' : Order} (ho : order.Alike order') :
    ReplyAlike (o.obey order) (p.obey order') := by
  cases ho with
  | start present =>
    obtain ⟨hresult, hafter⟩ := h.start
    simp only [Operator.obey, connectAndStart_eq]
    cases present .inCluster || present .userFile
    case false => exact ⟨.same _, h⟩
    generalize o.start = r at hresult hafter ⊢
    generalize p.start = r' at hresult hafter ⊢
    obtain ⟨result, after⟩ := r
    obtain ⟨result', after'⟩ := r'
    obtain rfl : result = result' := hresult
    cases result with
    | ok => exact ⟨.same _, hafter⟩
    | error e => exact ⟨.same _, hafter⟩
  | stop => exact ⟨.same _, h.stop⟩
  | take hstep => exact h.step hstep

lemma Alike.obeyAll {orders orders' : List Order} (ho : List.Forall₂ Order.Alike orders orders') (h : o.Alike p) :
    List.Forall₂ Reply.Alike (o.obeyAll orders).1 (p.obeyAll orders').1 ∧
      (o.obeyAll orders).2.Alike (p.obeyAll orders').2 := by
  induction ho generalizing o p with
  | nil => exact ⟨.nil, h⟩
  | cons horder _ ih =>
    obtain ⟨hreply, hafter⟩ := h.obey horder
    obtain ⟨hreplies, hend⟩ := ih hafter
    exact ⟨.cons hreply hreplies, hend⟩

end Operator
/-! ## Whole runs -/
/-- Traces that are alike event by event. Their log lines and requests are the same, and their commands differ at most
in the argument after the option for the key. -/
structure SameButKeys (trace trace' : List Event) : Prop where
  events : List.Forall₂ Event.Alike trace trace'
  lines : trace.filterMap Event.line? = trace'.filterMap Event.line?
  requests : trace.filterMap Event.request? = trace'.filterMap Event.request?
  commands : List.Forall₂ Command.Alike (trace.filterMap Event.command?) (trace'.filterMap Event.command?)

lemma sameButKeys_of_alike {trace trace' : List Event} (h : List.Forall₂ Event.Alike trace trace') :
    SameButKeys trace trace' := by
  refine ⟨h, ?_, ?_, ?_⟩
  · induction h with
    | nil => rfl
    | cons he _ ih =>
      simp only [List.filterMap_cons, ih]
      cases he <;> rfl
  · induction h with
    | nil => rfl
    | cons he _ ih =>
      simp only [List.filterMap_cons, ih]
      cases he <;> rfl
  · induction h with
    | nil => exact .nil
    | cons he _ ih =>
      simp only [List.filterMap_cons]
      cases he with
      | started ha => exact .cons ha ih
      | _ => exact ih

/-- Runs of the same steps in worlds that differ only in the keys that secrets hold differ only in the keys of their
commands, of the credentials that they hold and of the credentials that are asked for. Their logs, their requests,
their stores and everything else that they answer are the same. -/
theorem keys_stay_secret :
    (∀ (setup : Setup) (w w' : World) (steps steps' : List Step), w.Alike w' →
      List.Forall₂ Step.Alike steps steps' →
        let run := (Session.mk (Cache.new setup) w []).takeAll steps
        let run' := (Session.mk (Cache.new setup) w' []).takeAll steps'
        SameButKeys run.2.trace run'.2.trace ∧ List.Forall₂ Reply.Alike run.1 run'.1 ∧
          run.2.cache.records = run'.2.cache.records) ∧
    ∀ (settings : Settings) (logging : Bool) (tree : Files.Tree) (w w' : World)
      (orders orders' : List Operator.Order), w.Alike w' → List.Forall₂ Operator.Order.Alike orders orders' →
        let run := (Operator.new settings logging w tree).obeyAll orders
        let run' := (Operator.new settings logging w' tree).obeyAll orders'
        SameButKeys run.2.trace run'.2.trace ∧ List.Forall₂ Reply.Alike run.1 run'.1 ∧
          run.2.cache.map Cache.records = run'.2.cache.map Cache.records := by
  refine ⟨fun setup w w' steps steps' hw hsteps => ?_, fun settings logging tree w w' orders orders' hw horders => ?_⟩
  · have start : (Session.mk (Cache.new setup) w []).Alike ⟨Cache.new setup, w', []⟩ :=
      ⟨⟨rfl, Ledger.alike_empty, rfl, rfl⟩, hw, .nil⟩
    obtain ⟨hreplies, hend⟩ := start.takeAll hsteps
    exact ⟨sameButKeys_of_alike hend.trace, hreplies, hend.cache.records⟩
  · have start : (Operator.new settings logging w tree).Alike (Operator.new settings logging w' tree) :=
      ⟨rfl, rfl, rfl, rfl, rfl, .none, hw, .nil⟩
    obtain ⟨hreplies, hend⟩ := start.obeyAll horders
    exact ⟨sameButKeys_of_alike hend.trace, hreplies, hend.records⟩

/-- A command fails, and while the next one runs, the secret gets another key, which is asked for at once. -/
def Sample.outcomes (key : String) : List Outcome :=
  [⟨.exited 1 (Sample.document "ERROR"), []⟩,
    ⟨.finished (Sample.document "OK"), [.setObject ⟨.secret, "ns1", Credentials.secretName⟩ (Sample.secret key),
      .resolve (.ofString "ns1") true]⟩]

def Sample.steps : List Step :=
  [.add (Sample.pool "u1" "pool1" "ns1"), .add (Sample.pool "u1" "pool1" "ns1"), .resync]

def Sample.rekeyed (key key' : String) : List Reply × Session :=
  (Session.mk (Cache.new (Sample.setup false)) (Sample.world key (Sample.outcomes key')) []).takeAll Sample.steps

lemma Sample.secret_alike (k k' : String) {key key' : String}
    (read : (Credentials.keyOf "ns1" (Sample.secret key)).toOption = some k)
    (read' : (Credentials.keyOf "ns1" (Sample.secret key')).toOption = some k') (h : k ≠ Command.keyOption)
    (h' : k' ≠ Command.keyOption) :
    (Sample.secret key).Alike ⟨.secret, "ns1", Credentials.secretName⟩ (Sample.secret key') :=
  .keys rfl (Sample.eq_ok_of_toOption read) (Sample.eq_ok_of_toOption read') h h'

lemma Sample.world_alike {first first' next next' : String}
    (h : (Sample.secret first).Alike ⟨.secret, "ns1", Credentials.secretName⟩ (Sample.secret first'))
    (hn : (Sample.secret next).Alike ⟨.secret, "ns1", Credentials.secretName⟩ (Sample.secret next')) :
    (Sample.world first (Sample.outcomes next)).Alike (Sample.world first' (Sample.outcomes next')) := by
  have empty : World.empty.Alike World.empty := ⟨Ledger.alike_empty, Ledger.alike_empty⟩
  have outcomes : List.Forall₂ Outcome.Alike (Sample.outcomes next) (Sample.outcomes next') :=
    .cons (.refl _) (.cons (.mk _ (.cons (.setObject hn) (.cons (.same _) .nil))) .nil)
  unfold Sample.world
  exact ((empty.setObject h).setObject (.same _)).setOutcomes _ outcomes

theorem rekeyed_keys_stay_secret :
    ((Sample.rekeyed "a2V5" "bmV3").2.trace.filterMap Event.command?).map (fun args => args[13]?) =
        [some "key", some "key", some "new"] ∧
      ((Sample.rekeyed "b25l" "dHdv").2.trace.filterMap Event.command?).map (fun args => args[13]?) =
        [some "one", some "one", some "two"] ∧
      SameButKeys (Sample.rekeyed "a2V5" "bmV3").2.trace (Sample.rekeyed "b25l" "dHdv").2.trace ∧
      SameButKeys
        ((Operator.new Sample.settings true (Sample.world "a2V5" (Sample.outcomes "bmV3")) .empty).obeyAll
          ((.start fun _ => true) :: Sample.steps.map .take)).2.trace
        ((Operator.new Sample.settings true (Sample.world "b25l" (Sample.outcomes "dHdv")) .empty).obeyAll
          ((.start fun _ => true) :: Sample.steps.map .take)).2.trace := by
  have first : (Sample.secret "a2V5").Alike ⟨.secret, "ns1", Credentials.secretName⟩ (Sample.secret "b25l") :=
    Sample.secret_alike "key" "one" (by decide +kernel) (by decide +kernel) (by decide) (by decide)
  have next : (Sample.secret "bmV3").Alike ⟨.secret, "ns1", Credentials.secretName⟩ (Sample.secret "dHdv") :=
    Sample.secret_alike "new" "two" (by decide +kernel) (by decide +kernel) (by decide) (by decide)
  have worlds := Sample.world_alike first next
  obtain ⟨sessions, operators⟩ := keys_stay_secret
  refine ⟨by decide +kernel, by decide +kernel, ?_, ?_⟩
  · exact (sessions _ _ _ _ _ worlds (List.forall₂_same.2 fun step _ => .same step)).1
  · exact (operators _ _ _ _ _ _ _ worlds (List.forall₂_same.2 fun order _ => .refl order)).1

end ReplicaWatch
