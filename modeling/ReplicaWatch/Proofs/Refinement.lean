import Mathlib
import ReplicaWatch.Proofs.Agreement
import ReplicaWatch.Proofs.Confinement

/-! The operator and a cache alone. Once it has started, an operator follows a cache that is given the calls that
its events come down to: their stores, their credentials and their calls stay the same, and only log lines tell them
apart. Main statement: this holds for all events, sweeps and stops that come after a start, and before a start has
succeeded nothing happens. -/
namespace ReplicaWatch

/-- The reply to an event, given the reply to the call that it comes down to: where the cache failed, the event is to
come again. -/
def Reply.answered : Reply → Reply
  | failure (.cache e) => failure (.retry e.message (some e) 30)
  | failure e => failure e
  | answer a => answer a
  | blocked => blocked

/-- What is stored, without the stamps of records. -/
def Cache.contents (c : Cache) : List (String × String × String × Status.Pool) :=
  c.records.entries.map fun e => (e.1, e.2.pool, e.2.ns, e.2.status)

namespace Session

lemma Agrees.contents {s t : Session} (h : s.Agrees t) : s.cache.contents = t.cache.contents := by
  have entries := h.records
  unfold Ledger.Alike at entries
  unfold Cache.contents
  generalize s.cache.records.entries = es at entries ⊢
  generalize t.cache.records.entries = fs at entries ⊢
  induction entries with
  | nil => rfl
  | cons he _ ih => rw [List.map_cons, List.map_cons, he.1, he.2.pool, he.2.ns, he.2.status, ih]

/-- The call that an event of a type comes down to. -/
def callFor (type obj : Json) : Step := if isDeletion type then .delete obj else .add obj

section
variable {s t : Session}

lemma EndAgrees.answered {r r' : Except Failure Unit × Session} (h : EndAgrees Equal r r') (ns name : String) :
    (Reply.ofResult (fun _ => .done) (answerEvent ns name r)).1 = (Reply.ofResult (fun _ => .done) r').1.answered ∧
      (answerEvent ns name r).2.Agrees r'.2 := by
  cases h with
  | ok _ hs => exact ⟨rfl, hs⟩
  | error e hs =>
    cases e with
    | cache e => exact ⟨rfl, hs.noteLeft _⟩
    | _ => exact ⟨rfl, hs⟩

lemma step_of_needs (s : Session) {step : Step} (needs : step.isLockFree = false) :
    s.step step =
      if s.cache.locked then (.blocked, s) else s.perform (nested (s.world.size + step.size + 1)) step := by
  simp [Session.step, Session.attempt, needs]

/-- An event does what the call does that it comes down to. -/
lemma Agrees.event (h : s.Agrees t) {members : List (Text × Json)} {type : Json}
    (typed : (Json.object members).member? "type" = some type) (obj : Json) (ns name : String) :
    (s.step (.event (.object members) obj ns name)).1 = (t.step (callFor type obj)).1.answered ∧
      (s.step (.event (.object members) obj ns name)).2.Agrees (t.step (callFor type obj)).2 := by
  have needs : (callFor type obj).isLockFree = false ∧ (callFor type obj).size = 1 := by
    unfold callFor
    split <;> exact ⟨rfl, rfl⟩
  have hm := keepsAgreement_nested (t.world.size + 1 + 1)
  rw [step_of_needs s rfl, step_of_needs t needs.1, needs.2, h.locked, h.world]
  split
  · exact ⟨rfl, h⟩
  · simp only [Session.perform, Session.handle, typed, Reply.ofResult_snd]
    unfold callFor
    split
    · simpa [Session.perform] using (h.delete obj).answered ns name
    · simpa [Session.perform, Step.size] using (h.add hm obj).answered ns name

lemma Agrees.swept (h : s.Agrees t) :
    (s.step .resync).1 = (t.step .resync).1 ∧ (s.step .resync).2.Agrees (t.step .resync).2 := by
  have swept := h.resync (keepsAgreement_nested (t.world.size + 1 + 1))
  rw [step_of_needs s rfl, step_of_needs t rfl, h.locked, h.world]
  split
  · exact ⟨rfl, h⟩
  · exact ⟨swept.reply_eq _, by simpa [Session.perform, Step.size] using swept.agrees⟩

end
end Session

namespace Operator

/-- Orders that a running operator gets: events that carry a type, sweeps, and stopping. -/
inductive Order.Daily : Order → Prop
  | event {members : List (Text × Json)} {type : Json} (typed : (Json.object members).member? "type" = some type)
      (obj : Json) (ns name : String) : Daily (.take (.event (.object members) obj ns name))
  | sweep : Daily (.take .resync)
  | stop : Daily .stop

/-- The call of a cache that an order comes down to. -/
def Order.call? : Order → Option Step
  | .take (.event event obj _ _) => (event.member? "type").map fun type => Session.callFor type obj
  | .take .resync => some .resync
  | _ => none

/-- An operator follows a cache alone. -/
def Follows (o : Operator) (t : Session) : Prop := ∃ cache, o.cache = some cache ∧ (o.session cache).Agrees t

section
variable {o : Operator} {t : Session}

lemma stop_world (o : Operator) : o.stop.world = o.world := by
  simp only [stop]
  split
  · split <;> rfl
  · rfl

lemma calls_logged (lines : List Log.Line) : calls (lines.map Event.logged) = [] := by
  unfold calls
  rw [List.filterMap_map, List.filterMap_eq_nil_iff]
  exact fun _ _ => rfl

lemma Follows.stop (h : o.Follows t) : o.stop.Follows t := by
  obtain ⟨cache, hcache, agrees⟩ := h
  obtain ⟨lines, htrace, -, kept⟩ := o.stop_cases
  refine ⟨cache, kept.trans hcache, ?_⟩
  have logged := agrees.extend (lines.map Event.logged) [] (calls_logged lines)
  rw [List.append_nil] at logged
  have same : o.stop.session cache =
      { o.session cache with trace := (o.session cache).trace ++ lines.map Event.logged } := by
    simp only [session, stop_world, htrace]
  rw [same]
  exact logged

lemma Follows.event (h : o.Follows t) {members : List (Text × Json)} {type : Json}
    (typed : (Json.object members).member? "type" = some type) (obj : Json) (ns name : String) :
    (o.step (.event (.object members) obj ns name)).1 = (t.step (Session.callFor type obj)).1.answered ∧
      (o.step (.event (.object members) obj ns name)).2.Follows (t.step (Session.callFor type obj)).2 := by
  obtain ⟨cache, hcache, agrees⟩ := h
  obtain ⟨reply, after⟩ := agrees.event typed obj ns name
  rw [step_of_cache hcache]
  exact ⟨reply, _, rfl, after⟩

lemma Follows.swept (h : o.Follows t) :
    (o.step .resync).1 = (t.step .resync).1 ∧ (o.step .resync).2.Follows (t.step .resync).2 := by
  obtain ⟨cache, hcache, agrees⟩ := h
  obtain ⟨reply, after⟩ := agrees.swept
  rw [step_of_cache hcache]
  exact ⟨reply, _, rfl, after⟩

lemma Follows.obeyAll (h : o.Follows t) {orders : List Order} (daily : ∀ order ∈ orders, order.Daily) :
    (o.obeyAll orders).2.Follows (t.takeAll (orders.filterMap Order.call?)).2 := by
  induction orders generalizing o t with
  | nil => exact h
  | cons order rest ih =>
    have later := fun order' h' => daily order' (List.mem_cons_of_mem order h')
    cases daily order List.mem_cons_self with
    | @event members type typed obj ns name =>
      have call : Order.call? (.take (.event (.object members) obj ns name)) = some (Session.callFor type obj) := by
        simp [Order.call?, typed]
      rw [List.filterMap_cons_some call]
      exact ih (h.event typed obj ns name).2 later
    | sweep => exact ih h.swept.2 later
    | stop => exact ih h.stop later

/-! ## Starting -/

/-- An operator sets its cache up as its settings say. -/
lemma setup_eq (o : Operator) : o.setup =
    { allowed := o.settings.allowed, command := "rbd", timeout := o.settings.timeout.map .real
      serialize := o.settings.serialize, logging := o.logging } := rfl

/-- What a start writes to the log if all goes well. -/
def announcements (o : Operator) : List Log.Line :=
  (CephConfig.ensure o.tree o.settings.configRoot).logged.map (⟨.info, ·⟩) ++
    [collecting o.settings.allowed, Sweeper.greeting (.real o.settings.interval)]

/-- What there is once a start has succeeded, apart from the cache: behind the sweepers that were there, one that
runs and sweeps at the interval that is set. No call was made. -/
structure Starts (o after : Operator) : Prop where
  settings : after.settings = o.settings
  world : after.world = o.world
  tree : after.tree = (CephConfig.ensure o.tree o.settings.configRoot).tree
  sweeper : ∃ sweeper, after.sweepers = o.sweepers ++ [sweeper] ∧ sweeper.isRunning = true ∧
    sweeper.interval = .real o.settings.interval ∧ sweeper.logging = o.logging
  sweeping : after.sweeping = true
  trace : after.trace = o.trace ++ (if o.logging then o.announcements else []).map Event.logged
  silent : calls after.trace = calls o.trace

/-- What there still is after a start has failed. -/
structure Misses (o after : Operator) : Prop where
  cache : after.cache = o.cache
  sweepers : after.sweepers = o.sweepers
  sweeping : after.sweeping = o.sweeping
  silent : calls after.trace = calls o.trace

lemma start_of_made {path : String} (made : (CephConfig.ensure o.tree o.settings.configRoot).result = .ok path) :
    o.start = (.ok (), { o with
      tree := (CephConfig.ensure o.tree o.settings.configRoot).tree
      cache := some (Cache.new o.setup)
      sweepers := o.sweepers ++ [(Sweeper.new (.real o.settings.interval) o.logging).start.2]
      sweeping := true
      trace := o.trace ++ (if o.logging then o.announcements else []).map Event.logged }) := by
  obtain ⟨settings, logging, world, tree, cache, sweepers, sweeping, trace⟩ := o
  cases logging <;>
    simp [start, Cache.build, made, Except.map, announcements, Operator.log, Log.Line.when, Sweeper.start,
      Sweeper.new, Sweeper.isRunning, ← List.map_eq_flatMap]

lemma starts_of_made {path : String} (made : (CephConfig.ensure o.tree o.settings.configRoot).result = .ok path) :
    o.start.1 = .ok () ∧ o.start.2.cache = some (Cache.new o.setup) ∧ o.Starts o.start.2 := by
  rw [start_of_made made]
  refine ⟨rfl, rfl, rfl, rfl, rfl, ⟨_, rfl, rfl, rfl, rfl⟩, rfl, rfl, ?_⟩
  rw [calls_append, calls_logged, List.append_nil]

lemma misses_of_unmade {e : Failure} (unmade : (CephConfig.ensure o.tree o.settings.configRoot).result = .error e) :
    (∃ e', o.start.1 = .error e') ∧ o.Misses o.start.2 := by
  have silent (lines : List Log.Line) : calls (o.trace ++ lines.map Event.logged) = calls o.trace := by
    rw [calls_append, calls_logged, List.append_nil]
  simp only [start, Cache.build, unmade, Except.map]
  cases e <;> exact ⟨⟨_, rfl⟩, rfl, rfl, rfl, silent _⟩

/-- A start succeeds if there is a source to connect by and the configuration is there or can be made. Else it fails
and leaves things as they were. -/
lemma connectAndStart_cases (o : Operator) (present : Client.Source → Bool) :
    let able := (present .inCluster = true ∨ present .userFile = true) ∧
      ∃ path, (CephConfig.ensure o.tree o.settings.configRoot).result = .ok path
    able ∧ o.connectAndStart present = o.start ∧ o.start.1 = .ok () ∧ o.start.2.cache = some (Cache.new o.setup) ∧
        o.Starts o.start.2 ∨
      ¬able ∧ (∃ e, (o.connectAndStart present).1 = .error e) ∧ o.Misses (o.connectAndStart present).2 := by
  intro able
  rw [connectAndStart_eq]
  split
  · next found =>
    have connected : present .inCluster = true ∨ present .userFile = true := by simpa using found
    cases made : (CephConfig.ensure o.tree o.settings.configRoot).result with
    | ok path => exact .inl ⟨⟨connected, path, made⟩, rfl, starts_of_made made⟩
    | error e =>
      refine .inr ⟨?_, misses_of_unmade made⟩
      rintro ⟨-, path, other⟩
      cases made.symm.trans other
  · next missing =>
    refine .inr ⟨fun able => missing (by simpa using able.1), ⟨_, rfl⟩, rfl, rfl, rfl, rfl⟩

lemma obey_start_of_ok {present : Client.Source → Bool} (started : (o.connectAndStart present).1 = .ok ()) :
    (o.obey (.start present)).1 = .answer .done := by
  simp only [Operator.obey]
  generalize o.connectAndStart present = r at started
  obtain ⟨_, after⟩ := r
  cases started
  rfl

lemma obey_start_of_error {present : Client.Source → Bool} {e : Failure}
    (failed : (o.connectAndStart present).1 = .error e) :
    o.obey (.start present) = (.failure e, (o.connectAndStart present).2) := by
  simp only [Operator.obey]
  generalize o.connectAndStart present = r at failed
  obtain ⟨_, after⟩ := r
  cases failed
  rfl

/-- An operator that has no cache and no sweeper, and has made no call. -/
structure Unset (o : Operator) : Prop where
  cache : o.cache = none
  sweepers : o.sweepers = []
  sweeping : o.sweeping = false
  silent : calls o.trace = []

lemma Unset.step (h : o.Unset) (step : Step) : (o.step step).2.Unset := by
  obtain ⟨settings, logging, world, tree, cache, sweepers, sweeping, trace⟩ := o
  obtain ⟨rfl, rfl, rfl, silent⟩ := h
  cases step <;> exact ⟨rfl, rfl, rfl, silent⟩

lemma Unset.stop (h : o.Unset) : o.stop.Unset := by
  simp only [Operator.stop, h.sweeping]
  exact h

lemma Unset.obey (h : o.Unset) {order : Order}
    (unstarted : ∀ present, order = .start present → (o.obey order).1 ≠ .answer .done) : (o.obey order).2.Unset := by
  cases order with
  | stop => exact h.stop
  | take step => exact h.step step
  | start present =>
    obtain ⟨-, same, started, -⟩ | ⟨-, ⟨e, failed⟩, misses⟩ := o.connectAndStart_cases present
    · exact absurd (obey_start_of_ok (same ▸ started)) (unstarted present rfl)
    · rw [obey_start_of_error failed]
      exact ⟨misses.cache.trans h.cache, misses.sweepers.trans h.sweepers, misses.sweeping.trans h.sweeping,
        misses.silent.trans h.silent⟩

lemma Unset.obeyAll (h : o.Unset) {orders : List Order}
    (unstarted : ∀ p ∈ orders.zip (o.obeyAll orders).1, ∀ present, p.1 = .start present → p.2 ≠ .answer .done) :
    (o.obeyAll orders).2.Unset := by
  induction orders generalizing o with
  | nil => exact h
  | cons order rest ih =>
    simp only [Operator.obeyAll, List.zip_cons_cons, List.forall_mem_cons] at unstarted
    exact ih (h.obey unstarted.1) unstarted.2

end
end Operator

/-- What settings come from: numbers that can be read, a time limit that counts unless it is zero, and three texts. -/
lemma Settings.of_read {env : List (String × String)} {settings : Settings} (h : read env = .ok settings) :
    ∃ interval timeout,
      number ((env.lookup "RBD_MIRROR_RESYNC_INTERVAL").getD "60") = .ok interval ∧
      number ((env.lookup "RBD_MIRROR_COMMAND_TIMEOUT").getD "60") = .ok timeout ∧
      settings = {
        allowed := list ((env.lookup "RBD_MIRROR_ALLOWED_NAMESPACES").getD "openshift-storage")
        interval := interval
        timeout := if timeout.isZero then none else some timeout
        serialize := flag ((env.lookup "RBD_MIRROR_SERIALIZE_RESYNC").getD "true")
        configRoot := (env.lookup "CEPH_CONFIG_ROOT").getD "/etc/ceph" } := by
  simp only [read, bind, Except.bind] at h
  split at h
  · cases h
  · next interval hi =>
    split at h
    · cases h
    · next timeout ht =>
      cases h
      exact ⟨interval, timeout, hi, ht, rfl⟩

/-- As long as no start has succeeded, an operator has no cache and no sweeper, has made no call, and answers every
event with the demand to come again, to which nothing is the cause. A start succeeds exactly if there is a source to
connect by and the configuration directory can be set up; one that fails leaves the cache, the sweepers and the
calls as they were. Its settings are what its environment says.

A start that succeeds builds a new cache, set up as the settings of the operator say, and starts a sweeper. Whatever
events with a type, sweeps and stops come after it, the operator holds the same contents and the same credentials as
that cache alone when it is given the calls that the orders come down to, and it has made the same calls of the
cluster and of commands. It answers an event as the cache alone answers the call, but that failures of the cache
become the demand to come again, and sweeps as they are. Stopping leaves the cache as it is. -/
theorem operator_refines_cache :
    (∀ env settings, Settings.read env = .ok settings → ∃ interval timeout,
      Settings.number ((env.lookup "RBD_MIRROR_RESYNC_INTERVAL").getD "60") = .ok interval ∧
      Settings.number ((env.lookup "RBD_MIRROR_COMMAND_TIMEOUT").getD "60") = .ok timeout ∧
      settings = {
        allowed := Settings.list ((env.lookup "RBD_MIRROR_ALLOWED_NAMESPACES").getD "openshift-storage")
        interval := interval
        timeout := if timeout.isZero then none else some timeout
        serialize := Settings.flag ((env.lookup "RBD_MIRROR_SERIALIZE_RESYNC").getD "true")
        configRoot := (env.lookup "CEPH_CONFIG_ROOT").getD "/etc/ceph" }) ∧
    (∀ (settings : Settings) (logging : Bool) (world : World) (tree : Files.Tree) (orders : List Operator.Order),
      let run := (Operator.new settings logging world tree).obeyAll orders
      (∀ p ∈ orders.zip run.1, ∀ present, p.1 = .start present → p.2 ≠ .answer .done) →
        run.2.Unset ∧ ∀ event obj ns name, run.2.step (.event event obj ns name) =
          (.failure (.retry "Mirror cache is not started" none 10), run.2)) ∧
    (∀ (o : Operator) (present : Client.Source → Bool),
      let start := o.connectAndStart present
      (start.1 = .ok () ↔ (present .inCluster = true ∨ present .userFile = true) ∧
        ∃ path, (CephConfig.ensure o.tree o.settings.configRoot).result = .ok path) ∧
      ((∃ e, start.1 = .error e) → o.Misses start.2) ∧
      (start.1 = .ok () → o.Starts start.2 ∧ ∃ cache, start.2.cache = some cache ∧
        cache = .new { allowed := o.settings.allowed, command := "rbd", timeout := o.settings.timeout.map .real
                       serialize := o.settings.serialize, logging := o.logging } ∧
        ∀ orders : List Operator.Order, (∀ order ∈ orders, order.Daily) →
          let after := (start.2.obeyAll orders).2
          let alone := ((Session.mk cache o.world start.2.trace).takeAll (orders.filterMap Operator.Order.call?)).2
          (∃ held, after.cache = some held ∧ held.contents = alone.cache.contents ∧ held.known = alone.cache.known ∧
            calls after.trace = calls alone.trace) ∧
          (∀ (members : List (Text × Json)) (type obj : Json) (ns name : String),
            (Json.object members).member? "type" = some type →
              (after.step (.event (.object members) obj ns name)).1 =
                (alone.step (if Session.isDeletion type then .delete obj else .add obj)).1.answered) ∧
          (after.step .resync).1 = (alone.step .resync).1)) ∧
    ∀ o : Operator, o.stop.cache = o.cache := by
  refine ⟨fun _ _ => Settings.of_read, fun settings logging world tree orders unstarted => ?_, fun o present => ?_,
    fun o => ?_⟩
  · have new : (Operator.new settings logging world tree).Unset := ⟨rfl, rfl, rfl, rfl⟩
    have unset := new.obeyAll unstarted
    refine ⟨unset, fun event obj ns name => ?_⟩
    simp only [Operator.step, unset.cache]
  · obtain ⟨able, same, started, there, starts⟩ | ⟨unable, ⟨e, failed⟩, misses⟩ := o.connectAndStart_cases present
    · simp only [same]
      refine ⟨iff_of_true started able, ?_, fun _ => ⟨starts, _, there, congrArg Cache.new o.setup_eq, ?_⟩⟩
      · rintro ⟨e, failed⟩
        cases failed.symm.trans started
      · intro orders daily
        have begun : o.start.2.Follows ⟨Cache.new o.setup, o.world, o.start.2.trace⟩ :=
          ⟨_, there, rfl, rfl, rfl, starts.world, Ledger.alike_empty, rfl⟩
        have follows := begun.obeyAll daily
        refine ⟨?_, fun members type obj ns name typed => (follows.event typed obj ns name).1, follows.swept.1⟩
        obtain ⟨held, hheld, agrees⟩ := follows
        exact ⟨held, hheld, agrees.contents, agrees.known, agrees.calls⟩
    · have unstarted : (o.connectAndStart present).1 ≠ .ok () := by
        rw [failed]
        simp
      exact ⟨iff_of_false unstarted unable, fun _ => misses, fun started => absurd started unstarted⟩
  · obtain ⟨-, -, -, cache⟩ := o.stop_cases
    exact cache

namespace Sample

/-- An event of a type about a pool. -/
def event (type : Json) (uid : String) : Operator.Order :=
  .take (.event (.object [member "type" type]) (pool uid "pool1" "ns1") "ns1" "pool1")

/-- An operator whose configuration cannot be written, since a file is in the way. -/
def obstructed : Operator := .new settings true (world "a2V5" []) ⟨[(["ceph"], .file CephConfig.configMode "")]⟩

lemma obstructed_failed (present : Client.Source → Bool) : (obstructed.obey (.start present)).1 ≠ .answer .done := by
  have obstacle : (CephConfig.ensure obstructed.tree "ceph").result.toOption = none := by cbv
  obtain ⟨⟨-, path, made⟩, -⟩ | ⟨-, ⟨e, failed⟩, -⟩ := obstructed.connectAndStart_cases present
  · have none : (CephConfig.ensure obstructed.tree obstructed.settings.configRoot).result.toOption = none := obstacle
    rw [made] at none
    cases none
  · rw [Operator.obey_start_of_error failed]
    simp

/-- An operator whose first command for a pool fails. -/
def operator : Operator :=
  .new settings true (world "a2V5" [⟨.exited 1 [], []⟩, ⟨.finished (document "OK"), []⟩]) .empty

def watched : List Operator.Order :=
  [event (.ofString "ADDED") "u1", event .null "u1", .take .resync, event (.ofString "DELETED") "u2", .stop]

lemma watched_daily : ∀ order ∈ watched, order.Daily := by
  have typed (type : Json) (uid : String) : (event type uid).Daily := .event rfl _ _ _
  simp only [watched, List.forall_mem_cons]
  exact ⟨typed _ _, typed _ _, .sweep, typed _ _, .stop, by simp⟩

end Sample

theorem watched_refines_cache :
    (Sample.obstructed.obeyAll [Sample.event (.ofString "ADDED") "u1", .start fun _ => true]).2.Unset ∧
      (Sample.operator.connectAndStart fun _ => false).2.cache = none ∧
      (Sample.operator.connectAndStart fun _ => true).1 = .ok () ∧
      (Sample.operator.connectAndStart fun _ => true).2.sweepers.length = 1 ∧
      ∃ held, ((Sample.operator.connectAndStart fun _ => true).2.obeyAll Sample.watched).2.cache = some held ∧
        held.contents = [("u1", "pool1", "ns1", ⟨⟨"OK", "OK", "OK", .zero⟩, [], []⟩)] ∧
          held.known.keys = ["ns1"] := by
  obtain ⟨-, unstarted, starting, -⟩ := operator_refines_cache
  obtain ⟨-, misses, -⟩ := starting Sample.operator fun _ => false
  obtain ⟨succeeds, -, starts⟩ := starting Sample.operator fun _ => true
  have made : (CephConfig.ensure Sample.operator.tree Sample.operator.settings.configRoot).result =
      .ok "ceph/ceph.conf" :=
    congrArg CephConfig.Setting.result Sample.ensure_root
  have started := succeeds.2 ⟨.inl rfl, _, made⟩
  obtain ⟨begun, cache, built, rfl, follows⟩ := starts started
  refine ⟨(unstarted _ _ _ _ _ ?_).1, (misses ⟨.noConfiguration, rfl⟩).cache, started, ?_, ?_⟩
  · simp only [Operator.obeyAll, List.zip_cons_cons, List.forall_mem_cons]
    refine ⟨?_, fun _ _ => Sample.obstructed_failed _, by simp⟩
    rintro present ⟨⟩
  · obtain ⟨sweeper, sweepers, -⟩ := begun.sweeper
    rw [sweepers]
    rfl
  · obtain ⟨⟨held, hheld, contents, known, -⟩, -⟩ := follows _ Sample.watched_daily
    refine ⟨held, hheld, contents.trans ?_, ?_⟩
    · simp only [Operator.connectAndStart_eq, Operator.start, Cache.build, Sample.operator, Operator.new,
        Sample.settings, Sample.ensure_root]
      decide +kernel
    · rw [known]
      simp only [Operator.connectAndStart_eq, Operator.start, Cache.build, Sample.operator, Operator.new,
        Sample.settings, Sample.ensure_root]
      decide +kernel

end ReplicaWatch
