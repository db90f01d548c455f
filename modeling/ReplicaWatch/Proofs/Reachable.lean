import Mathlib
import ReplicaWatch.Operator

/-! Runs of a session and of an operator. A session is reached by taking steps, and also where a step has begun a
command and others come to take steps of their own. How deep steps are nested is left open. -/
namespace ReplicaWatch.Event

def line? : Event → Option Log.Line
  | logged line => some line
  | _ => none

def request? : Event → Option ObjectName
  | asked name => some name
  | _ => none

def command? : Event → Option (List String)
  | started args _ _ => some args
  | _ => none

end ReplicaWatch.Event

namespace ReplicaWatch.Session

lemma run_eq (s : Session) (m : Meanwhile) (pool : String) (args : List String) :
    s.run m pool args =
      ((s.world.takeOutcome pool).1.ending,
        (m (s.world.takeOutcome pool).1.meanwhile (s.launch pool args)).2.note
          (.ended (s.world.takeOutcome pool).1.ending
            (m (s.world.takeOutcome pool).1.meanwhile (s.launch pool args)).1)) := rfl

/-- The session in which a sweep takes its snapshot. -/
def sweepStart (s : Session) : Session :=
  (s.log .info sweepStartedText).setLocked s.cache.setup.serialize

lemma resync_eq (s : Session) (m : Meanwhile) :
    s.resync m =
      match s.sweepStart.sweep m s.cache.setup.serialize ⟨0, 0, 0⟩ s.cache.records.entries with
      | (.error e, t) => (.error e, t.setLocked false)
      | (.ok tally, t) =>
        (.ok tally, (t.setLocked false).log .info (sweepEndedText tally)) := by
  have same : (s.log .info sweepStartedText).cache = s.cache := log_cache s _ _
  rw [sweepStart, ← same]
  rfl

/-- The session in which a sweep comes to an entry of its snapshot, with the tally of the entries before it. -/
def SweepComes (s : Session) (m : Meanwhile) (uid : String) (record : Record) (tally : Tally) (t : Session) : Prop :=
  ∃ before after, s.cache.records.entries = before ++ (uid, record) :: after ∧
    s.sweepStart.sweep m s.cache.setup.serialize ⟨0, 0, 0⟩ before = (.ok tally, t)

/-- Fetching the status of a pool runs a command, and others find `t` meanwhile. -/
inductive FetchBegins (s : Session) (pool ns : Json) : Session → Prop
  | command {n c u t} (permitted : s.cache.setup.permit ns = .ok n)
      (resolved : s.resolvePermitted n false = (.ok c, u)) (named : pool = .string t)
      (given : c.isEmpty = false) :
      FetchBegins s pool ns (u.launch (Text.asString t) (Command.status u.cache.setup.command (Text.asString t) c))

/-- Adding the pool that an object describes runs a command, and others find `t` meanwhile. -/
def AddBegins (s : Session) (obj : Json) (t : Session) : Prop :=
  ∃ pool, BlockPool.ofJson obj = .ok pool ∧ pool.mirrored = true ∧ s.FetchBegins pool.name pool.ns t

/-- A step runs a command, and others find `t` meanwhile. -/
inductive Begins (s : Session) (m : Meanwhile) : Step → Session → Prop
  | add {obj t} (h : s.AddBegins obj t) : Begins s m (.add obj) t
  | update {obj t} (h : s.AddBegins obj t) : Begins s m (.update obj) t
  | event {event type obj ns name t} (typed : event.member? "type" = some type) (kept : isDeletion type = false)
      (h : s.AddBegins obj t) : Begins s m (.event event obj ns name) t
  | replace {items before item after u t} (listed : itemsOf? items = some (before ++ item :: after))
      (added : (s.change .cleared).addAll m before = (.ok (), u)) (h : u.AddBegins item t) :
      Begins s m (.replace items) t
  | resync {uid record tally u t} (comes : s.SweepComes m uid record tally u)
      (h : u.FetchBegins (.ofString record.pool) (.ofString record.ns) t) : Begins s m .resync t

/-- The sessions of a cache that was set up when `history` had happened. -/
inductive Reachable (setup : Setup) (history : List Event) : Session → Prop
  | start (world : World) : Reachable setup history ⟨Cache.new setup, world, history⟩
  | took {s} (h : Reachable setup history s) (depth : ℕ) (step : Step) :
      Reachable setup history (s.attempt (nested depth) step).2
  | within {s step t} (h : Reachable setup history s) (depth : ℕ) (free : s.cache.locked = false)
      (begins : s.Begins (nested depth) step t) : Reachable setup history t

/-- Takes steps one after the other, each to its end. -/
def takeAll (s : Session) : List Step → List Reply × Session
  | [] => ([], s)
  | step :: rest => ((s.step step).1 :: ((s.step step).2.takeAll rest).1, ((s.step step).2.takeAll rest).2)

lemma Reachable.takeAll {setup : Setup} {history : List Event} {s : Session} (h : Reachable setup history s)
    (steps : List Step) : Reachable setup history (s.takeAll steps).2 := by
  induction steps generalizing s with
  | nil => exact h
  | cons step rest ih => exact ih (h.took _ step)

end ReplicaWatch.Session

/-! ## Operators -/
namespace ReplicaWatch.Operator

/-- What an operator is told to do. A start finds sources to connect by. -/
inductive Order where
  | start (present : Client.Source → Bool)
  | stop
  | take (step : Step)

def obey (o : Operator) : Order → Reply × Operator
  | .start present =>
    match o.connectAndStart present with
    | (.ok (), o) => (.answer .done, o)
    | (.error e, o) => (.failure e, o)
  | .stop => (.answer .done, o.stop)
  | .take step => o.step step

/-- A start does nothing where there is no source to connect by. -/
lemma connectAndStart_eq (o : Operator) (present : Client.Source → Bool) :
    o.connectAndStart present =
      if present .inCluster || present .userFile then o.start else (.error .noConfiguration, o) := by
  unfold connectAndStart Client.connect
  cases present .inCluster <;> cases present .userFile <;> rfl

lemma obey_start_snd (o : Operator) (present : Client.Source → Bool) :
    (o.obey (.start present)).2 = if present .inCluster || present .userFile then o.start.2 else o := by
  simp only [obey, connectAndStart_eq]
  cases present .inCluster || present .userFile with
  | true => rcases o.start with ⟨_ | _, after⟩ <;> rfl
  | false => rfl

/-- Obeys orders one after the other. -/
def obeyAll (o : Operator) : List Order → List Reply × Operator
  | [] => ([], o)
  | order :: rest => ((o.obey order).1 :: ((o.obey order).2.obeyAll rest).1, ((o.obey order).2.obeyAll rest).2)

/-- The session of an operator that has a cache. -/
def session (o : Operator) (cache : Cache) : Session := ⟨cache, o.world, o.trace⟩

/-- The operator once its session has become `s`. -/
def withSession (o : Operator) (s : Session) : Operator :=
  { o with cache := some s.cache, world := s.world, trace := s.trace }

/-- The operators that are reached with some settings. -/
inductive Reachable (settings : Settings) : Operator → Prop
  | new (logging : Bool) (world : World) (tree : Files.Tree) : Reachable settings (.new settings logging world tree)
  | obeyed {o} (h : Reachable settings o) (order : Order) : Reachable settings (o.obey order).2
  | took {o cache} (h : Reachable settings o) (there : o.cache = some cache) (depth : ℕ) (step : Step) :
      Reachable settings (o.withSession ((o.session cache).attempt (Session.nested depth) step).2)
  | within {o cache step t} (h : Reachable settings o) (there : o.cache = some cache) (free : cache.locked = false)
      (depth : ℕ) (begins : (o.session cache).Begins (Session.nested depth) step t) :
      Reachable settings (o.withSession t)

lemma Reachable.obeyAll {settings : Settings} {o : Operator} (h : Reachable settings o) (orders : List Order) :
    Reachable settings (o.obeyAll orders).2 := by
  induction orders generalizing o with
  | nil => exact h
  | cons order rest ih => exact ih (h.obeyed order)

end ReplicaWatch.Operator

/-! ## A small cluster

One namespace with a secret and a configuration, and one pool in it. -/
namespace ReplicaWatch.Sample

/-- A secret that holds a key, given in base 64. -/
def secret (key : String) : Response :=
  .body (Utf8.encodeString ("\x7b\"data\": \x7b\"ceph-secret\": \"" ++ key ++ "\"\x7d\x7d"))

def configuration : Response :=
  .body (Utf8.encodeString ("\x7b\"data\": \x7b\"csi-cluster-config-json\": " ++
    "\"[\x7b\\\"monitors\\\": [\\\"10.0.0.1\\\"]\x7d]\"\x7d\x7d"))

/-- A status document that reports a state of health. -/
def document (health : String) : List UInt8 :=
  Utf8.encodeString ("\x7b\"summary\": \x7b\"health\": \"" ++ health ++
    "\", \"daemon_health\": \"OK\", \"image_health\": \"OK\"\x7d\x7d")

def member (name : String) (value : Json) : Text × Json := (Text.ofString name, value)

/-- The description of a pool with mirroring. -/
def pool (uid name ns : String) : Json :=
  .object [member "kind" (.ofString "CephBlockPool"),
    member "metadata" (.object [member "uid" (.ofString uid), member "name" (.ofString name),
      member "namespace" (.ofString ns)]),
    member "spec" (.object [member "mirroring" (.object [member "enabled" (.bool true)])])]

/-- The cluster, in which the commands for the pool end in the given ways. -/
def world (key : String) (outcomes : List Outcome) : World :=
  (((World.empty.setObject ⟨.secret, "ns1", Credentials.secretName⟩ (secret key)).setObject
    ⟨.configuration, "ns1", Credentials.configName⟩ configuration).setOutcomes "pool1" outcomes)

def setup (serialize : Bool) : Setup := ⟨["ns1"], "rbd", none, serialize, true⟩

/-- The cache in this cluster after some steps. -/
def run (key : String) (serialize : Bool) (outcomes : List Outcome) (steps : List Step) : Session :=
  ((Session.mk (Cache.new (setup serialize)) (world key outcomes) []).takeAll steps).2

lemma run_reachable (key : String) (serialize : Bool) (outcomes : List Outcome) (steps : List Step) :
    Session.Reachable (setup serialize) [] (run key serialize outcomes steps) :=
  (Session.Reachable.start (world key outcomes)).takeAll steps

/-- An environment that allows two namespaces. -/
def environment : List (String × String) :=
  [("RBD_MIRROR_ALLOWED_NAMESPACES", "ns1, ns2"), ("CEPH_CONFIG_ROOT", "ceph")]

/-- Both numbers are sixty. -/
def settings : Settings := ⟨["ns1", "ns2"], ⟨0x404E000000000000⟩, some ⟨0x404E000000000000⟩, true, "ceph"⟩

lemma eq_ok_of_toOption {ε α : Type} {result : Except ε α} {a : α} (h : result.toOption = some a) :
    result = .ok a := by
  cases result with
  | error e => cases h
  | ok b => exact congrArg Except.ok (Option.some.inj h)

lemma settings_read : Settings.read environment = .ok settings := eq_ok_of_toOption (by decide +kernel)

lemma ensure_root :
    CephConfig.ensure .empty "ceph" =
      ⟨.ok "ceph/ceph.conf",
        ⟨[(["ceph"], .directory Files.directoryMode),
          (["ceph", "ceph.conf"], .file CephConfig.configMode CephConfig.content),
          (["ceph", "keyring"], .file CephConfig.keyringMode "")]⟩,
        ["Wrote Ceph config to ceph/ceph.conf"]⟩ := by
  cbv

/-- The operator in this cluster after some orders. -/
def operate (key : String) (outcomes : List Outcome) (orders : List Operator.Order) : Operator :=
  ((Operator.new settings true (world key outcomes) .empty).obeyAll orders).2

lemma operate_reachable (key : String) (outcomes : List Outcome) (orders : List Operator.Order) :
    Operator.Reachable settings (operate key outcomes orders) :=
  (Operator.Reachable.new true (world key outcomes) .empty).obeyAll orders

end ReplicaWatch.Sample
