import ReplicaWatch.Cache.Steps
import ReplicaWatch.CephConfig
import ReplicaWatch.Client
import ReplicaWatch.Settings
import ReplicaWatch.Sweeper

/-! The operator: it starts a cache with the settings of its environment, sweeps it at intervals, and passes events
about pools on to it. -/
namespace ReplicaWatch

namespace Cache

/-- A new cache, once the configuration that the status command needs is there. -/
def build (setup : Setup) (tree : Files.Tree) (configRoot : String) : Except Failure Cache × CephConfig.Setting :=
  let setting := CephConfig.ensure tree configRoot
  (setting.result.map fun _ => Cache.new setup, setting)

end Cache

structure Operator where
  settings : Settings
  logging : Bool
  world : World
  tree : Files.Tree
  cache : Option Cache
  /-- Every sweeper that was started, the last one last. -/
  sweepers : List Sweeper
  /-- Whether the last sweeper is to be stopped yet. -/
  sweeping : Bool
  trace : List Event

namespace Operator

/-- An operator that has not started. -/
def new (settings : Settings) (logging : Bool) (world : World) (tree : Files.Tree) : Operator :=
  ⟨settings, logging, world, tree, none, [], false, []⟩

/-- How the operator sets its cache up. -/
def setup (o : Operator) : Setup where
  allowed := o.settings.allowed
  command := "rbd"
  timeout := o.settings.timeout.map Seconds.real
  serialize := o.settings.serialize
  logging := o.logging

def log (o : Operator) (lines : List Log.Line) : Operator :=
  { o with trace := o.trace ++ lines.map Event.logged }

/-- The line that a start writes about the namespaces that it is for. -/
def collecting (allowed : List String) : Log.Line :=
  ⟨.info, "Collecting rbd mirror status from namespaces " ++ ", ".intercalate allowed⟩

/-- Starts a new cache and a sweeper for it. A cache that is there is replaced, but its sweeper runs on. -/
def start (o : Operator) : Except Failure Unit × Operator :=
  let (result, setting) := Cache.build o.setup o.tree o.settings.configRoot
  let o := { o with tree := setting.tree }.log
    (setting.logged.flatMap fun text => Log.Line.when ⟨.info, text⟩ o.logging)
  match result with
  | .error (.cache e) => (.error (.giveUp e.message e), o)
  | .error e => (.error e, o)
  | .ok cache =>
    let o := o.log ((collecting o.settings.allowed).when o.logging)
    let (lines, sweeper) := (Sweeper.new (.real o.settings.interval) o.logging).start
    (.ok (), { o with cache := some cache, sweepers := o.sweepers ++ [sweeper], sweeping := true }.log lines)

/-- Starts once the cluster is connected to. -/
def connectAndStart (o : Operator) (present : Client.Source → Bool) : Except Failure Unit × Operator :=
  match (Client.connect present).result with
  | .error e => (.error e, o)
  | .ok () => o.start

/-- Stops the last sweeper. -/
def stop (o : Operator) : Operator :=
  if o.sweeping then
    match o.sweepers.getLast? with
    | some sweeper =>
      let (lines, sweeper) := sweeper.stop
      { o with sweepers := o.sweepers.dropLast ++ [sweeper], sweeping := false }.log lines
    | none => o
  else o

/-- Whether the sweeper that was started last is running. -/
def isRunning (o : Operator) : Bool := o.sweepers.getLast?.any Sweeper.isRunning

/-- Takes a step. Without a cache, events are to come again later, and nothing but the surroundings changes. -/
def step (o : Operator) (step : Step) : Reply × Operator :=
  match o.cache with
  | some cache =>
    let (reply, s) := (Session.mk cache o.world o.trace).step step
    (reply, { o with cache := some s.cache, world := s.world, trace := s.trace })
  | none =>
    match step with
    | .event _ _ _ _ => (.failure (.retry "Mirror cache is not started" none 10), o)
    | .setObject name response => (.answer .done, { o with world := o.world.setObject name response })
    | .removeObject name => (.answer .done, { o with world := o.world.removeObject name })
    | .setEndings pool outcomes => (.answer .done, { o with world := o.world.setOutcomes pool outcomes })
    | _ => (.failure .noMembers, o)

end Operator
end ReplicaWatch
