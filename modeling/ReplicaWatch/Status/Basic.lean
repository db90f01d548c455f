import ReplicaWatch.Number.Binary64

/-! The replication status of one pool, as the status command reports it. -/
namespace ReplicaWatch.Status

/-- How many images are in each state. -/
structure StateCounts where
  unknown : Int
  error : Int
  syncing : Int
  startingReplay : Int
  replaying : Int
  stoppingReplay : Int
  stopped : Int
  deriving DecidableEq, Repr

def StateCounts.zero : StateCounts := ⟨0, 0, 0, 0, 0, 0, 0⟩

structure Summary where
  health : String
  daemonHealth : String
  imageHealth : String
  states : StateCounts
  deriving DecidableEq, Repr

structure Daemon where
  serviceId : String
  instanceId : String
  clientId : String
  hostname : String
  version : String
  isLeader : Bool
  health : String
  deriving DecidableEq, Repr

/-- The daemon that serves an image. -/
structure Service where
  serviceId : String
  instanceId : String
  daemonId : String
  hostname : String
  deriving DecidableEq, Repr

def Service.blank : Service := ⟨"", "", "", ""⟩

/-- How far the replay of an image has come at a peer. -/
structure Replay where
  bytesPerSecond : Binary64
  bytesPerSnapshot : Binary64
  localSnapshotTimestamp : Int
  remoteSnapshotTimestamp : Int
  replayState : String
  deriving DecidableEq, Repr

structure PeerSite where
  siteName : String
  mirrorUuids : String
  state : String
  description : String
  lastUpdate : String
  deriving DecidableEq, Repr

structure Image where
  name : String
  globalId : String
  state : String
  description : String
  service : Service
  lastUpdate : String
  peerSites : List PeerSite
  deriving DecidableEq, Repr

/-- The status of a pool. -/
structure Pool where
  summary : Summary
  daemons : List Daemon
  images : List Image
  deriving DecidableEq, Repr

end ReplicaWatch.Status
