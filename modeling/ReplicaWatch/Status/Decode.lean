import ReplicaWatch.Bytes.Utf8
import ReplicaWatch.Json.Reader
import ReplicaWatch.Schema.Scalar
import ReplicaWatch.Status.Basic

/-! Status documents. Every field but those of health may be left out, and two fields of a daemon have a second
name. The description of a peer site may end in a document of its own about the replay. -/
namespace ReplicaWatch.Status

open Fields Schema

def StateCounts.form : Form StateCounts := Fields.form <|
  StateCounts.mk <$> optional "unknown" count 0 <*> optional "error" count 0 <*>
    optional "syncing" count 0 <*> optional "starting_replay" count 0 <*>
    optional "replaying" count 0 <*> optional "stopping_replay" count 0 <*>
    optional "stopped" count 0

def Summary.form : Form Summary := Fields.form <|
  Summary.mk <$> required "health" text <*> required "daemon_health" text <*>
    required "image_health" text <*> optional "states" StateCounts.form StateCounts.zero

def Daemon.form : Form Daemon := Fields.form <|
  Daemon.mk <$> optional "service_id" text "" <*> optional "instance_id" text "" <*>
    optional "client_id" text "" <*> optional "hostname" text "" <*>
    optionalAs "version" "ceph_version" text "" <*> optionalAs "is_leader" "leader" flag false <*>
    optional "health" text ""

def Service.form : Form Service := Fields.form <|
  Service.mk <$> optional "service_id" text "" <*> optional "instance_id" text "" <*>
    optional "daemon_id" text "" <*> optional "hostname" text ""

def Replay.form : Form Replay := Fields.form <|
  Replay.mk <$> optional "bytes_per_second" rate (.ofInt 0) <*>
    optional "bytes_per_snapshot" rate (.ofInt 0) <*>
    optional "local_snapshot_timestamp" count 0 <*>
    optional "remote_snapshot_timestamp" count 0 <*> optional "replay_state" text ""

def PeerSite.form : Form PeerSite := Fields.form <|
  PeerSite.mk <$> optional "site_name" text "" <*> optional "mirror_uuids" text "" <*>
    optional "state" text "" <*> optional "description" text "" <*> optional "last_update" text ""

def Image.form : Form Image := Fields.form <|
  Image.mk <$> optional "name" text "" <*> optional "global_id" text "" <*>
    optional "state" text "" <*> optional "description" text "" <*>
    optional "daemon_service" Service.form Service.blank <*> optional "last_update" text "" <*>
    optional "peer_sites" (.list PeerSite.form) []

def Pool.form : Form Pool := Fields.form <|
  Pool.mk <$> required "summary" Summary.form <*> optional "daemons" (.list Daemon.form) [] <*>
    optional "images" (.list Image.form) []

/-- The value that a document holds, or all its faults. A text that is no JSON has that one fault. -/
def readDocument {α : Type} (form : Form α) (t : Text) : Except (List Mismatched) α :=
  match Json.readStrict t with
  | some v => form.read v
  | none => .error [⟨.notJson, []⟩]

/-- The status that the output of the status command reports. -/
def decode (output : List UInt8) : Except (List Mismatched) Pool :=
  match Utf8.decode false output with
  | .ok t => readDocument Pool.form t
  | .error _ => .error [⟨.notJson, []⟩]

/-- The replay that a description tells about: from its first opening brace on it has to be a document. -/
def replay? (description : Text) : Option Replay :=
  match description.dropWhile (· != .char '\x7b') with
  | [] => none
  | document =>
    match readDocument Replay.form document with
    | .ok r => some r
    | .error _ => none

def PeerSite.replay? (p : PeerSite) : Option Replay := Status.replay? (Text.ofString p.description)

end ReplicaWatch.Status
