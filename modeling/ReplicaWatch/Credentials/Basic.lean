import ReplicaWatch.Bytes.Encoding
import ReplicaWatch.Failure
import ReplicaWatch.Schema.Scalar

/-! Credentials and the objects they are read from: a secret that holds the key, and a configuration whose text is a
list of clusters, of which the first monitor of the first cluster is used. -/
namespace ReplicaWatch

/-- What the status command needs to reach a cluster. -/
structure Credentials where
  monitor : String
  id : String
  key : String
  deriving DecidableEq, Repr

def Credentials.isEmpty (c : Credentials) : Bool :=
  c.monitor.isEmpty && c.id.isEmpty && c.key.isEmpty

/-- A cluster in the configuration. -/
structure Cluster where
  clusterId : String
  monitors : List String
  deriving DecidableEq, Repr

namespace Cluster

open Fields Schema

def form : Form Cluster := Fields.form <|
  Cluster.mk <$> optionalAs "cluster_id" "clusterID" text "" <*> optional "monitors" (.list text) []

/-- Reads the entries of a list up to the first that has faults. -/
def readAll : List Json → Except ValueFault (List Cluster)
  | [] => .ok []
  | v :: rest =>
    match form.read v with
    | .ok c =>
      match readAll rest with
      | .ok cs => .ok (c :: cs)
      | .error e => .error e
    | .error faults => .error (.schema faults)

/-- The clusters that a configuration text lists; null lists none. -/
def parse (t : Text) : Except ValueFault (List Cluster) :=
  match Json.readUnmarked t with
  | .ok .null => .ok []
  | .ok (.array items) => readAll items
  | .ok _ => .error .notList
  | .error fault => .error (.json fault)

end Cluster

inductive ObjectKind where
  | secret
  | configuration
  deriving DecidableEq, Repr

/-- The name of an object of the cluster. -/
structure ObjectName where
  kind : ObjectKind
  ns : String
  name : String
  deriving DecidableEq, Repr

/-- The answer to a request for an object: the bytes of its description, or a refusal. -/
inductive Response where
  | body (bytes : List UInt8)
  | refused (status reason : Json)

/-- The refusal of a request for what does not exist. -/
def Response.notFound : Response := .refused (.int 404) (.string (Text.ofString "Not Found"))

namespace Credentials

/-- The value of the description of an object. -/
def readBody (bytes : List UInt8) : Except Failure Json :=
  match Encoding.decodeBody bytes with
  | .error e => .error (.value (.encoding e))
  | .ok t =>
    match Json.read t with
    | .ok v => .ok v
    | .error e => .error (.value (.json e))

/-- The text that a field of a secret encodes. -/
def decodeField (v : Json) : Except Failure String :=
  match v with
  | .string t =>
    match Base64.decode t with
    | .error e => .error (.value (.base64 e))
    | .ok bytes =>
      match Utf8.decode false bytes with
      | .ok t => .ok (Text.asString t)
      | .error e => .error (.value (.encoding e))
  | _ => .error .wrongKind

def secretName : String := "rook-ceph-mon"

def secretKey : String := "ceph-secret"

def configName : String := "rook-ceph-csi-config"

def configKey : String := "csi-cluster-config-json"

/-- The client that every command runs as. -/
def clientId : String := "admin"

/-- The field of a description's data; data need not be set, and a field that is null is not there. -/
def dataField (description : Json) (key : String) : Except Failure (Option Json) :=
  match description with
  | .object _ =>
    let data := (description.member? "data").getD .null
    if data.isSet then
      match data with
      | .object _ =>
        match data.member? key with
        | none => .ok none
        | some .null => .ok none
        | some v => .ok (some v)
      | _ => .error .noMembers
    else .ok none
  | _ => .error .noMembers

/-- Faults of the key's spelling; text outside ASCII is none of them. -/
def isUndecodable : Failure → Bool
  | .value (.base64 .foreign) => false
  | .value (.base64 _) => true
  | .value (.encoding _) => true
  | _ => false

/-- The key that the secret of a namespace holds. -/
def keyOf (ns : String) : Response → Except Failure String
  | .refused status reason =>
    .error (.ofCredential (.secretUnavailable ns secretName (Failure.refusalText status reason)))
  | .body bytes => do
    let field ← dataField (← readBody bytes) secretKey
    match field with
    | none => .error (.ofCredential (.secretFieldMissing ns secretName secretKey))
    | some v =>
      match decodeField v with
      | .ok key => .ok key
      | .error e =>
        if isUndecodable e then
          .error (.ofCredential (.secretUnavailable ns secretName s!"undecodable {secretKey}"))
        else .error e

/-- The first monitor of the first cluster. -/
def monitorIn (ns : String) : List Cluster → Except Failure String
  | [] => .error (.ofCredential (.noCluster ns))
  | c :: _ =>
    match c.monitors with
    | [] => .error (.ofCredential (.noMonitor ns))
    | monitor :: _ => .ok monitor

/-- The monitor that the configuration of a namespace names. -/
def monitorOf (ns : String) : Response → Except Failure String
  | .refused status reason =>
    .error (.ofCredential (.configUnavailable ns configName (Failure.refusalText status reason)))
  | .body bytes => do
    let field ← dataField (← readBody bytes) configKey
    match field with
    | none => .error (.ofCredential (.configFieldMissing ns configName configKey))
    | some (.string t) =>
      match Cluster.parse t with
      | .ok clusters => monitorIn ns clusters
      | .error e => .error (.ofCredential (.configUnreadable ns configKey e.message))
    | some _ => .error .wrongKind

end Credentials
end ReplicaWatch
