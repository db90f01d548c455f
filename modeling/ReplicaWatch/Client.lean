import ReplicaWatch.Failure

/-! Connecting to the cluster: with the account of the container if it runs inside the cluster, else with the
configuration file of the user. -/
namespace ReplicaWatch.Client

inductive Source where
  | inCluster
  | userFile
  deriving DecidableEq, Repr

/-- An attempt to connect: the sources that were tried, and what is set about the check of host names. -/
structure Attempt where
  result : Except Failure Unit
  tried : List Source
  checksHostname : Option Bool

/-- Connects with the first source that is there. -/
def connect (present : Source → Bool) : Attempt :=
  if present .inCluster then ⟨.ok (), [.inCluster], some false⟩
  else if present .userFile then ⟨.ok (), [.inCluster, .userFile], some false⟩
  else ⟨.error .noConfiguration, [.inCluster, .userFile], none⟩

end ReplicaWatch.Client
