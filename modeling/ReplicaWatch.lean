import ReplicaWatch.Cache.Trace
import ReplicaWatch.Client
import ReplicaWatch.Main
import ReplicaWatch.Operator
import ReplicaWatch.Proofs.Confinement
import ReplicaWatch.Proofs.Nesting
import ReplicaWatch.Proofs.Secrecy.TwoRuns
import ReplicaWatch.Proofs.Sweeping
import ReplicaWatch.Proofs.Writes.Log
import ReplicaWatch.Proofs.Writes.Chronicle
import ReplicaWatch.Proofs.Writes.StoreReplay
import ReplicaWatch.Proofs.LockDiscipline
import ReplicaWatch.Proofs.SteadySweep
import ReplicaWatch.Proofs.Strategies
import ReplicaWatch.Proofs.Coherence
import ReplicaWatch.Proofs.Agreement
import ReplicaWatch.Proofs.Refinement
import ReplicaWatch.Proofs.Json.Reading
import ReplicaWatch.Proofs.Bytes
import ReplicaWatch.Proofs.Forms
import ReplicaWatch.Proofs.CredentialChain
import ReplicaWatch.Proofs.StatusDocuments
import ReplicaWatch.Proofs.Adding
import ReplicaWatch.Proofs.Commuting
import ReplicaWatch.Proofs.Replacement
import ReplicaWatch.Proofs.Classification
import ReplicaWatch.Proofs.FaultyDocuments
import ReplicaWatch.Proofs.Irrelevance
import ReplicaWatch.Proofs.ConfigSetup
import ReplicaWatch.Proofs.SetupFailures
import ReplicaWatch.Proofs.MalformedPools
import ReplicaWatch.Proofs.RepeatedSweep
import ReplicaWatch.Proofs.ReplayDetails
import ReplicaWatch.Proofs.LifeCycle
import ReplicaWatch.Proofs.Redaction
import ReplicaWatch.Proofs.StrewnSecrets
import ReplicaWatch.Proofs.AllowLists
import ReplicaWatch.Proofs.Endurance
