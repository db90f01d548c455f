import ReplicaWatch.Bytes.Base64
import ReplicaWatch.Bytes.Utf8
import ReplicaWatch.Json.Reader
import ReplicaWatch.Json.Shown
import ReplicaWatch.Schema.Basic
import ReplicaWatch.Text.Quoted

/-! Everything that can go wrong, by its cause, and the message of each cause. Failures of the cache are those that
its callers expect; a value that cannot be read, a refused request or a value of the wrong kind is a failure of
another sort, which passes through the cache unchanged. -/
namespace ReplicaWatch

/-- An error of the operating system, by its number, about a file or a program. -/
structure SystemFault where
  number : Nat
  file : String
  deriving DecidableEq, Repr

namespace SystemFault

/-- The system's text for an error number. -/
def text (number : Nat) : String :=
  match number with
  | 1 => "Operation not permitted"
  | 2 => "No such file or directory"
  | 7 => "Argument list too long"
  | 8 => "Exec format error"
  | 11 => "Resource temporarily unavailable"
  | 12 => "Cannot allocate memory"
  | 13 => "Permission denied"
  | 17 => "File exists"
  | 20 => "Not a directory"
  | 21 => "Is a directory"
  | 24 => "Too many open files"
  | 36 => "File name too long"
  | 40 => "Too many levels of symbolic links"
  | n => s!"Unknown error {n}"

def message (e : SystemFault) : String :=
  s!"[Errno {e.number}] {text e.number}: {Quoted.quote e.file}"

end SystemFault

/-- A value that was to be read and cannot be. -/
inductive ValueFault where
  | json (fault : Json.Fault)
  | encoding (fault : EncodingFault)
  | base64 (fault : Base64.Fault)
  | schema (faults : List Mismatched)
  | notList
  | notNumber (text : String)
  | zeroByte
  deriving DecidableEq, Repr

def ValueFault.message : ValueFault → String
  | json fault => fault.message
  | encoding fault => fault.message
  | base64 fault => fault.message
  | schema faults => "pydantic[" ++ ";".intercalate (faults.map Mismatched.text) ++ "]"
  | notList => "expected a JSON list"
  | notNumber text => s!"could not convert string to float: {Quoted.quote text}"
  | zeroByte => "embedded null byte"

/-- Why there are no credentials for a namespace. -/
inductive CredentialFailure where
  | notAllowed (ns : Json)
  | secretUnavailable (ns name reason : String)
  | secretFieldMissing (ns name key : String)
  | configUnavailable (ns name reason : String)
  | configFieldMissing (ns name key : String)
  | configUnreadable (ns key reason : String)
  | noCluster (ns : String)
  | noMonitor (ns : String)
  | other (ns text : String)

def CredentialFailure.message : CredentialFailure → String
  | notAllowed ns => s!"rbd-mirror status collection from namespace {ns.inMessage} is not allowed"
  | secretUnavailable ns name reason =>
    s!"Failed to get secret {name} in namespace {Quoted.quote ns}: {reason}"
  | secretFieldMissing ns name key =>
    s!"Secret {name} in namespace {Quoted.quote ns} has no {key} field"
  | configUnavailable ns name reason =>
    s!"Failed to get configmap {name} in namespace {Quoted.quote ns}: {reason}"
  | configFieldMissing ns name key =>
    s!"ConfigMap {name} in namespace {Quoted.quote ns} has no {key} field"
  | configUnreadable ns key reason =>
    s!"Failed to decode {key} in namespace {Quoted.quote ns}: {reason}"
  | noCluster ns =>
    s!"Expected 1 or more CSI cluster configs but found 0 in namespace {Quoted.quote ns}"
  | noMonitor ns =>
    s!"Expected 1 or more monitors but found 0 in the CSI cluster config of namespace {Quoted.quote ns}"
  | other _ text => text

/-- Why the status of a pool was not obtained. A command that ended has an exit status, and what it wrote is kept. -/
inductive FetchFailure where
  | incompleteCredentials (pool : String)
  | command (pool reason : String) (exit : Option Int) (output : List UInt8)
  | unreadableStatus (pool reason : String) (faults : List Mismatched)
  | other (pool text : String)

/-- The failure of a status document that has faults. -/
def FetchFailure.unreadable (pool : String) (faults : List Mismatched) : FetchFailure :=
  .unreadableStatus pool s!"{faults.length} validation error(s)" faults

def FetchFailure.message : FetchFailure → String
  | incompleteCredentials pool =>
    s!"Unable to get rbd mirror status for pool {pool}: rbd command input not specified"
  | command pool reason _ _ => s!"rbd command error for pool {pool}: {reason}"
  | unreadableStatus pool reason _ =>
    s!"Failed to parse rbd mirror status for pool {pool}: {reason}"
  | other _ text => text

/-- The failures that callers of the cache expect. -/
inductive CacheFailure where
  | bootstrap (path reason : String)
  | typeMismatch (given : Json.Kind) (reason : String)
  | credential (e : CredentialFailure)
  | fetch (e : FetchFailure)
  | other (text : String)

def CacheFailure.message : CacheFailure → String
  | bootstrap path reason => s!"Failed to initialize Ceph config at {path}: {reason}"
  | typeMismatch given reason => s!"Unexpected object of type {given.name}: {reason}"
  | credential e => e.message
  | fetch e => e.message
  | other text => text

/-- Why a command cannot be called: an argument of it cannot be handed over, or its time limit cannot be counted down.
The system has no error number for these. -/
inductive CallFault where
  | zeroByte
  | loneSurrogate
  | limitTooLarge
  | limitNotNumber
  deriving DecidableEq, Repr

/-- Every failure. The last two answer an event: try again after a delay, or never. -/
inductive Failure where
  | cache (e : CacheFailure)
  | value (e : ValueFault)
  | call (e : CallFault)
  | refused (status reason : Json)
  | system (e : SystemFault)
  | wrongKind
  | noMembers
  | missingKey
  | noConfiguration
  | retry (text : String) (cause : Option CacheFailure) (delay : Nat)
  | giveUp (text : String) (cause : CacheFailure)

namespace Failure

def ofCredential (e : CredentialFailure) : Failure := cache (.credential e)

def ofFetch (e : FetchFailure) : Failure := cache (.fetch e)

/-- The status and the reason of a refused request. -/
def refusalText (status reason : Json) : String := s!"{status.asText} {reason.asText}"

end Failure
end ReplicaWatch
