import ReplicaWatch.Ledger
import ReplicaWatch.Status.Basic
import ReplicaWatch.World

/-! The cache: the status records of pools by the identity of the pool, and the credentials of namespaces. Everything
that changes its content is a `Change`, so that the content is what a list of changes leaves. -/
namespace ReplicaWatch

/-- The status of a pool as it was fetched. The stamp tells records apart that hold the same: it is the moment at
which the status came in. -/
structure Record where
  stamp : Nat
  pool : String
  ns : String
  status : Status.Pool
  deriving DecidableEq, Repr

/-- How a cache is set up. -/
structure Setup where
  /-- The namespaces whose credentials may be used. -/
  allowed : List String
  /-- The program that reports on pools. -/
  command : String
  timeout : Option Seconds
  /-- Whether a sweep holds the lock from its start to its end. -/
  serialize : Bool
  logging : Bool
  deriving DecidableEq, Repr

/-- The namespace that a value names, if it is allowed. -/
def Setup.permit (setup : Setup) (ns : Json) : Except Failure String :=
  match ns with
  | .string t =>
    if Text.isPlain t && setup.allowed.contains (Text.asString t) then .ok (Text.asString t)
    else .error (.ofCredential (.notAllowed ns))
  | .array _ => .error .wrongKind
  | .object _ => .error .wrongKind
  | _ => .error (.ofCredential (.notAllowed ns))

/-- Whether the credentials of a namespace may be used. -/
def Setup.isAllowed (setup : Setup) (ns : Json) : Except Failure Bool :=
  match setup.permit ns with
  | .ok _ => .ok true
  | .error (.cache _) => .ok false
  | .error e => .error e

theorem Setup.permit_eq_ok_iff {setup : Setup} {ns : Json} {n : String} :
    setup.permit ns = .ok n ↔ ns = .ofString n ∧ n ∈ setup.allowed := by
  constructor
  · intro h
    cases ns with
    | string t =>
      simp only [permit] at h
      split at h
      · next hp =>
        simp only [Bool.and_eq_true, List.contains_iff_mem] at hp
        cases h
        exact ⟨congrArg Json.string (Text.ofString_asString hp.1).symm, hp.2⟩
      · cases h
    | _ => cases h
  · rintro ⟨rfl, h⟩
    simp [permit, Json.ofString, h]

structure Cache where
  setup : Setup
  known : Ledger String Credentials
  records : Ledger String Record
  locked : Bool

/-- A change of the content of a cache. -/
inductive Change where
  | stored (uid : String) (record : Record)
  | refreshed (uid : String) (record : Record)
  | removed (uid : String)
  | cleared
  | learned (ns : String) (credentials : Credentials)
  | forgot (ns : String)
  | forgotAll
  deriving DecidableEq, Repr

namespace Cache

/-- A cache that holds nothing. -/
def new (setup : Setup) : Cache := ⟨setup, ∅, ∅, false⟩

def apply (c : Cache) : Change → Cache
  | .stored uid record => { c with records := c.records.insert uid record }
  | .refreshed uid record => { c with records := c.records.insert uid record }
  | .removed uid => { c with records := c.records.erase uid }
  | .cleared => { c with records := ∅ }
  | .learned ns credentials => { c with known := c.known.insert ns credentials }
  | .forgot ns => { c with known := c.known.erase ns }
  | .forgotAll => { c with known := ∅ }

@[simp] theorem apply_setup (c : Cache) (change : Change) : (c.apply change).setup = c.setup := by
  cases change <;> rfl

@[simp] theorem apply_locked (c : Cache) (change : Change) : (c.apply change).locked = c.locked := by
  cases change <;> rfl

/-- Whether the record at an identity is this very one, and not one that was written since. -/
def stillHolds (c : Cache) (uid : String) (record : Record) : Bool :=
  (c.records.get? uid).any fun r => r.stamp == record.stamp

end Cache
end ReplicaWatch
