import ReplicaWatch.Failure

/-! Block pools as the cluster describes them. A description is any JSON value; it has to be an object of the right
kind with an identity, a name and a namespace, while the shape of its specification is taken on trust. -/
namespace ReplicaWatch

/-- What the cache uses of a block pool. Name and namespace are whatever was set. -/
structure BlockPool where
  uid : String
  name : Json
  ns : Json
  mirrored : Bool

namespace BlockPool

/-- Whether a kind is that of block pools. -/
def isPoolKind : Json → Bool
  | .string t => t == Text.ofString "CephBlockPool"
  | _ => false

def mismatch {α : Type} (v : Json) (reason : String) : Except Failure α :=
  .error (.cache (.typeMismatch v.kind reason))

/-- The identity of an object. -/
def uidOf (v : Json) : Except Failure String :=
  match v with
  | .object _ =>
    match (v.member? "metadata").bind (·.member? "uid") with
    | some uid => if uid.isSet then .ok uid.asText else mismatch v "missing metadata.uid"
    | none => mismatch v "missing metadata.uid"
  | _ => mismatch v "not a mapping"

/-- The value of a member, null if there is none. -/
def memberOrNull (v : Json) (name : String) : Json := (v.member? name).getD .null

/-- A member of a value that need not be set; a value that is set has to be an object. -/
def memberIfSet (v : Json) (name : String) : Except Failure Json :=
  if v.isSet then
    match v with
    | .object _ => .ok (memberOrNull v name)
    | _ => .error .noMembers
  else .ok .null

/-- Whether a description asks for mirroring. -/
def wantsMirroring (v : Json) : Except Failure Bool := do
  let mirroring ← memberIfSet (memberOrNull v "spec") "mirroring"
  let enabled ← memberIfSet mirroring "enabled"
  return enabled.isSet

/-- The pool that an object describes. -/
def ofJson (v : Json) : Except Failure BlockPool :=
  match v with
  | .object _ =>
    let kind := memberOrNull v "kind"
    if isPoolKind kind then do
      let uid ← uidOf v
      let metadata := memberOrNull v "metadata"
      let name := memberOrNull metadata "name"
      let ns := memberOrNull metadata "namespace"
      if !name.isSet || !ns.isSet then mismatch v "missing metadata name or namespace"
      else
        let mirrored ← wantsMirroring v
        return ⟨uid, name, ns, mirrored⟩
    else mismatch v s!"kind is {kind.inMessage}"
  | _ => mismatch v "not a mapping"

end BlockPool
end ReplicaWatch
