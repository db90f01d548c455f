import ReplicaWatch.Failure
import ReplicaWatch.Number.Reading

/-! Settings, read from environment variables. -/
namespace ReplicaWatch

structure Settings where
  allowed : List String
  interval : Binary64
  timeout : Option Binary64
  serialize : Bool
  configRoot : String
  deriving DecidableEq, Repr

namespace Settings

/-- The items of a list. -/
def list (text : String) : List String := (Blank.items text.toList).map String.ofList

/-- The words for yes, in any case and with blanks around them. -/
def flag (text : String) : Bool :=
  ["1", "true", "yes", "on"].contains
    (String.ofList ((Blank.trim Blank.isSpacing text.toList).map Reading.lower))

/-- A number. -/
def number (text : String) : Except Failure Binary64 :=
  match Reading.setting? text.toList with
  | some x => .ok x
  | none => .error (.value (.notNumber text))

/-- A time limit; zero is none. -/
def limit (x : Binary64) : Option Binary64 := if x.isZero then none else some x

/-- The settings that an environment makes. -/
def read (env : List (String × String)) : Except Failure Settings := do
  let interval ← number ((env.lookup "RBD_MIRROR_RESYNC_INTERVAL").getD "60")
  let timeout ← number ((env.lookup "RBD_MIRROR_COMMAND_TIMEOUT").getD "60")
  return {
    allowed := list ((env.lookup "RBD_MIRROR_ALLOWED_NAMESPACES").getD "openshift-storage")
    interval
    timeout := limit timeout
    serialize := flag ((env.lookup "RBD_MIRROR_SERIALIZE_RESYNC").getD "true")
    configRoot := (env.lookup "CEPH_CONFIG_ROOT").getD "/etc/ceph" }

end Settings
end ReplicaWatch
