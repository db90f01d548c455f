import ReplicaWatch.Credentials.Basic

/-! The status command: its arguments, and how they are shown in logs, where what follows `--key` is hidden. -/
namespace ReplicaWatch.Command

/-- The arguments of the command that reports on a pool. -/
def status (command pool : String) (c : Credentials) : List String :=
  [command, "mirror", "pool", "status", pool, "--verbose", "--format", "json", "-m", c.monitor,
    "--id", c.id, "--key", c.key, "--debug-rbd", "0"]

def keyOption : String := "--key"

def hidden : String := "<redacted>"

/-- Hides each argument that follows `--key`; `secret` tells whether the first one does. -/
def hideAfter (secret : Bool) : List String → List String
  | [] => []
  | arg :: rest => (if secret then hidden else arg) :: hideAfter (arg == keyOption) rest

/-- The arguments with every key hidden. -/
def redacted (args : List String) : List String := hideAfter false args

/-- A command line for logs. -/
def line (args : List String) : String := " ".intercalate (redacted args)

end ReplicaWatch.Command
