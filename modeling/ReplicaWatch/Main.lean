import ReplicaWatch.Release

/-! The command line: it prints the version. No registry of packages is at hand. -/
namespace ReplicaWatch

def registry (_ : String) : Option String := none

end ReplicaWatch

def main : IO Unit := IO.println (ReplicaWatch.Release.version ReplicaWatch.registry)
