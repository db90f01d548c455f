/-! The version of the program, as the registry of installed packages knows it. -/
namespace ReplicaWatch.Release

def package : String := "rbd-mirror-cache"

/-- The version that a registry has for the package. -/
def version (registry : String → Option String) : String := (registry package).getD "unknown"

end ReplicaWatch.Release
