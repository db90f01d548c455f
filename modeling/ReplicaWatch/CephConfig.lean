import ReplicaWatch.Files.Operations

/-! The configuration that the status command needs: a directory with a configuration file and an empty keyring. What
is there already is never changed. -/
namespace ReplicaWatch.CephConfig

open Files

/-- The text of a new configuration file. -/
def content : String :=
  "[global]\nauth_cluster_required = cephx\nauth_service_required = cephx\nauth_client_required = cephx\n"

def configMode : Nat := 0o600

def keyringMode : Nat := 0o644

def configPath (root : Path) : Path := root.child "ceph.conf"

def keyringPath (root : Path) : Path := root.child "keyring"

/-- What setting up a directory comes to: the path of the configuration file, the tree, and the lines logged. -/
structure Setting where
  result : Except Failure String
  tree : Tree
  logged : List String

/-- A failure to make a file or a directory. -/
def failed (p : Path) (e : SystemFault) : Failure := .cache (.bootstrap p.text e.message)

/-- Makes a file with the given text. -/
def create (t : Tree) (p : Path) (text : String) : Except SystemFault Unit × Tree :=
  match t.touch p configMode with
  | (.error e, t) => (.error e, t)
  | (.ok _, t) => t.write p text

/-- Makes the keyring, the last of the three. -/
def ensureKeyring (t : Tree) (root : Path) (logged : List String) : Setting :=
  match t.touch (keyringPath root) keyringMode with
  | (.ok _, t) => ⟨.ok (configPath root).text, t, logged⟩
  | (.error e, t) => ⟨.error (failed (keyringPath root) e), t, logged⟩

/-- Makes the configuration file unless there is one, then the keyring. -/
def ensureFiles (t : Tree) (root : Path) : Setting :=
  let config := configPath root
  match t.leadsSomewhere config with
  | .error e => ⟨.error (.system e), t, []⟩
  | .ok true => ensureKeyring t root []
  | .ok false =>
    match create t config content with
    | (.ok _, t) => ensureKeyring t root [s!"Wrote Ceph config to {config.text}"]
    | (.error e, t) => ⟨.error (failed config e), t, []⟩

/-- Sets up a directory. -/
def ensure (t : Tree) (root : String) : Setting :=
  if root.toList.contains '\x00' then ⟨.error (.value .zeroByte), t, []⟩
  else
    let root := Path.ofString root
    match t.ensureDirectories root with
    | (.error e, t) => ⟨.error (failed root e), t, []⟩
    | (.ok _, t) => ensureFiles t root

end ReplicaWatch.CephConfig
