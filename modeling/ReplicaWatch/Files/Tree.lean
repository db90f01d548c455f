import ReplicaWatch.Files.Path

/-! Trees of directories, files and symbolic links, and how a path is followed through a tree. The working directory
is the top of its tree; there is nothing above it. -/
namespace ReplicaWatch.Files

/-- Where an entry lies: the names from the top down. -/
abbrev Location := List String

inductive Node where
  | directory (mode : Nat)
  | file (mode : Nat) (text : String)
  | link (target : String)
  deriving DecidableEq, Repr

structure Tree where
  entries : List (Location × Node)
  deriving DecidableEq, Repr

def directoryMode : Nat := 0o755

namespace Tree

def empty : Tree := ⟨[]⟩

/-- What lies at a location; at the top there is always a directory. -/
def node? (t : Tree) (l : Location) : Option Node :=
  if l = [] then some (.directory directoryMode) else t.entries.lookup l

def isDirectory (t : Tree) (l : Location) : Bool :=
  match t.node? l with
  | some (.directory _) => true
  | _ => false

/-- Puts an entry where there is none. -/
def add (t : Tree) (l : Location) (n : Node) : Tree := ⟨t.entries ++ [(l, n)]⟩

/-- Sets the text of a file. -/
def setText (t : Tree) (l : Location) (text : String) : Tree :=
  ⟨t.entries.map fun e =>
    match e.2 with
    | .file mode old => (e.1, .file mode (if e.1 = l then text else old))
    | _ => e⟩

/-- The entries by their paths, in the order of the paths. -/
def listing (t : Tree) : List (String × Node) :=
  (t.entries.map fun e => ("/".intercalate e.1, e.2)).mergeSort fun a b => a.1 ≤ b.1

end Tree

/-- What a path is followed for. Only a directory that is to be made may not be reached through a link, and a file
that is to be made may not be written with a slash at its end. -/
inductive Purpose where
  | inspect
  | makeDirectory
  | makeFile
  deriving DecidableEq, Repr

/-- The reasons for which a path leads nowhere. -/
inductive Obstacle where
  | missing
  | occupied
  | notDirectory
  | isDirectory
  | nameTooLong
  | tooManyLinks
  deriving DecidableEq, Repr

/-- The system's number for an obstacle. -/
def Obstacle.number : Obstacle → Nat
  | missing => 2
  | occupied => 17
  | notDirectory => 20
  | isDirectory => 21
  | nameTooLong => 36
  | tooManyLinks => 40

/-- The end of a path: an entry, or a free place in a directory. -/
inductive Spot where
  | found (l : Location)
  | vacant (parent : Location) (name : String)
  deriving DecidableEq, Repr

/-- The most links that may be followed on one way. -/
def linkLimit : Nat := 40

/-- The most bytes of a name. -/
def nameLimit : Nat := 255

/-- The most bytes of a path. -/
def pathLimit : Nat := 4095

/-- Where a link's target starts. -/
def startOf (target : String) (here : Location) : Location :=
  if target.startsWith "/" then [] else here

/-- Follows names from a location, with a number of links left. -/
def Tree.walk (t : Tree) (purpose : Purpose) (links : Nat) (here : Location) : List String → Except Obstacle Spot
  | [] => .ok (.found here)
  | name :: rest =>
    if !t.isDirectory here then .error .notDirectory
    else if name = "" || name = "." then t.walk purpose links here rest
    else if name = ".." then t.walk purpose links here.dropLast rest
    else if purpose = .makeFile && !rest.isEmpty && rest.all String.isEmpty then .error .isDirectory
    else if nameLimit < name.utf8ByteSize then .error .nameTooLong
    else
      match t.node? (here ++ [name]) with
      | none => if rest.all String.isEmpty then .ok (.vacant here name) else .error .missing
      | some (.link target) =>
        if purpose = .makeDirectory && rest.isEmpty then .ok (.found (here ++ [name]))
        else
          match links with
          | 0 => .error .tooManyLinks
          | links + 1 => t.walk purpose links (startOf target here) (names target ++ rest)
      | some _ => t.walk purpose links (here ++ [name]) rest
termination_by names => (links, names.length)

/-- Follows a path from the top. -/
def Tree.find (t : Tree) (purpose : Purpose) (p : Path) : Except Obstacle Spot :=
  if pathLimit < p.text.utf8ByteSize then .error .nameTooLong
  else t.walk purpose linkLimit [] p.parts

end ReplicaWatch.Files
