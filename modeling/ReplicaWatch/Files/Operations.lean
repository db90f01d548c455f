import ReplicaWatch.Failure
import ReplicaWatch.Files.Tree

/-! Operations on a tree: asking what a path leads to, making directories and files, writing. Nothing is removed, and
what is there keeps its mode. -/
namespace ReplicaWatch.Files

/-- An error about a path. -/
def fault (e : Obstacle) (p : Path) : SystemFault := ⟨e.number, p.text⟩

namespace Tree

/-- The location that a path leads to. -/
def locate (t : Tree) (p : Path) : Except Obstacle Location :=
  match t.find .inspect p with
  | .ok (.found l) => .ok l
  | .ok (.vacant _ _) => .error .missing
  | .error e => .error e

/-- Whether an obstacle means that there is nothing, while a name that is too long is an error. -/
def meansAbsence : Obstacle → Bool
  | .missing => true
  | .notDirectory => true
  | .tooManyLinks => true
  | _ => false

/-- Whether a path leads to something. -/
def leadsSomewhere (t : Tree) (p : Path) : Except SystemFault Bool :=
  match t.locate p with
  | .ok _ => .ok true
  | .error e => if meansAbsence e then .ok false else .error (fault e p)

/-- Whether a path leads to a directory. -/
def leadsToDirectory (t : Tree) (p : Path) : Except SystemFault Bool :=
  match t.locate p with
  | .ok l => .ok (t.isDirectory l)
  | .error e => if meansAbsence e then .ok false else .error (fault e p)

/-- Makes one directory. -/
def makeDirectory (t : Tree) (p : Path) : Except Obstacle Tree :=
  match t.find .makeDirectory p with
  | .ok (.found _) => .error .occupied
  | .ok (.vacant parent name) => .ok (t.add (parent ++ [name]) (.directory directoryMode))
  | .error e => .error e

/-- Accepts that a directory could not be made if there is one. -/
def acceptDirectory (t : Tree) (p : Path) (e : Obstacle) : Except SystemFault Unit × Tree :=
  match t.leadsToDirectory p with
  | .ok true => (.ok (), t)
  | .ok false => (.error (fault e p), t)
  | .error other => (.error other, t)

/-- Makes one directory unless there is one. -/
def ensureDirectory (t : Tree) (p : Path) : Except SystemFault Unit × Tree :=
  match t.makeDirectory p with
  | .ok t => (.ok (), t)
  | .error .missing => (.error (fault .missing p), t)
  | .error e => t.acceptDirectory p e

/-- Makes a directory with those above it; its parts are given from the last to the first. -/
def ensureDirectoriesUp (t : Tree) (lead : String) : List String → Except SystemFault Unit × Tree
  | [] => t.ensureDirectory ⟨lead, []⟩
  | name :: above =>
    let p := Path.mk lead (name :: above).reverse
    match t.makeDirectory p with
    | .ok t => (.ok (), t)
    | .error .missing =>
      match t.ensureDirectoriesUp lead above with
      | (.ok _, t) => t.ensureDirectory p
      | (.error e, t) => (.error e, t)
    | .error e => t.acceptDirectory p e

/-- Makes a directory with those above it. -/
def ensureDirectories (t : Tree) (p : Path) : Except SystemFault Unit × Tree :=
  t.ensureDirectoriesUp p.lead p.parts.reverse

/-- Makes an empty file unless the path leads to something. -/
def touch (t : Tree) (p : Path) (mode : Nat) : Except SystemFault Unit × Tree :=
  match t.locate p with
  | .ok _ => (.ok (), t)
  | .error _ =>
    match t.find .makeFile p with
    | .ok (.found _) => (.ok (), t)
    | .ok (.vacant parent name) => (.ok (), t.add (parent ++ [name]) (.file mode ""))
    | .error e => (.error (fault e p), t)

/-- Writes the text of a file that is there. -/
def write (t : Tree) (p : Path) (text : String) : Except SystemFault Unit × Tree :=
  match t.locate p with
  | .ok l => if t.isDirectory l then (.error (fault .isDirectory p), t) else (.ok (), t.setText l text)
  | .error e => (.error (fault e p), t)

end Tree
end ReplicaWatch.Files
