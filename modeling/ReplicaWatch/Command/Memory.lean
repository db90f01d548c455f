import ReplicaWatch.Command

/-! A command line for logs, made in a memory of lists that are written to in place. The arguments are copied; all
of the copy but its last argument is put aside and scanned, and what is hidden is overwritten in the copy. -/
namespace ReplicaWatch.Command

/-- Lists of arguments in the order in which they came to be; each is known by its place. -/
abbrev Memory := List (List String)

namespace Memory

/-- Makes a new list: its place, and the memory with it. -/
def allocate (m : Memory) (args : List String) : Nat × Memory := (m.length, m ++ [args])

def read (m : Memory) (place : Nat) : List String := m.getD place []

/-- Overwrites one argument of the list at a place. -/
def write (m : Memory) (place i : Nat) (arg : String) : Memory := m.modify place (·.set i arg)

end Memory

/-- A round of the scan: if the argument that is scanned is `--key`, the one behind it is hidden in the copy. -/
def hideNext (scanned copy : Nat) (m : Memory) (i : Nat) : Memory :=
  if (m.read scanned)[i]? = some keyOption then m.write copy (i + 1) hidden else m

/-- Makes the command line of the arguments at a place. -/
def render (m : Memory) (args : Nat) : String × Memory :=
  let (copy, m) := m.allocate (m.read args)
  let (scanned, m) := m.allocate (m.read copy).dropLast
  let m := (List.range (m.read scanned).length).foldl (hideNext scanned copy) m
  (" ".intercalate (m.read copy), m)

end ReplicaWatch.Command
