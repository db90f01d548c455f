import ReplicaWatch.BlockPool
import ReplicaWatch.Cache.Fetch

/-! Writing to the store: adding the status of a pool, removing it, and replacing everything. -/
namespace ReplicaWatch.Session

/-- What the log says of a pool without mirroring. -/
def skippedText (ns name : Json) : String :=
  s!"Skipping rbd mirror status update for pool {ns.asText}/{name.asText} because mirroring is disabled"

/-- Fetches and stores the status of the pool that an object describes; a pool without mirroring is left alone. -/
def add (s : Session) (meanwhile : Meanwhile) (obj : Json) : Except Failure Unit × Session :=
  match BlockPool.ofJson obj with
  | .error e => (.error e, s)
  | .ok pool =>
    if pool.mirrored then
      match s.fetchRecord meanwhile pool.name pool.ns with
      | (.error e, s) => (.error e, s)
      | (.ok record, s) => (.ok (), s.change (.stored pool.uid record))
    else (.ok (), s.log .info (skippedText pool.ns pool.name))

/-- Removes the record of the pool that an object describes. -/
def delete (s : Session) (obj : Json) : Except Failure Unit × Session :=
  match BlockPool.uidOf obj with
  | .error e => (.error e, s)
  | .ok uid => (.ok (), s.change (.removed uid))

/-- Adds items in order, up to the first that fails. -/
def addAll (s : Session) (meanwhile : Meanwhile) : List Json → Except Failure Unit × Session
  | [] => (.ok (), s)
  | item :: rest =>
    match s.add meanwhile item with
    | (.error e, s) => (.error e, s)
    | (.ok _, s) => s.addAll meanwhile rest

/-- The items of a value: of an array its items, of a text its characters, of an object its keys. -/
def itemsOf? : Json → Option (List Json)
  | .array items => some items
  | .string t => some (t.map fun c => .string [c])
  | .object members => some (members.map fun m => .string m.1)
  | _ => none

/-- Empties the store and adds items in order, up to the first that fails. -/
def replace (s : Session) (meanwhile : Meanwhile) (items : Json) : Except Failure Unit × Session :=
  let s := s.change .cleared
  match itemsOf? items with
  | some items => s.addAll meanwhile items
  | none => (.error .wrongKind, s)

end ReplicaWatch.Session
