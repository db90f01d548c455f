import ReplicaWatch.Cache.Fetch

/-! Sweeps: refreshing every record. A sweep goes through the records that are there at its start. One that holds the
lock writes what it fetched; one that does not hold it gives way to whoever wrote the record since. -/
namespace ReplicaWatch.Session

/-! What the log says of a sweep. -/

def sweepStartedText : String := "RBD mirror store resync started"

def sweepEndedText (tally : Tally) : String :=
  s!"RBD mirror store resync ended: {tally.refreshed} refreshed, {tally.failed} failed, {tally.skipped} skipped"

def unrefreshedText (uid : String) (cause : CacheFailure) : String := s!"Resync of pool {uid} failed: {cause.message}"

/-- Refreshes one record and counts what came of it. Failures of the cache are logged, others end the sweep. -/
def refresh (s : Session) (meanwhile : Meanwhile) (held : Bool) (uid : String) (record : Record) (tally : Tally) :
    Except Failure Tally × Session :=
  match s.fetchRecord meanwhile (.ofString record.pool) (.ofString record.ns) with
  | (.ok fresh, s) =>
    if held || s.cache.stillHolds uid record then
      (.ok { tally with refreshed := tally.refreshed + 1 }, s.change (.refreshed uid fresh))
    else (.ok { tally with skipped := tally.skipped + 1 }, s)
  | (.error e, s) =>
    match e with
    | .cache cause =>
      (.ok { tally with failed := tally.failed + 1 }, s.log .error (unrefreshedText uid cause))
    | _ => (.error e, s)

/-- Refreshes records in order. -/
def sweep (s : Session) (meanwhile : Meanwhile) (held : Bool) (tally : Tally) :
    List (String × Record) → Except Failure Tally × Session
  | [] => (.ok tally, s)
  | (uid, record) :: rest =>
    match s.refresh meanwhile held uid record tally with
    | (.error e, s) => (.error e, s)
    | (.ok tally, s) => s.sweep meanwhile held tally rest

/-- Refreshes every record, under the lock or not as the cache is set up. -/
def resync (s : Session) (meanwhile : Meanwhile) : Except Failure Tally × Session :=
  let s := s.log .info sweepStartedText
  let held := s.cache.setup.serialize
  match (s.setLocked held).sweep meanwhile held ⟨0, 0, 0⟩ s.cache.records.entries with
  | (.error e, s) => (.error e, s.setLocked false)
  | (.ok tally, s) => (.ok tally, (s.setLocked false).log .info (sweepEndedText tally))

end ReplicaWatch.Session
