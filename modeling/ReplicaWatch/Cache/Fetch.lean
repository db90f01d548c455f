import ReplicaWatch.Cache.Resolve
import ReplicaWatch.Command
import ReplicaWatch.Status.Decode

/-! Fetching the status of a pool: one command, and what its end means. -/
namespace ReplicaWatch.Session

/-- The session that others find while a command runs for a pool. -/
def launch (s : Session) (pool : String) (args : List String) : Session :=
  ({ s with world := (s.world.takeOutcome pool).2 } : Session).note
    (.started args s.cache.setup.timeout s.cache.locked)

/-- Runs a command for a pool, while others may take steps. -/
def run (s : Session) (meanwhile : Meanwhile) (pool : String) (args : List String) : Ending × Session :=
  let outcome := (s.world.takeOutcome pool).1
  let (replies, s) := meanwhile outcome.meanwhile (s.launch pool args)
  (outcome.ending, s.note (.ended outcome.ending replies))

/-! What the log says of a command that failed, and the reasons that its failures give. -/

def statusText (exit : String) : String := s!"rbd status: {exit}"

def argsText (args : List String) : String := s!"rbd args: {Command.line args}"

def outputText (output : List UInt8) : String := "rbd output:\n" ++ String.ofList (Utf8.decodeReplacing output)

def exitText (code : Int) : String := s!"exit status {code}"

def limitText : Option Seconds → String
  | some t => t.text
  | none => "None"

def timeoutText (limit : Option Seconds) : String := s!"timed out after {limitText limit} seconds"

/-- Logs a command that failed. -/
def logFailure (s : Session) (exit : String) (args : List String) (output : List UInt8) : Session :=
  let s := s.log .debug (statusText exit)
  let s := s.log .debug (argsText args)
  if output.isEmpty then s else s.log .debug (outputText output)

/-- What the end of a command means. That a command cannot be called is no failure of the cache. -/
def conclude (s : Session) (pool : String) (args : List String) : Ending → Except Failure Status.Pool × Session
  | .finished output =>
    match Status.decode output with
    | .ok status => (.ok status, s)
    | .error faults => (.error (.ofFetch (.unreadable pool faults)), s)
  | .exited code output =>
    (.error (.ofFetch (.command pool (exitText code) (some code) output)), s.logFailure (toString code) args output)
  | .timedOut output =>
    (.error (.ofFetch (.command pool (timeoutText s.cache.setup.timeout) none output)),
      s.logFailure "None" args output)
  | .unstarted number =>
    let fault := SystemFault.mk number s.cache.setup.command
    (.error (.ofFetch (.command pool fault.message none [])), s)
  | .uncallable fault => (.error (.call fault), s)

/-- The status of a pool. -/
def fetch (s : Session) (meanwhile : Meanwhile) (pool : String) (c : Credentials) :
    Except Failure Status.Pool × Session :=
  if c.isEmpty then (.error (.ofFetch (.incompleteCredentials pool)), s)
  else
    let args := Command.status s.cache.setup.command pool c
    let (ending, s) := s.run meanwhile pool args
    s.conclude pool args ending

/-- Fetches the status of a pool into a new record. The name of the pool has to be a text, which shows when the
command is to run. -/
def fetchRecord (s : Session) (meanwhile : Meanwhile) (pool ns : Json) : Except Failure Record × Session :=
  match s.cache.setup.permit ns with
  | .error e => (.error e, s)
  | .ok ns =>
    match s.resolvePermitted ns false with
    | (.error e, s) => (.error e, s)
    | (.ok c, s) =>
      match pool with
      | .string pool =>
        let pool := Text.asString pool
        match s.fetch meanwhile pool c with
        | (.error e, s) => (.error e, s)
        | (.ok status, s) => (.ok ⟨s.trace.length, pool, ns, status⟩, s)
      | _ => (.error .wrongKind, s)

end ReplicaWatch.Session
