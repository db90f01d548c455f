import ReplicaWatch.Cache.Steps

/-! What a thread does to take a step, action by action. Other threads may act before and after each action, so that
only what a single action does happens at once. The lock is that of the store; the credentials have a lock of their
own, which is only ever held for one action. -/
namespace ReplicaWatch

/-- What a thread does at once with what all threads share. -/
inductive Action where
  | ask (name : ObjectName)
  | consult
  | look
  | change (c : Change)
  | log (level : Log.Level) (text : String)
  | report (line : Log.Line)
  | arrange (f : World → World)

namespace Action

/-- What a thread learns from an action. -/
def Result : Action → Type
  | ask _ => Response
  | consult => Ledger String Credentials
  | look => Ledger String Record
  | _ => Unit

def perform (s : Session) : (a : Action) → a.Result × Session
  | ask name => s.ask name
  | consult => (s.cache.known, s)
  | look => (s.cache.records, s)
  | change c => ((), s.change c)
  | log level text => ((), s.log level text)
  | report line => ((), s.note (.logged line))
  | arrange f => ((), { s with world := f s.world })

end Action

/-- What is left for a thread to do. After a command it knows how the command ended, and the moment of that. -/
inductive Program (α : Type) where
  | done (a : α)
  | act (a : Action) (next : a.Result → Program α)
  | acquire (next : Program α)
  | release (next : Program α)
  | call (pool : String) (args : List String) (next : Ending → Nat → Program α)

namespace Program

/-- Goes on with what a program comes to. -/
def andThen {α β : Type} (f : α → Program β) : Program α → Program β
  | done a => f a
  | act a next => act a fun r => (next r).andThen f
  | acquire next => acquire (next.andThen f)
  | release next => release (next.andThen f)
  | call pool args next => call pool args fun ending moment => (next ending moment).andThen f

instance : Monad Program where
  pure := done
  bind p f := p.andThen f

def perform (a : Action) : Program a.Result := act a done

def log (level : Log.Level) (text : String) : Program Unit := perform (.log level text)

def change (c : Change) : Program Unit := perform (.change c)

/-- Does something while it holds the lock. -/
def underLock {α : Type} (p : Program α) : Program α := acquire (p.andThen fun a => release (done a))

/-! ## Credentials -/

def lookup (ns : String) : Program (Except Failure Credentials) := do
  let response ← perform (.ask ⟨.secret, ns, Credentials.secretName⟩)
  match Credentials.keyOf ns response with
  | .error e => return .error e
  | .ok key =>
    let response ← perform (.ask ⟨.configuration, ns, Credentials.configName⟩)
    match Credentials.monitorOf ns response with
    | .error e => return .error e
    | .ok monitor => return .ok ⟨monitor, Credentials.clientId, key⟩

def learn (ns : String) : Program (Except Failure Credentials) := do
  match ← lookup ns with
  | .ok c =>
    change (.learned ns c)
    log .info (Session.foundText ns c.monitor)
    return .ok c
  | .error (.cache (.credential cause)) =>
    log .error (Session.unfoundText cause)
    return .error (.cache (.credential cause))
  | .error e => return .error e

def resolvePermitted (ns : String) (refresh : Bool) : Program (Except Failure Credentials) := do
  let known ← perform .consult
  match known.get? ns with
  | some c => if refresh then learn ns else return .ok c
  | none => learn ns

def resolve (setup : Setup) (ns : Json) (refresh : Bool) : Program (Except Failure Credentials) :=
  match setup.permit ns with
  | .error e => return .error e
  | .ok ns => resolvePermitted ns refresh

def invalidate (ns : Json) : Program (Except Failure Unit) :=
  match ns with
  | .null => do
    change .forgotAll
    return .ok ()
  | .string t =>
    if Text.isPlain t then do
      change (.forgot (Text.asString t))
      return .ok ()
    else return .ok ()
  | .array _ => stumble
  | .object _ => stumble
  | _ => return .ok ()
where
  stumble : Program (Except Failure Unit) := do
    let known ← perform .consult
    return if known.entries.isEmpty then .ok () else .error .wrongKind

/-! ## The status of a pool -/

def logFailure (exit : String) (args : List String) (output : List UInt8) : Program Unit := do
  log .debug (Session.statusText exit)
  log .debug (Session.argsText args)
  if output.isEmpty then return () else log .debug (Session.outputText output)

def conclude (setup : Setup) (pool : String) (args : List String) : Ending → Program (Except Failure Status.Pool)
  | .finished output =>
    match Status.decode output with
    | .ok status => return .ok status
    | .error faults => return .error (.ofFetch (.unreadable pool faults))
  | .exited code output => do
    logFailure (toString code) args output
    return .error (.ofFetch (.command pool (Session.exitText code) (some code) output))
  | .timedOut output => do
    logFailure "None" args output
    return .error (.ofFetch (.command pool (Session.timeoutText setup.timeout) none output))
  | .unstarted number =>
    return .error (.ofFetch (.command pool (SystemFault.mk number setup.command).message none []))
  | .uncallable fault => return .error (.call fault)

/-- Fetches the status of a pool, and tells the moment at which it came in. -/
def fetch (setup : Setup) (pool : String) (c : Credentials) : Program (Except Failure (Nat × Status.Pool)) :=
  if c.isEmpty then return .error (.ofFetch (.incompleteCredentials pool))
  else
    let args := Command.status setup.command pool c
    .call pool args fun ending moment => do
      return (← conclude setup pool args ending).map fun status => (moment, status)

def fetchRecord (setup : Setup) (pool ns : Json) : Program (Except Failure Record) :=
  match setup.permit ns with
  | .error e => return .error e
  | .ok ns => do
    match ← resolvePermitted ns false with
    | .error e => return .error e
    | .ok c =>
      match pool with
      | .string pool =>
        let pool := Text.asString pool
        return (← fetch setup pool c).map fun (moment, status) => ⟨moment, pool, ns, status⟩
      | _ => return .error .wrongKind

/-! ## Writing to the store -/

/-- Only the writing itself needs the lock. -/
def add (setup : Setup) (obj : Json) : Program (Except Failure Unit) :=
  match BlockPool.ofJson obj with
  | .error e => return .error e
  | .ok pool => do
    if pool.mirrored then
      match ← fetchRecord setup pool.name pool.ns with
      | .error e => return .error e
      | .ok record =>
        underLock (change (.stored pool.uid record))
        return .ok ()
    else
      log .info (Session.skippedText pool.ns pool.name)
      return .ok ()

def delete (obj : Json) : Program (Except Failure Unit) :=
  match BlockPool.uidOf obj with
  | .error e => return .error e
  | .ok uid => do
    underLock (change (.removed uid))
    return .ok ()

def addAll (setup : Setup) : List Json → Program (Except Failure Unit)
  | [] => return .ok ()
  | item :: rest => do
    match ← add setup item with
    | .error e => return .error e
    | .ok _ => addAll setup rest

def replace (setup : Setup) (items : Json) : Program (Except Failure Unit) := do
  underLock (change .cleared)
  match Session.itemsOf? items with
  | some items => addAll setup items
  | none => return .error .wrongKind

/-! ## Sweeps -/

/-- Writes a fetched record unless somebody else wrote since. Whoever holds the lock already need not look. -/
def commit (held : Bool) (uid : String) (record fresh : Record) (tally : Tally) : Program Tally :=
  if held then do
    change (.refreshed uid fresh)
    return { tally with refreshed := tally.refreshed + 1 }
  else underLock do
    let records ← perform .look
    if (records.get? uid).any fun r => r.stamp == record.stamp then
      change (.refreshed uid fresh)
      return { tally with refreshed := tally.refreshed + 1 }
    else return { tally with skipped := tally.skipped + 1 }

def refresh (setup : Setup) (held : Bool) (uid : String) (record : Record) (tally : Tally) :
    Program (Except Failure Tally) := do
  match ← fetchRecord setup (.ofString record.pool) (.ofString record.ns) with
  | .ok fresh => return .ok (← commit held uid record fresh tally)
  | .error (.cache cause) =>
    log .error (Session.unrefreshedText uid cause)
    return .ok { tally with failed := tally.failed + 1 }
  | .error e => return .error e

def sweep (setup : Setup) (held : Bool) (tally : Tally) : List (String × Record) → Program (Except Failure Tally)
  | [] => return .ok tally
  | (uid, record) :: rest => do
    match ← refresh setup held uid record tally with
    | .error e => return .error e
    | .ok tally => sweep setup held tally rest

/-- Refreshes what is stored. A sweep that is to hold the lock takes it before it looks, and gives it back however it
ends; any other holds it only while it looks. -/
def sweepStored (setup : Setup) : Program (Except Failure Tally) :=
  if setup.serialize then underLock do
    let records ← perform .look
    sweep setup true ⟨0, 0, 0⟩ records.entries
  else do
    let records ← underLock (perform .look)
    sweep setup false ⟨0, 0, 0⟩ records.entries

def resync (setup : Setup) : Program (Except Failure Tally) := do
  log .info Session.sweepStartedText
  match ← sweepStored setup with
  | .error e => return .error e
  | .ok tally =>
    log .info (Session.sweepEndedText tally)
    return .ok tally

/-! ## Steps -/

def answerEvent (ns name : String) : Except Failure Unit → Program (Except Failure Unit)
  | .error (.cache e) => do
    perform (.report (Session.unfollowed ns name))
    return .error (.retry e.message (some e) 30)
  | other => return other

def handle (setup : Setup) (event obj : Json) (ns name : String) : Program (Except Failure Unit) :=
  match event with
  | .object _ =>
    match event.member? "type" with
    | none => return .error .missingKey
    | some type => (if Session.isDeletion type then delete obj else add setup obj) >>= answerEvent ns name
  | _ => return .error .wrongKind

/-- The reply with what a program comes to. -/
def reply {α : Type} (f : α → Answer) (p : Program (Except Failure α)) : Program Reply := do
  match ← p with
  | .ok a => return .answer (f a)
  | .error e => return .failure e

/-- What a thread does to take a step. -/
def ofStep (setup : Setup) : Step → Program Reply
  | .add obj => reply (fun _ => .done) (add setup obj)
  | .update obj => reply (fun _ => .done) (add setup obj)
  | .delete obj => reply (fun _ => .done) (delete obj)
  | .replace items => reply (fun _ => .done) (replace setup items)
  | .resync => reply .swept (resync setup)
  | .snapshot => do
    let records ← underLock (perform .look)
    return .answer (.records records.entries)
  | .clearSnapshot => return .answer .done
  | .list => return .answer .noItems
  | .listKeys => return .answer .noItems
  | .get _ => return .answer .absent
  | .getByKey _ => return .answer .absent
  | .isAllowed ns => reply .allowed (return setup.isAllowed ns)
  | .resolve ns refresh => reply .credentials (resolve setup ns refresh)
  | .invalidate ns => reply (fun _ => .done) (invalidate ns)
  | .setObject name response => arrange (·.setObject name response)
  | .removeObject name => arrange (·.removeObject name)
  | .setEndings pool outcomes => arrange (·.setOutcomes pool outcomes)
  | .event event obj ns name => reply (fun _ => .done) (handle setup event obj ns name)
where
  arrange (f : World → World) : Program Reply := do
    perform (.arrange f)
    return .answer .done

end Program
end ReplicaWatch
