import ReplicaWatch.Cache.Session

/-! Resolving the credentials of a namespace. What was found is kept until it is invalidated or asked for afresh;
what was not found is not. -/
namespace ReplicaWatch.Session

/-- Asks the cluster for an object. -/
def ask (s : Session) (name : ObjectName) : Response × Session :=
  (s.world.respond name, s.note (.asked name))

/-- Looks credentials up: first the key and then the monitor. -/
def lookup (s : Session) (ns : String) : Except Failure Credentials × Session :=
  let (response, s) := s.ask ⟨.secret, ns, Credentials.secretName⟩
  match Credentials.keyOf ns response with
  | .error e => (.error e, s)
  | .ok key =>
    let (response, s) := s.ask ⟨.configuration, ns, Credentials.configName⟩
    match Credentials.monitorOf ns response with
    | .error e => (.error e, s)
    | .ok monitor => (.ok ⟨monitor, Credentials.clientId, key⟩, s)

/-- What the log says of credentials that were found. -/
def foundText (ns monitor : String) : String := s!"Resolved rbd credentials for namespace {ns} (monitor {monitor})"

/-- What the log says where no credentials were found. -/
def unfoundText (cause : CredentialFailure) : String := s!"Failed to resolve rbd credentials: {cause.message}"

/-- Looks credentials up and keeps them. -/
def learn (s : Session) (ns : String) : Except Failure Credentials × Session :=
  match s.lookup ns with
  | (.ok c, s) =>
    (.ok c, (s.change (.learned ns c)).log .info (foundText ns c.monitor))
  | (.error e, s) =>
    match e with
    | .cache (.credential cause) => (.error e, s.log .error (unfoundText cause))
    | _ => (.error e, s)

/-- The credentials of an allowed namespace. -/
def resolvePermitted (s : Session) (ns : String) (refresh : Bool) : Except Failure Credentials × Session :=
  match s.cache.known.get? ns with
  | some c => if refresh then s.learn ns else (.ok c, s)
  | none => s.learn ns

/-- The credentials of a namespace. -/
def resolve (s : Session) (ns : Json) (refresh : Bool) : Except Failure Credentials × Session :=
  match s.cache.setup.permit ns with
  | .error e => (.error e, s)
  | .ok ns => s.resolvePermitted ns refresh

/-- Forgets the credentials of a namespace, or all of them if none is given. Half of a surrogate pair is part of no
name of a namespace. An array or an object is no name either, which shows only where there is something to forget.
-/
def invalidate (s : Session) (ns : Json) : Except Failure Unit × Session :=
  match ns with
  | .null => (.ok (), s.change .forgotAll)
  | .string t => (.ok (), if Text.isPlain t then s.change (.forgot (Text.asString t)) else s)
  | .array _ => (if s.cache.known.entries.isEmpty then .ok () else .error .wrongKind, s)
  | .object _ => (if s.cache.known.entries.isEmpty then .ok () else .error .wrongKind, s)
  | _ => (.ok (), s)

end ReplicaWatch.Session
