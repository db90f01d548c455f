import ReplicaWatch.Cache.Session

/-! The record that a trace leaves for readers: requests, commands and log lines in the order in which they began,
each command together with the replies that came in while it ran. -/
namespace ReplicaWatch.Trace

inductive Entry where
  | asked (name : ObjectName)
  | command (args : List String) (timeout : Option Seconds) (locked : Bool) (replies : List Reply)
  | logged (line : Log.Line)

/-- The entries of the end of a trace, with the replies of commands that began before it, the last to begin first. -/
structure Tail where
  replies : List (List Reply)
  entries : List Entry

/-- Puts an event before the end of a trace. -/
def Tail.before (tail : Tail) : Event → Tail
  | .asked name => { tail with entries := .asked name :: tail.entries }
  | .started args timeout locked =>
    { replies := tail.replies.tail
      entries := .command args timeout locked (tail.replies.headD []) :: tail.entries }
  | .ended _ replies => { tail with replies := replies :: tail.replies }
  | .logged line => { tail with entries := .logged line :: tail.entries }
  | .changed _ => tail

/-- The entries of a trace. -/
def entries (events : List Event) : List Entry :=
  (events.foldr (fun e (tail : Tail) => tail.before e) (Tail.mk [] [])).entries

end ReplicaWatch.Trace
