import ApiAtlas.Server.Message

/-! # Sessions

A session is one conversation over lines of text. It has to be opened by its first message; a
client that starts with anything else is turned away, and one that leaves without opening it counts
as a failure. What is published may change between two messages, so it is given with every line.
-/

namespace ApiAtlas.Server

/-- Where a conversation stands. -/
inductive Session where
  | unopened
  | opened
  | refused
deriving DecidableEq, Repr

namespace Session

/-- Take in a line. The result holds the line to answer with, if there is one. Lines that are no
messages are passed over. -/
def receive (published : Option Catalog) (session : Session) (line : String) :
    Session × Option String :=
  match session, Message.parse? line with
  | session, none => (session, none)
  | opened, some message => (opened, message.answer? published)
  | unopened, some message =>
    if message.opensSession then (opened, message.answer? published) else (refused, none)
  | refused, some _ => (refused, none)

/-- How the server ends when its client leaves. -/
def exitCode : Session → Nat
  | opened => 0
  | unopened => 1
  | refused => 1

end Session

end ApiAtlas.Server
