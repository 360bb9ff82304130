import ApiAtlas.Json.Reader
import ApiAtlas.Json.Writer
import ApiAtlas.Server.Reply

/-! # Messages between clients and the server

Client and server exchange one Json object to a line. A request has an identity, which its reply
repeats; a notification has none and gets no reply. The first request opens the session.
-/

namespace ApiAtlas.Server

open Json

/-- A message of a client. -/
structure Message where
  id : Option Json
  request : Request

/-- The message that a line writes. -/
def Message.parse? (line : String) : Option Message := do
  let value ← Json.parse? line
  let method ← value.strField? "method"
  return ⟨value.get? "id", ⟨method, value.get? "params"⟩⟩

/-- A reply with the identity of its request, on one line. -/
def Reply.encode (id : Json) (reply : Reply) : String :=
  match reply.toJson with
  | .obj fields => (ofFields ([("jsonrpc", str "2.0"), ("id", id)] ++ fields)).compact
  | value => value.compact

/-- Whether a message opens a session. -/
def Message.opensSession (message : Message) : Bool :=
  message.id.isSome && message.request.method == "initialize"

/-- The line that answers a message. A notification is not answered. -/
def Message.answer? (published : Option Catalog) (message : Message) : Option String :=
  message.id.map fun id =>
    if message.opensSession then greeting.encode id
    else (reply published message.request).encode id

end ApiAtlas.Server
