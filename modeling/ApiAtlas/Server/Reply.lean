import ApiAtlas.Request.Schema
import ApiAtlas.Tool.Answer

/-! # Replies of the server

Clients send requests with a method and parameters; every request gets one reply, a result or an
error. Errors of a tool are results, marked as errors, because the client should show them to its
user. A tool that does not exist and a method that is not served are errors of the protocol.
-/

namespace ApiAtlas.Server

open Json

/-- A request of a client. -/
structure Request where
  method : String
  params : Option Json

/-- What the server answers. -/
inductive Reply where
  | result (value : Json)
  | failure (code : Int) (message : String)

/-- A reply as an object. -/
def Reply.toJson : Reply → Json
  | result value => ofFields [("result", value)]
  | failure code message =>
    ofFields [("error", ofFields [("code", int code), ("message", str message)])]

/-- The version of the protocol that is spoken. -/
def protocolVersion : String := "2024-11-05"

/-- What clients are told about the server. -/
def instructions : String :=
  "cf-docs-mcp: Cute Framework API and topic documentation. " ++
    "Start with cf_search or cf_list_topics, then use cf_get_details or cf_get_topic " ++
    "for full documentation. Functions use the cf_ prefix, types use CF_. " ++
    "The index is built at startup; tools report 'Index not available' until it is ready."

/-- The reply to a client that opens a session. -/
def greeting : Reply :=
  .result (ofFields
    [("capabilities", ofFields [("tools", ofFields [])]),
      ("instructions", str instructions),
      ("protocolVersion", str protocolVersion),
      ("serverInfo", ofFields [("name", str "rmcp"), ("version", str "1.8.0")])])

/-- A tool as clients see it. -/
def toolEntry (tool : Tool) : Json :=
  ofFields [("name", str tool.name), ("description", str tool.description),
    ("inputSchema", tool.form.schema)]

/-- A text as the result of a tool. -/
def textResult (text : String) (isError : Bool) : Json :=
  ofFields [("content", arr [ofFields [("type", str "text"), ("text", str text)]]),
    ("isError", bool isError)]

/-- What a client is told when a call of a tool has no answer. -/
def errorText : CallError → String
  | .badArguments error => "failed to deserialize parameters: " ++ error.message
  | error => error.message

/-- The reply to a call of a tool. -/
def callTool (published : Option Catalog) (name : String) (arguments : Json) : Reply :=
  match Tool.find? name with
  | none => .failure (-32602) "tool not found"
  | some tool =>
    match tool.call published arguments with
    | .ok text => .result (textResult text false)
    | .error error => .result (textResult (errorText error) true)

/-- The tool and the arguments that the parameters of a call name. Missing arguments are an empty
object. -/
def callParams? (params : Json) : Option (String × Json) := do
  let name ← params.strField? "name"
  match params.get? "arguments" with
  | none => return (name, ofFields [])
  | some .null => return (name, ofFields [])
  | some (.obj fields) => return (name, .obj fields)
  | some _ => none

/-- The reply to a request for a method that is not served. -/
def unknownMethod (method : String) : Reply := .failure (-32601) method

/-- The reply to a request. -/
def reply (published : Option Catalog) (request : Request) : Reply :=
  match request.method with
  | "ping" => .result (ofFields [])
  | "tools/list" => .result (ofFields [("tools", arr (Tool.all.map toolEntry))])
  | "tools/call" =>
    match request.params.bind callParams? with
    | some (name, arguments) => callTool published name arguments
    | none => unknownMethod request.method
  | method => unknownMethod method

end ApiAtlas.Server
