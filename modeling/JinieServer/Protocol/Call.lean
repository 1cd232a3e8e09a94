import JinieServer.Json.Decode
import JinieServer.Protocol.Method
import JinieServer.Text.Basic

/-!
# Calls

A message as it comes in, and what it asks for once its parameters have been read.
-/

namespace JinieServer.Protocol

structure Message where
  method : String
  params : Option Json := none
  /-- Whether the message carries an id and so wants an answer. -/
  isRequest : Bool
deriving Inhabited

/-- What `initialize` says about the client. -/
structure ClientSetup where
  rootUri : Option Url := none
  options : Option Json := none
  /-- Whether the client lets the server register file watchers. -/
  watches : Bool := false

structure FileChange where
  uri : Url
  kind : Int

inductive Call where
  | connect (setup : ClientSetup)
  | initialized
  | shutdown
  | exit
  | didOpen (uri : Url) (text : String)
  /-- The texts of all content changes. -/
  | didChange (uri : Url) (texts : List String)
  | didClose (uri : Url)
  | filesChanged (changes : List FileChange)
  | outline (uri : Url)
  | definition (uri : Url) (position : Position)
  /-- A request that is known and not served. -/
  | unserved (method : String)
  /-- A notification that is known and has no effect. -/
  | silent (method : String)
  /-- The client no longer waits for the answer to the request with this id. -/
  | cancel (id : String)

/-! ## Reading fields -/

/-- A field of a record, by name from an object and by place from an array. -/
def field? (shape : Shape) (name : String) (value : Json) : Option Json :=
  match shape, value with
  | .record _ _, .obj members => Json.member? name (.obj members)
  | .record false fields, .arr items =>
    (fields.findIdx? fun (other, _) => other = name).bind fun i => items[i]?
  | .orNull shape, value => field? shape name value
  | _, _ => none

/-- The field at the end of a way through nested records. -/
def fieldAt? : (way : List String) → Shape → Json → Option Json
  | [], _, value => some value
  | name :: way, shape, value =>
    let inner := match shape with
      | .record _ fields => (fields.find? fun (other, _) => other = name).map (·.2.2)
      | .orNull (.record _ fields) => (fields.find? fun (other, _) => other = name).map (·.2.2)
      | _ => none
    match inner, field? shape name value with
    | some inner, some value => fieldAt? way inner value
    | _, _ => none

def url? : Json → Option Url
  | .str s => Url.parse? s.toList
  | _ => none

def string? : Json → Option String
  | .str s => some s
  | _ => none

def word? (value : Json) : Option UInt32 := value.asWord.toOption

def documentUri? (shape : Shape) (params : Json) : Option Url :=
  (fieldAt? ["textDocument", "uri"] shape params).bind url?

def list? : Json → Option (List Json)
  | .arr items => some items
  | _ => none

def itemShape : Shape → Shape
  | .record _ [(_, _, .listOf shape)] => shape
  | .record _ [_, (_, _, .listOf shape)] => shape
  | shape => shape

/-! ## Reading calls -/

def setup (params : Json) : ClientSetup where
  rootUri := (fieldAt? ["rootUri"] connectParams params).bind url?
  options :=
    match fieldAt? ["initializationOptions"] connectParams params with
    | some .null => none
    | options => options
  watches :=
    match fieldAt? ["capabilities", "workspace", "didChangeWatchedFiles", "dynamicRegistration"]
      connectParams params with
    | some (.bool b) => b
    | _ => false

def didOpen? (params : Json) : Option Call := do
  let uri ← documentUri? didOpenParams params
  let text ← string? (← fieldAt? ["textDocument", "text"] didOpenParams params)
  return .didOpen uri text

def didChange? (params : Json) : Option Call := do
  let uri ← documentUri? didChangeParams params
  let changes ← list? (← fieldAt? ["contentChanges"] didChangeParams params)
  let texts ← changes.mapM fun change =>
    (field? (itemShape didChangeParams) "text" change).bind string?
  return .didChange uri texts

def filesChanged? (params : Json) : Option Call := do
  let changes ← list? (← fieldAt? ["changes"] didChangeWatchedFilesParams params)
  let shape := itemShape didChangeWatchedFilesParams
  return .filesChanged (← changes.mapM fun change => do
    let uri ← url? (← field? shape "uri" change)
    match ← field? shape "type" change with
    | .int kind => return ⟨uri, kind⟩
    | _ => none)

def definition? (params : Json) : Option Call := do
  let uri ← documentUri? definitionParams params
  let line ← word? (← fieldAt? ["position", "line"] definitionParams params)
  let character ← word? (← fieldAt? ["position", "character"] definitionParams params)
  return .definition uri ⟨line, character⟩

/-- An id as the log shows it. -/
def idText : Json → String
  | .str s => Text.quoted s
  | .int n => toString n
  | _ => ""

/-- The call of a known method whose parameters fit it. -/
def call? (method : Method) (params : Option Json) : Option Call :=
  if !method.takes params then none
  else
    let params := params.getD .null
    match method.name with
    | "initialize" => some (.connect (setup params))
    | "initialized" => some .initialized
    | "shutdown" => some .shutdown
    | "exit" => some .exit
    | "textDocument/didOpen" => didOpen? params
    | "textDocument/didChange" => didChange? params
    | "textDocument/didClose" => (documentUri? didCloseParams params).map .didClose
    | "workspace/didChangeWatchedFiles" => filesChanged? params
    | "textDocument/documentSymbol" => (documentUri? documentSymbolParams params).map .outline
    | "textDocument/definition" => definition? params
    | "$/cancelRequest" => (fieldAt? ["id"] cancelParams params).map fun id => .cancel (idText id)
    | name => some (if method.isRequest then .unserved name else .silent name)

end JinieServer.Protocol
