import JinieServer.Proofs.Definition.Target
import JinieServer.Proofs.Server.Session

/-!
# What a client hears of a lookup

`Exchange` lists, for each way a lookup can end, all that goes out for the request, in order. A
message to the editor always stands before the answer.
-/

namespace JinieServer.Server

open JinieServer.Protocol JinieServer.Definition

/-! ## Messages as the client reads them -/

def resultMessage (id result : Json) : Json :=
  .obj [("id", id), ("jsonrpc", .str "2.0"), ("result", result)]

def errorMessage (id : Json) (code : Int) (text : String) : Json :=
  .obj [("error", .obj [("code", .int code), ("message", .str text)]), ("id", id),
    ("jsonrpc", .str "2.0")]

def notification (method : String) (params : Json) : Json :=
  .obj [("jsonrpc", .str "2.0"), ("method", .str method), ("params", params)]

/-- All that goes out for a lookup in a document, by the way the lookup ends; the document may not
even be open. -/
inductive Exchange (uri : Url) (id : Json) :
    Option (Except LookupError (Option Resolution)) → List Json → Prop where
  | notOpen : Exchange uri id none [resultMessage id .null]
  | nothing : Exchange uri id (some (.ok none)) [resultMessage id .null]
  | here {location : Location} :
    Exchange uri id (some (.ok (some (.here location)))) [resultMessage id location.toJson]
  /-- The answer names the document, the message before it the other file. -/
  | elsewhere {file : String} {position : Position} :
    Exchange uri id (some (.ok (some (.elsewhere ⟨uri, ⟨position, position⟩⟩ ⟨file, position⟩))))
      [notification "textDocument/definition"
          (.obj [("position", position.toJson), ("uri", .str file)]),
        resultMessage id (.obj [
          ("range", .obj [("end", position.toJson), ("start", position.toJson)]),
          ("uri", .str uri.text)])]
  | failed {e : LookupError} :
    Exchange uri id (some (.error e))
      [notification "window/logMessage"
          (.obj [("message", .str ("Definition lookup failed: " ++ e.message)), ("type", .int 1)]),
        errorMessage id (-32603) e.message]

/-! ## The lookup of a request -/

/-- The lookup that a request leads to, if its document is open. -/
def lookup? (files : FileSystem) (server : Server) (uri : Url) (position : Position) :
    Option (Except LookupError (Option Resolution)) :=
  (server.documents.get? uri.text).map fun text =>
    findDefinition files server.settings uri text.toList position

def lookupReply : Option (Except LookupError (Option Resolution)) → Reply
  | some (.ok (some resolution)) => .result resolution.location.toJson
  | some (.error e) => .failure (.internal e.message)
  | _ => .result .null

def lookupMessages : Option (Except LookupError (Option Resolution)) → List Outgoing
  | some (.ok (some resolution)) => resolution.target?.toList.map .openFile
  | some (.error e) => [.log .error ("Definition lookup failed: " ++ e.message)]
  | _ => []

theorem definition_eq (files : FileSystem) (server : Server) (uri : Url) (position : Position) :
    (server.definition files uri position).reply =
        some (lookupReply (server.lookup? files uri position)) ∧
      (server.definition files uri position).sent =
        server.toClient (lookupMessages (server.lookup? files uri position)) := by
  unfold definition lookup? findDefinition
  cases server.documents.get? uri.text with
  | none => simp [lookupReply, lookupMessages, toClient]
  | some text =>
    cases hverdict : verdict files server.settings uri text.toList position with
    | error e => simp [hverdict, Except.map, lookupReply, lookupMessages]
    | ok found =>
      cases hfound : found.resolution? uri with
      | none => simp [hverdict, hfound, Except.map, lookupReply, lookupMessages, toClient]
      | some resolution => simp [hverdict, hfound, Except.map, lookupReply, lookupMessages]

theorem elsewhere_of_lookup? {files : FileSystem} {server : Server} {uri : Url}
    {position : Position} {location : Location} {target : Target}
    (h : server.lookup? files uri position = some (.ok (some (.elsewhere location target)))) :
    ∃ text name tier hit, server.documents.get? uri.text = some text ∧
      verdict files server.settings uri text.toList position = .ok (.inFile name tier hit) ∧
      location = ⟨uri, Range.at hit.position⟩ ∧ target = hit.target := by
  obtain ⟨text, htext, hfound⟩ := Option.map_eq_some_iff.mp h
  obtain ⟨name, tier, hit, hverdict, hlocation, htarget⟩ := verdict_of_elsewhere hfound
  exact ⟨text, name, tier, hit, htext, hverdict, hlocation, htarget⟩

theorem hit_of_sent {files : FileSystem} {server : Server} {uri : Url} {position : Position}
    {message : Outgoing} (hsent : message ∈ (server.definition files uri position).sent)
    (hmethod : message.method = openFileMethod) :
    ∃ text name tier hit, server.documents.get? uri.text = some text ∧
      verdict files server.settings uri text.toList position = .ok (.inFile name tier hit) ∧
      message = .openFile hit.target := by
  rw [(definition_eq files server uri position).2, toClient] at hsent
  have hmem : message ∈ lookupMessages (server.lookup? files uri position) := by
    split at hsent
    · exact hsent
    · simp at hsent
  cases hlookup : server.lookup? files uri position with
  | none => simp [hlookup, lookupMessages] at hmem
  | some answer =>
    cases answer with
    | error e =>
      -- The message in the editor's log has another method.
      obtain rfl : message = .log .error ("Definition lookup failed: " ++ e.message) := by
        simpa [hlookup, lookupMessages] using hmem
      simp [Outgoing.method, openFileMethod] at hmethod
    | ok found =>
      cases found with
      | none => simp [hlookup, lookupMessages] at hmem
      | some resolution =>
        cases resolution with
        | here location => simp [hlookup, lookupMessages, Resolution.target?] at hmem
        | elsewhere location target =>
          obtain ⟨text, name, tier, hit, htext, hverdict, -, rfl⟩ :=
            elsewhere_of_lookup? hlookup
          have hmessage : message = .openFile hit.target := by
            simpa [hlookup, lookupMessages, Resolution.target?] using hmem
          exact ⟨text, name, tier, hit, htext, hverdict, hmessage⟩

/-! ## On the wire -/

theorem written_definition {server : Server} (files : FileSystem) (uri : Url)
    (position : Position) (id : Json) (hclient : server.client.isSome) :
    (server.definition files uri position).written (some id) =
      (lookupMessages (server.lookup? files uri position)).map Wire.outgoingJson ++
        [Wire.replyJson id (lookupReply (server.lookup? files uri position))] := by
  obtain ⟨hreply, hsent⟩ := definition_eq files server uri position
  simp [Outcome.written, hreply, hsent, toClient, hclient]

theorem exchange_definition {server : Server} (files : FileSystem) (uri : Url)
    (position : Position) (id : Json) (hclient : server.client.isSome) :
    Exchange uri id (server.lookup? files uri position)
      ((server.definition files uri position).written (some id)) := by
  rw [written_definition files uri position id hclient]
  match hlookup : server.lookup? files uri position with
  | none => exact .notOpen
  | some (.ok none) => exact .nothing
  | some (.ok (some (.here location))) => exact .here
  | some (.ok (some (.elsewhere location target))) =>
    obtain ⟨-, -, -, hit, -, -, rfl, rfl⟩ := elsewhere_of_lookup? hlookup
    exact .elsewhere
  | some (.error e) => exact .failed

/-! ## The request -/

theorem lookup?_congr {server other : Server} {uri : Url} (files : FileSystem)
    (position : Position) (hsettings : other.settings = server.settings)
    (htext : other.documents.get? uri.text = server.documents.get? uri.text) :
    other.lookup? files uri position = server.lookup? files uri position := by
  rw [lookup?, lookup?, hsettings, htext]

theorem reply_definition_congr {server other : Server} {uri : Url} (files : FileSystem)
    (position : Position) (hsettings : other.settings = server.settings)
    (htext : other.documents.get? uri.text = server.documents.get? uri.text) :
    (other.definition files uri position).reply = (server.definition files uri position).reply := by
  rw [(definition_eq files other uri position).1, (definition_eq files server uri position).1,
    lookup?_congr files position hsettings htext]

theorem sent_definition_congr {server other : Server} {uri : Url} (files : FileSystem)
    (position : Position) (hclient : other.client = server.client)
    (hsettings : other.settings = server.settings)
    (htext : other.documents.get? uri.text = server.documents.get? uri.text) :
    (other.definition files uri position).sent = (server.definition files uri position).sent := by
  rw [(definition_eq files other uri position).2, (definition_eq files server uri position).2,
    lookup?_congr files position hsettings htext, toClient, toClient, hclient]

/-- What goes out for a request for a definition fits the way its lookup ends. The server stays as
it is, and the same request later in the session has the same effect if the documents are the
same. -/
theorem definition_request_exchange (server : Server) (world : World) (message : Message)
    (uri : Url) (position : Position) (hrunning : server.phase = .running)
    (hclient : server.client.isSome)
    (hasked : asked? message = some (.definition uri position)) :
    ∃ outcome, server.receive? world message = some outcome ∧ outcome.server = server ∧
      (∀ id, Exchange uri id (server.lookup? world.disk uri position) (outcome.written (some id))) ∧
      (∀ location target,
        server.lookup? world.disk uri position = some (.ok (some (.elsewhere location target))) →
        ∃ text name tier hit, server.documents.get? uri.text = some text ∧
          verdict world.disk server.settings uri text.toList position =
            .ok (.inFile name tier hit) ∧
          location = ⟨uri, Range.at hit.position⟩ ∧ target = hit.target) ∧
      (∀ later, (server.after later).phase = .running →
        (server.after later).documents = server.documents →
        ∃ again, (server.after later).receive? world message = some again ∧
          again.reply = outcome.reply ∧ again.sent = outcome.sent) := by
  refine ⟨server.definition world.disk uri position, receive?_of_asked? world hrunning hasked,
    server_definition world.disk server uri position, ?_, ?_, ?_⟩
  · intro id
    exact exchange_definition world.disk uri position id hclient
  · intro location target h
    exact elsewhere_of_lookup? h
  · intro later hlater hdocuments
    have hbegun : server.phase ≠ .fresh := by simp [hrunning]
    have hkept := continues_after later hbegun
    have htext : (server.after later).documents.get? uri.text =
        server.documents.get? uri.text := by rw [hdocuments]
    refine ⟨_, receive?_of_asked? world hlater hasked, ?_, ?_⟩
    · exact reply_definition_congr world.disk position hkept.settings htext
    · exact sent_definition_congr world.disk position hkept.client hkept.settings htext

/-- A request at the start of `file:///w/m.jinie`. -/
def requestAtStart : Message where
  method := "textDocument/definition"
  params := some (.obj [
    ("position", .obj [("character", .int 0), ("line", .int 0)]),
    ("textDocument", .obj [("uri", .str "file:///w/m.jinie")])])
  isRequest := true

/-- A running server in which that document calls `f`. -/
def callingServer : Server :=
  { Server.start (some .agrees) Settings.default with
    documents := [("file:///w/m.jinie", "CALL f(")], phase := .running }

/-- A world in which `a.DEFINITION` beside that document declares `f`. It has no settings that
could be refused. -/
def declaringWorld : World where
  disk := singleFileDisk "/w".toList (Text.utf8 "a.DEFINITION".toList)
  refusal _ := ""

theorem request_opens_definition_file :
    ∃ outcome, callingServer.receive? declaringWorld requestAtStart = some outcome ∧
      outcome.written (some (.int 7)) =
        [notification "textDocument/definition" (.obj [
            ("position", Position.toJson ⟨0, 0⟩), ("uri", .str "file:///w/a.DEFINITION")]),
          resultMessage (.int 7) (.obj [
            ("range", .obj [("end", Position.toJson ⟨0, 0⟩), ("start", Position.toJson ⟨0, 0⟩)]),
            ("uri", .str "file:///w/m.jinie")])] := by
  obtain ⟨outcome, hreceived, -, hexchange, -⟩ :=
    definition_request_exchange callingServer declaringWorld requestAtStart sharedDocument ⟨0, 0⟩
      rfl rfl rfl
  have hlookup : callingServer.lookup? declaringWorld.disk sharedDocument ⟨0, 0⟩ =
      some (.ok (some (.elsewhere ⟨sharedDocument, ⟨⟨0, 0⟩, ⟨0, 0⟩⟩⟩
        ⟨"file:///w/a.DEFINITION", ⟨0, 0⟩⟩))) := by decide +kernel
  have hwritten := hexchange (.int 7)
  rw [hlookup] at hwritten
  refine ⟨outcome, hreceived, ?_⟩
  generalize outcome.written (some (.int 7)) = written at hwritten ⊢
  cases hwritten
  rfl

end JinieServer.Server
