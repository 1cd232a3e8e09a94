import JinieServer.Proofs.Server.Definition
import Mathlib.Data.List.Forall2

/-!
# The open documents over a run

The text under a key is what the last message about it said. No other message touches the table,
and the answers about a document are made from its own text.
-/

namespace JinieServer.Server

open JinieServer.Protocol JinieServer.Definition

/-! ## Messages about a document -/

/-- The calls that decide the text under a key, with what they leave there. -/
inductive Decides (key : String) : Call → Option String → Prop where
  | opened {uri : Url} {text : String} (h : uri.text = key) :
    Decides key (.didOpen uri text) (some text)
  /-- The first change decides, and a list without changes does not. -/
  | changed {uri : Url} {text : String} {more : List String} (h : uri.text = key) :
    Decides key (.didChange uri (text :: more)) (some text)
  | closed {uri : Url} (h : uri.text = key) : Decides key (.didClose uri) none

/-- A running server that takes the message has this text under the key afterwards. -/
def Says (key : String) (message : Message) (text : Option String) : Prop :=
  ∃ call, asked? message = some call ∧ Decides key call text

/-- The message is not about the document with this key. -/
def SilentOn (key : String) (message : Message) : Prop := ∀ text, ¬ Says key message text

theorem silentOn_of_asked? {key : String} {message : Message} {call : Call}
    (hasked : asked? message = some call) (h : ∀ text, ¬ Decides key call text) :
    SilentOn key message := by
  rintro text ⟨other, hother, hdecides⟩
  obtain rfl : call = other := by simpa [hasked] using hother
  exact h text hdecides

/-! ## One call -/

theorem get?_handle_of_decides {key : String} {call : Call} {text : Option String}
    (world : World) (server : Server) (h : Decides key call text) :
    (server.handle world call).server.documents.get? key = text := by
  cases h with
  | opened h => simp [handle, didOpen, h]
  | changed h => simp [handle, didChange, h]
  | closed h => simp [handle, didClose, h]

theorem documents_handle (world : World) (server : Server) {call : Call}
    (hcall : Ordinary call) :
    (server.handle world call).server.documents = server.documents ∨
      ∃ touched text, Decides touched call text ∧
        ∀ key ≠ touched, (server.handle world call).server.documents.get? key =
          server.documents.get? key := by
  cases call with
  | connect setup => exact hcall.elim
  | shutdown => exact hcall.elim
  | exit => exact hcall.elim
  | initialized =>
    left
    simp only [handle, initialized]
    split <;> rfl
  | didOpen uri text =>
    refine Or.inr ⟨uri.text, some text, .opened rfl, fun key hkey => ?_⟩
    simp [handle, didOpen, hkey.symm]
  | didChange uri texts =>
    cases texts with
    | nil => exact Or.inl rfl
    | cons text more =>
      refine Or.inr ⟨uri.text, some text, .changed rfl, fun key hkey => ?_⟩
      simp [handle, didChange, hkey.symm]
  | didClose uri =>
    refine Or.inr ⟨uri.text, none, .closed rfl, fun key hkey => ?_⟩
    simp [handle, didClose, hkey.symm]
  | filesChanged changes => exact Or.inl rfl
  | outline uri => exact Or.inl rfl
  | definition uri position =>
    exact Or.inl (congrArg documents (server_definition world.disk server uri position))
  | unserved method => exact Or.inl rfl
  | silent method => exact Or.inl rfl
  | cancel id => exact Or.inl rfl

/-! ## One message -/

/-- A message keeps the table, or is about one document and keeps all others. -/
theorem documents_next (world : World) (server : Server) (message : Message) :
    (server.next world message).documents = server.documents ∨
      ∃ touched text, Says touched message text ∧
        ∀ key ≠ touched, (server.next world message).documents.get? key =
          server.documents.get? key := by
  have hstep := step_next world server message
  generalize server.next world message = next at hstep ⊢
  cases hstep with
  | ignored => exact Or.inl rfl
  | connected => exact Or.inl rfl
  | shutDown => exact Or.inl rfl
  | exited => exact Or.inl rfl
  | handled hrunning hasked =>
    rcases documents_handle world server (ordinary_of_asked? hasked) with
      h | ⟨touched, text, hdecides, hothers⟩
    · exact Or.inl h
    · exact Or.inr ⟨touched, text, ⟨_, hasked, hdecides⟩, hothers⟩

theorem documents_next_of_silent {message : Message} (world : World) (server : Server)
    (h : ∀ key, SilentOn key message) :
    (server.next world message).documents = server.documents := by
  rcases documents_next world server message with hkept | ⟨touched, text, hsays, -⟩
  · exact hkept
  · exact absurd hsays (h touched text)

theorem get?_next_of_silent {key : String} {message : Message} (world : World)
    (server : Server) (h : SilentOn key message) :
    (server.next world message).documents.get? key = server.documents.get? key := by
  rcases documents_next world server message with hkept | ⟨touched, text, hsays, hothers⟩
  · rw [hkept]
  · refine hothers key ?_
    rintro rfl
    exact h text hsays

theorem get?_next_of_says {server : Server} {key : String} {message : Message}
    {text : Option String} (world : World) (hrunning : server.phase = .running)
    (h : Says key message text) : (server.next world message).documents.get? key = text := by
  obtain ⟨call, hasked, hdecides⟩ := h
  rw [next, receive?_of_asked? world hrunning hasked]
  exact get?_handle_of_decides world server hdecides

/-! ## Runs -/

theorem get?_after_of_silent {key : String} {steps : List (World × Message)}
    (server : Server) (h : ∀ step ∈ steps, SilentOn key step.2) :
    (server.after steps).documents.get? key = server.documents.get? key := by
  induction steps generalizing server with
  | nil => rfl
  | cons step steps ih =>
    rw [List.forall_mem_cons] at h
    calc (server.after (step :: steps)).documents.get? key
        = (server.next step.1 step.2).documents.get? key := ih _ h.2
      _ = server.documents.get? key := get?_next_of_silent step.1 server h.1

theorem get?_after_of_last {server : Server} {key : String} {message : Message}
    {text : Option String} {world : World} {before later : List (World × Message)}
    (hrunning : (server.after before).phase = .running) (h : Says key message text)
    (hlater : ∀ step ∈ later, SilentOn key step.2) :
    (server.after (before ++ (world, message) :: later)).documents.get? key = text := by
  rw [after_append, after, get?_after_of_silent _ hlater]
  exact get?_next_of_says world hrunning h

/-! ## Answers about a document -/

/-- The item of an outline that shows a symbol as a function, all of it selected. -/
structure ShowsFunction (symbol : Source.Symbol) (item : Json) : Prop where
  name : item.member? "name" = some (.str symbol.name)
  kind : item.member? "kind" = some (.int 12)
  range : item.member? "range" = some symbol.range.toJson
  selectionRange : item.member? "selectionRange" = item.member? "range"

theorem showsFunction_symbolJson (symbol : Source.Symbol) :
    ShowsFunction symbol (symbolJson symbol) where
  name := rfl
  kind := rfl
  range := rfl
  selectionRange := rfl

theorem outline_eq_null_iff {server : Server} {uri : Url} :
    server.outline uri = .null ↔ server.documents.get? uri.text = none := by
  unfold outline
  cases server.documents.get? uri.text <;> simp

theorem outline_of_open {server : Server} {uri : Url} {text : String}
    (h : server.documents.get? uri.text = some text) :
    ∃ items, server.outline uri = .arr items ∧
      List.Forall₂ ShowsFunction (Source.symbols text.toList) items := by
  refine ⟨(Source.symbols text.toList).map symbolJson, by rw [outline, h], ?_⟩
  rw [List.forall₂_map_right_iff, List.forall₂_same]
  exact fun symbol _ => showsFunction_symbolJson symbol

theorem reply_definition_of_closed {server : Server} {uri : Url} (files : FileSystem)
    (position : Position) (h : server.documents.get? uri.text = none) :
    (server.definition files uri position).reply = some (.result .null) := by
  rw [(definition_eq files server uri position).1, lookup?, h]
  rfl

/-! ## The table of a session -/

/-- In a session that still runs, the last message about a document decides its text, and all
other messages keep the whole table. Outlines are made from the text under their own key alone,
definitions from that text, the settings and the disk. -/
theorem documents_after_run (server : Server) (steps : List (World × Message))
    (hbegun : server.phase = .running) (hrunning : (server.after steps).phase = .running) :
    (∀ key before world message later text, steps = before ++ (world, message) :: later →
      Says key message text → (∀ step ∈ later, SilentOn key step.2) →
      (server.after steps).documents.get? key = text) ∧
    (∀ key, (∀ step ∈ steps, SilentOn key step.2) →
      (server.after steps).documents.get? key = server.documents.get? key) ∧
    (∀ world message, (∀ key, SilentOn key message) →
      ((server.after steps).next world message).documents = (server.after steps).documents) ∧
    (∀ world message uri, asked? message = some (.outline uri) →
      ∃ outcome answer, (server.after steps).receive? world message = some outcome ∧
        outcome.reply = some (.result answer) ∧
        (answer = .null ↔ (server.after steps).documents.get? uri.text = none) ∧
        ∀ text, (server.after steps).documents.get? uri.text = some text →
          ∃ items, answer = .arr items ∧
            List.Forall₂ ShowsFunction (Source.symbols text.toList) items) ∧
    (∀ world message uri position, asked? message = some (.definition uri position) →
      ∃ outcome, (server.after steps).receive? world message = some outcome ∧
        ((server.after steps).documents.get? uri.text = none →
          outcome.reply = some (.result .null)) ∧
        ∀ other : Server, other.phase = .running → other.settings = server.settings →
          other.documents.get? uri.text = (server.after steps).documents.get? uri.text →
          ∃ same, other.receive? world message = some same ∧ same.reply = outcome.reply) := by
  have hfresh : server.phase ≠ .fresh := by simp [hbegun]
  have hkept := continues_after steps hfresh
  refine ⟨?_, ?_, ?_, ?_, ?_⟩
  · rintro key before world message later text rfl hsays hlater
    have hbefore := continues_after before hfresh
    -- A phase that is still `running` at the end was so at every step.
    have hrest := continues_after ((world, message) :: later) hbefore.begun
    rw [after_append] at hrunning
    exact get?_after_of_last (hrest.running hrunning) hsays hlater
  · intro key h
    exact get?_after_of_silent server h
  · intro world message h
    exact documents_next_of_silent world (server.after steps) h
  · intro world message uri hasked
    refine ⟨_, _, receive?_of_asked? world hrunning hasked, rfl, outline_eq_null_iff, ?_⟩
    intro text htext
    exact outline_of_open htext
  · intro world message uri position hasked
    refine ⟨_, receive?_of_asked? world hrunning hasked,
      reply_definition_of_closed world.disk position, ?_⟩
    intro other hother hsettings htext
    refine ⟨_, receive?_of_asked? world hother hasked, ?_⟩
    exact reply_definition_congr world.disk position (hsettings.trans hkept.settings.symm) htext

def openMessage (uri text : String) : Message where
  method := "textDocument/didOpen"
  params := some (.obj [("textDocument", .obj [
    ("languageId", .str "jinie"), ("text", .str text), ("uri", .str uri), ("version", .int 1)])])
  isRequest := false

def changeMessage (uri : String) (texts : List String) : Message where
  method := "textDocument/didChange"
  params := some (.obj [
    ("contentChanges", .arr (texts.map fun text => .obj [("text", .str text)])),
    ("textDocument", .obj [("uri", .str uri), ("version", .int 2)])])
  isRequest := false

def closeMessage (uri : String) : Message where
  method := "textDocument/didClose"
  params := some (.obj [("textDocument", .obj [("uri", .str uri)])])
  isRequest := false

/-- The document `file:///` with one name behind it. -/
def topDocument (name : String) : Url :=
  ⟨"file".toList, some {}, .segments [name.toList], none, none⟩

def idleServer : Server :=
  { Server.start (some .agrees) Settings.default with phase := .running }

/-- Two documents are opened; the first is changed, the second closed, and a change without texts
comes last. -/
def twoDocumentRun : List (World × Message) :=
  [openMessage "file:///a" "old", openMessage "file:///b" "other",
    changeMessage "file:///a" ["new", "newer"], closeMessage "file:///b",
    changeMessage "file:///a" []].map (declaringWorld, ·)

theorem documents_after_two_document_run :
    (idleServer.after twoDocumentRun).documents.get? "file:///a" = some "new" ∧
    (idleServer.after twoDocumentRun).documents.get? "file:///b" = none := by
  obtain ⟨hlast, -⟩ := documents_after_run idleServer twoDocumentRun rfl rfl
  have hclose : asked? (closeMessage "file:///b") = some (.didClose (topDocument "b")) := rfl
  have hempty : asked? (changeMessage "file:///a" []) =
      some (.didChange (topDocument "a") []) := rfl
  have hnothing : ∀ key, SilentOn key (changeMessage "file:///a" []) :=
    fun key => silentOn_of_asked? hempty nofun
  constructor
  · refine hlast _ (twoDocumentRun.take 2) _ _ (twoDocumentRun.drop 3) _ rfl
      ⟨.didChange (topDocument "a") ["new", "newer"], rfl, .changed rfl⟩ ?_
    have hother : SilentOn "file:///a" (closeMessage "file:///b") := by
      refine silentOn_of_asked? hclose ?_
      rintro text ⟨⟩
      contradiction
    simp [twoDocumentRun, hother, hnothing]
  · refine hlast _ (twoDocumentRun.take 3) _ _ (twoDocumentRun.drop 4) _ rfl
      ⟨.didClose (topDocument "b"), hclose, .closed rfl⟩ ?_
    simp [twoDocumentRun, hnothing]

end JinieServer.Server
