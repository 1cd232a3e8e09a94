import JinieServer.Proofs.Server.Definition

/-!
# Sessions with and without a client

A server to which nobody listens answers every message like one that has a client, stays like it,
and sends nothing. So a session shows the same with a client, with one that refuses all requests,
and with none.
-/

namespace JinieServer.Server

open JinieServer.Protocol

/-! ## What a session shows -/

/-- What can be seen of the state: the open documents, the settings, and the pattern that a watcher
should have. -/
structure View where
  documents : Documents
  settings : Settings
  pattern : WatchPattern

def view (server : Server) : View := ⟨server.documents, server.settings, server.watchPattern⟩

/-- What a handled message shows besides what was sent: the reply and the state behind it. -/
def Outcome.shown (outcome : Outcome) : Option Reply × View := (outcome.reply, outcome.server.view)

/-- All that was sent during a run. -/
def sentIn (outcomes : List (Option Outcome)) : List Outgoing :=
  (outcomes.filterMap id).flatMap (·.sent)

/-! ## Servers without a client -/

/-- Nobody listens to the second server. It is the first one otherwise, but for the number of
requests that a client was asked. -/
structure Alike (server quiet : Server) : Prop where
  client : quiet.client = none
  base : quiet.base = server.base
  settings : quiet.settings = server.settings
  root : quiet.root = server.root
  watches : quiet.watches = server.watches
  documents : quiet.documents = server.documents
  phase : quiet.phase = server.phase

structure SameAnswer (outcome quiet : Outcome) : Prop where
  reply : quiet.reply = outcome.reply
  server : Alike outcome.server quiet.server
  sent : quiet.sent = []

theorem alike_start (client : Option Client) (base : Settings) :
    Alike (Server.start client base) (Server.start none base) :=
  ⟨rfl, rfl, rfl, rfl, rfl, rfl, rfl⟩

theorem toClient_of_none {server : Server} (h : server.client = none) (messages : List Outgoing) :
    server.toClient messages = [] := by
  simp [toClient, h]

section

variable {server quiet : Server}

theorem Alike.watchPattern (h : Alike server quiet) : quiet.watchPattern = server.watchPattern := by
  rw [Server.watchPattern, Server.watchPattern, h.root, h.settings]

theorem Alike.view (h : Alike server quiet) : quiet.view = server.view := by
  rw [Server.view, Server.view, h.documents, h.settings, h.watchPattern]

theorem SameAnswer.shown {outcome silent : Outcome} (h : SameAnswer outcome silent) :
    silent.shown = outcome.shown := by
  rw [Outcome.shown, Outcome.shown, h.reply, h.server.view]

theorem Alike.withPhase (h : Alike server quiet) (phase : Phase) :
    Alike { server with phase } { quiet with phase } :=
  ⟨h.client, h.base, h.settings, h.root, h.watches, h.documents, rfl⟩

theorem Alike.withDocuments (h : Alike server quiet) (documents : Documents) :
    Alike { server with documents } { quiet with documents } :=
  ⟨h.client, h.base, h.settings, h.root, h.watches, rfl, h.phase⟩

theorem Alike.withNextId (h : Alike server quiet) (nextId : Nat) :
    Alike { server with nextId } quiet :=
  ⟨h.client, h.base, h.settings, h.root, h.watches, h.documents, h.phase⟩

/-! ## Calls -/

variable (world : World)

theorem sameAnswer_connect (h : Alike server quiet) (setup : ClientSetup) :
    SameAnswer (server.connect world setup) (quiet.connect world setup) where
  reply := rfl
  server := by
    refine ⟨h.client, h.base, ?_, ?_, rfl, h.documents, rfl⟩
    · simp only [connect, h.base]
    · simp only [connect, h.root]
  sent := toClient_of_none h.client _

theorem sameAnswer_initialized (h : Alike server quiet) :
    SameAnswer server.initialized quiet.initialized := by
  have hquiet : quiet.initialized = { server := quiet, events := [Event.ready] } := by
    simp [initialized, h.client, toClient]
  rw [hquiet]
  unfold initialized
  split
  · exact ⟨rfl, h.withNextId _, rfl⟩
  · exact ⟨rfl, h, rfl⟩

theorem sameAnswer_definition (h : Alike server quiet) (uri : Url) (position : Position) :
    SameAnswer (server.definition world.disk uri position)
      (quiet.definition world.disk uri position) where
  reply := reply_definition_congr world.disk position h.settings (by rw [h.documents])
  server := by
    rw [server_definition, server_definition]
    exact h
  sent := by
    rw [(definition_eq world.disk quiet uri position).2]
    exact toClient_of_none h.client _

theorem sameAnswer_handle (h : Alike server quiet) (call : Call) :
    SameAnswer (server.handle world call) (quiet.handle world call) := by
  have hsent := toClient_of_none h.client
  cases call with
  | connect setup => exact sameAnswer_connect world h setup
  | initialized => exact sameAnswer_initialized h
  | shutdown => exact ⟨rfl, h.withPhase .shutDown, rfl⟩
  | exit => exact ⟨rfl, h.withPhase .exited, rfl⟩
  | didOpen uri text =>
    refine ⟨rfl, ?_, hsent _⟩
    simp only [handle, didOpen, h.documents]
    exact h.withDocuments _
  | didChange uri texts =>
    refine ⟨rfl, ?_, rfl⟩
    cases texts with
    | nil => exact h
    | cons text more =>
      simp only [handle, didChange, h.documents]
      exact h.withDocuments _
  | didClose uri =>
    refine ⟨rfl, ?_, hsent _⟩
    simp only [handle, didClose, h.documents]
    exact h.withDocuments _
  | filesChanged changes => exact ⟨rfl, h, hsent _⟩
  | outline uri => exact ⟨by simp only [handle, outline, h.documents], h, rfl⟩
  | definition uri position => exact sameAnswer_definition world h uri position
  | unserved method => exact ⟨rfl, h, rfl⟩
  | silent method => exact ⟨rfl, h, rfl⟩
  | cancel id => exact ⟨rfl, h, rfl⟩

/-! ## Messages -/

theorem sameAnswer_refuse (h : Alike server quiet) (message : Message) (failure : Failure) :
    SameAnswer (server.refuse message failure) (quiet.refuse message failure) := ⟨rfl, h, rfl⟩

theorem SameAnswer.after {outcome silent : Outcome} (h : SameAnswer outcome silent)
    (event : Log.Event) : SameAnswer (outcome.after event) (silent.after event) :=
  ⟨h.reply, h.server, h.sent⟩

theorem sameAnswer_deliver (h : Alike server quiet) (method : Method) (message : Message) :
    SameAnswer (server.deliver world method message) (quiet.deliver world method message) := by
  unfold deliver
  split
  · exact sameAnswer_refuse h message _
  · exact ⟨rfl, h, rfl⟩
  · split
    · exact sameAnswer_refuse h message _
    · exact sameAnswer_handle world h _

theorem sameAnswer_receiveConnect (h : Alike server quiet) (method : Method) (message : Message) :
    SameAnswer (server.receiveConnect world method message)
      (quiet.receiveConnect world method message) := by
  unfold receiveConnect
  rw [h.phase]
  split
  · exact sameAnswer_deliver world h method message
  · exact (sameAnswer_refuse h message _).after _

theorem sameAnswer_receiveShutdown (h : Alike server quiet) (method : Method)
    (message : Message) :
    SameAnswer (server.receiveShutdown world method message)
      (quiet.receiveShutdown world method message) := by
  unfold receiveShutdown
  rw [h.phase]
  split
  · exact sameAnswer_refuse h message _
  · exact (sameAnswer_deliver world (h.withPhase _) method message).after _

theorem sameAnswer_receiveOther (h : Alike server quiet) (method : Method) (message : Message) :
    SameAnswer (server.receiveOther world method message)
      (quiet.receiveOther world method message) := by
  unfold receiveOther
  rw [h.phase]
  split
  · exact sameAnswer_refuse h message _
  · exact sameAnswer_deliver world h method message

theorem sameAnswer_receiveUnknown (h : Alike server quiet) (message : Message) :
    SameAnswer (server.receiveUnknown message) (quiet.receiveUnknown message) := by
  unfold receiveUnknown
  split
  · exact ⟨rfl, h, rfl⟩
  · exact sameAnswer_refuse h message _

theorem sameAnswer_receive? (h : Alike server quiet) (message : Message) :
    Option.Rel SameAnswer (server.receive? world message) (quiet.receive? world message) := by
  unfold receive?
  rw [h.phase]
  split
  case isTrue => exact .none
  case isFalse =>
    refine .some ?_
    cases method? message.method with
    | none => exact sameAnswer_receiveUnknown h message
    | some method =>
      simp only
      split
      · exact ⟨rfl, h.withPhase .exited, rfl⟩
      · split
        · exact sameAnswer_receiveConnect world h method message
        · split
          · exact sameAnswer_receiveShutdown world h method message
          · split
            · exact sameAnswer_deliver world h method message
            · exact sameAnswer_receiveOther world h method message

theorem alike_next (h : Alike server quiet) (message : Message) :
    Alike (server.next world message) (quiet.next world message) := by
  have hreceived := sameAnswer_receive? world h message
  unfold next
  generalize server.receive? world message = outcome at hreceived ⊢
  generalize quiet.receive? world message = silent at hreceived ⊢
  cases hreceived with
  | none => exact h
  | some hsame => exact hsame.server

/-! ## Runs -/

theorem sameAnswer_run (h : Alike server quiet) (steps : List (World × Message)) :
    List.Forall₂ (Option.Rel SameAnswer) (server.run steps) (quiet.run steps) := by
  induction steps generalizing server quiet with
  | nil => exact .nil
  | cons step steps ih =>
    obtain ⟨world, message⟩ := step
    exact .cons (sameAnswer_receive? world h message) (ih (alike_next world h message))

theorem alike_after (h : Alike server quiet) (steps : List (World × Message)) :
    Alike (server.after steps) (quiet.after steps) := by
  induction steps generalizing server quiet with
  | nil => exact h
  | cons step steps ih => exact ih (alike_next step.1 h step.2)

end

theorem shown_of_sameAnswers {outcomes silent : List (Option Outcome)}
    (h : List.Forall₂ (Option.Rel SameAnswer) outcomes silent) :
    silent.map (Option.map Outcome.shown) = outcomes.map (Option.map Outcome.shown) := by
  induction h with
  | nil => rfl
  | cons hfirst _ ih =>
    rw [List.map_cons, List.map_cons, ih]
    cases hfirst with
    | none => rfl
    | some hsame => rw [Option.map_some, Option.map_some, hsame.shown]

theorem sentIn_of_sameAnswers {outcomes silent : List (Option Outcome)}
    (h : List.Forall₂ (Option.Rel SameAnswer) outcomes silent) : sentIn silent = [] := by
  induction h with
  | nil => rfl
  | @cons _ _ _ rest hfirst _ ih =>
    cases hfirst with
    | none => exact ih
    | @some _ quiet hsame =>
      calc sentIn (some quiet :: rest)
          = quiet.sent ++ sentIn rest := rfl
        _ = [] := by rw [hsame.sent, ih, List.nil_append]

/-! ## The theorem -/

/-- Whatever messages come in, on whatever disks, sessions with and without a client, and with one
that refuses, give the same replies and have the same state after every message. Without a client
nothing is sent. -/
theorem session_independent_of_client (base : Settings) (steps : List (World × Message)) :
    (∀ one other : Option Client,
      ((Server.start one base).run steps).map (Option.map Outcome.shown) =
        ((Server.start other base).run steps).map (Option.map Outcome.shown) ∧
      ((Server.start one base).after steps).view = ((Server.start other base).after steps).view) ∧
    sentIn ((Server.start none base).run steps) = [] := by
  constructor
  · intro one other
    have hone := alike_start one base
    have hother := alike_start other base
    constructor
    · rw [← shown_of_sameAnswers (sameAnswer_run hone steps),
        ← shown_of_sameAnswers (sameAnswer_run hother steps)]
    · rw [← (alike_after hone steps).view, ← (alike_after hother steps).view]
  · exact sentIn_of_sameAnswers (sameAnswer_run (alike_start none base) steps)

end JinieServer.Server
