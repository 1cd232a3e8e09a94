import JinieServer.Server.Session

/-!
# What one message does, and what a run keeps

`Reaction` lists all that can come of a message, and `Step` what it can make of a server. From it
follows what no run changes once the session has begun: the client, the settings, the workspace
folder and the leave to watch.
-/

namespace JinieServer.Server

open JinieServer.Protocol

/-! ## Calls -/

/-- The methods that begin and end a session. -/
def sessionMethods : List String := ["initialize", "shutdown", "exit"]

/-- The call that a message makes of a running server. A message that is not of its method's kind,
or does not fit it, makes none. -/
def asked? (message : Message) : Option Call :=
  (method? message.method).bind fun method =>
    if method.name ∈ sessionMethods ∨ method.isRequest ≠ message.isRequest then none
    else call? method message.params

/-- What a message says about the client, if it is an `initialize` that fits. -/
def connects? (message : Message) : Option ClientSetup :=
  (method? message.method).bind fun method =>
    if method.name = "initialize" ∧ method.isRequest = message.isRequest then
      match call? method message.params with
      | some (.connect setup) => some setup
      | _ => none
    else none

/-- The calls that leave the phase of the session alone. -/
def Ordinary : Call → Prop
  | .connect _ | .shutdown | .exit => False
  | _ => True

theorem ordinary_of_bind {α : Type} {value : Option α} {read : α → Option Call}
    (hread : ∀ a, ∀ call ∈ read a, Ordinary call) : ∀ call ∈ value.bind read, Ordinary call := by
  intro call h
  obtain ⟨a, -, ha⟩ := Option.bind_eq_some_iff.mp h
  exact hread a call ha

theorem ordinary_of_some {call : Call} (h : Ordinary call) :
    ∀ other ∈ (pure call : Option Call), Ordinary other := by
  intro other hother
  rwa [← Option.some.inj hother]

theorem ordinary_of_call? {method : Method} {params : Option Json} {call : Call}
    (hname : method.name ∉ sessionMethods) (h : call? method params = some call) :
    Ordinary call := by
  unfold call? at h
  split at h
  case isTrue => simp at h
  case isFalse =>
    simp only at h
    split at h
    case h_1 hmethod => simp [hmethod, sessionMethods] at hname
    case h_2 => exact Option.some.inj h ▸ trivial
    case h_3 hmethod => simp [hmethod, sessionMethods] at hname
    case h_4 hmethod => simp [hmethod, sessionMethods] at hname
    case h_5 =>
      refine ordinary_of_bind (fun uri => ordinary_of_bind fun field => ?_) call h
      exact ordinary_of_bind fun text => ordinary_of_some trivial
    case h_6 =>
      refine ordinary_of_bind (fun uri => ordinary_of_bind fun field => ?_) call h
      exact ordinary_of_bind fun changes => ordinary_of_bind fun texts => ordinary_of_some trivial
    case h_7 =>
      obtain ⟨uri, -, rfl⟩ := Option.map_eq_some_iff.mp h
      trivial
    case h_8 =>
      refine ordinary_of_bind (fun field => ordinary_of_bind fun items => ?_) call h
      exact ordinary_of_bind fun changes => ordinary_of_some trivial
    case h_9 =>
      obtain ⟨uri, -, rfl⟩ := Option.map_eq_some_iff.mp h
      trivial
    case h_10 =>
      refine ordinary_of_bind (fun uri => ordinary_of_bind fun field => ?_) call h
      refine ordinary_of_bind fun line => ordinary_of_bind fun field => ?_
      exact ordinary_of_bind fun character => ordinary_of_some trivial
    case h_11 =>
      obtain ⟨id, -, rfl⟩ := Option.map_eq_some_iff.mp h
      trivial
    case h_12 =>
      obtain rfl := Option.some.inj h
      split <;> trivial

theorem asked?_eq_some {message : Message} {call : Call} (h : asked? message = some call) :
    ∃ method, method? message.method = some method ∧ method.name ∉ sessionMethods ∧
      method.isRequest = message.isRequest ∧ call? method message.params = some call := by
  obtain ⟨method, hmethod, hcall⟩ := Option.bind_eq_some_iff.mp h
  split at hcall
  case isTrue => simp at hcall
  case isFalse hno =>
    rw [not_or, Decidable.not_not] at hno
    exact ⟨method, hmethod, hno.1, hno.2, hcall⟩

theorem ordinary_of_asked? {message : Message} {call : Call} (h : asked? message = some call) :
    Ordinary call := by
  obtain ⟨method, -, hname, -, hcall⟩ := asked?_eq_some h
  exact ordinary_of_call? hname hcall

theorem connects?_of_call? {method : Method} {message : Message} {call : Call}
    (hmethod : method? message.method = some method) (hname : method.name = "initialize")
    (hkind : method.isRequest = message.isRequest)
    (hcall : call? method message.params = some call) :
    ∃ setup, call = .connect setup ∧ connects? message = some setup := by
  obtain ⟨setup, rfl⟩ : ∃ setup, call = .connect setup := by
    simp only [call?, hname] at hcall
    split at hcall
    · simp at hcall
    · exact ⟨_, (Option.some.inj hcall).symm⟩
  exact ⟨setup, rfl, by simp [connects?, hmethod, hname, hkind, hcall]⟩

/-! ## Delivery -/

theorem deliver_of_call? {method : Method} {message : Message} {call : Call}
    (world : World) (server : Server) (hkind : method.isRequest = message.isRequest)
    (h : call? method message.params = some call) :
    server.deliver world method message = server.handle world call := by
  unfold deliver
  cases hm : method.isRequest <;> rw [hm] at hkind <;> simp [← hkind, h]

/-- A message that is delivered is handled as its call, or leads to an answer at most. -/
theorem deliver_cases (world : World) (server : Server) (method : Method)
    (message : Message) :
    (∃ reply, server.deliver world method message = { server, reply }) ∨
      ∃ call, method.isRequest = message.isRequest ∧ call? method message.params = some call ∧
        server.deliver world method message = server.handle world call := by
  by_cases hkind : method.isRequest = message.isRequest
  case neg =>
    left
    unfold deliver
    cases hm : method.isRequest <;> cases hr : message.isRequest
    case false.true => exact ⟨_, rfl⟩
    case true.false => exact ⟨_, rfl⟩
    all_goals simp [hm, hr] at hkind
  case pos =>
    cases hcall : call? method message.params with
    | some call => exact Or.inr ⟨call, hkind, rfl, deliver_of_call? world server hkind hcall⟩
    | none =>
      left
      refine ⟨(server.refuse message .invalidParams).reply, ?_⟩
      unfold deliver
      cases hm : method.isRequest <;> rw [hm] at hkind <;> simp [← hkind, hcall] <;> rfl

theorem receive?_of_asked? {server : Server} {message : Message} {call : Call}
    (world : World) (hrunning : server.phase = .running) (h : asked? message = some call) :
    server.receive? world message = some (server.handle world call) := by
  obtain ⟨method, hmethod, hname, hkind, hcall⟩ := asked?_eq_some h
  simp only [sessionMethods, List.mem_cons, List.not_mem_nil, or_false, not_or] at hname
  have hdeliver := deliver_of_call? world server hkind hcall
  simp only [receive?, hrunning, hmethod, hname, receiveOther, Phase.refusal, hdeliver]
  simp

/-! ## One message -/

/-- All that a message can make of a server. -/
inductive Step (world : World) (server : Server) (message : Message) : Server → Prop where
  | ignored : Step world server message server
  | connected {setup : ClientSetup} (hfresh : server.phase = .fresh)
    (h : connects? message = some setup) :
    Step world server message (server.connect world setup).server
  | shutDown (h : server.phase = .running) :
    Step world server message { server with phase := .shutDown }
  | exited : Step world server message { server with phase := .exited }
  | handled {call : Call} (hrunning : server.phase = .running) (h : asked? message = some call) :
    Step world server message (server.handle world call).server

/-- All that can come of a message: what becomes of the server and what is sent. -/
inductive Reaction (world : World) (server : Server) (message : Message) :
    Outcome → Prop where
  | ignored {outcome : Outcome} (hserver : outcome.server = server) (hsent : outcome.sent = []) :
    Reaction world server message outcome
  | connected {setup : ClientSetup} (hfresh : server.phase = .fresh)
    (h : connects? message = some setup) :
    Reaction world server message (server.connect world setup)
  | shutDown {outcome : Outcome} (h : server.phase = .running)
    (hserver : outcome.server = { server with phase := .shutDown }) (hsent : outcome.sent = []) :
    Reaction world server message outcome
  | exited {outcome : Outcome} (hserver : outcome.server = { server with phase := .exited })
    (hsent : outcome.sent = []) : Reaction world server message outcome
  | handled {call : Call} (hrunning : server.phase = .running) (h : asked? message = some call) :
    Reaction world server message (server.handle world call)

theorem reaction_connect {world : World} {server : Server} {method : Method}
    {message : Message} (hmethod : method? message.method = some method)
    (hname : method.name = "initialize") :
    Reaction world server message (server.receiveConnect world method message) := by
  unfold receiveConnect
  split
  case isTrue hfresh =>
    rcases deliver_cases world server method message with ⟨reply, h⟩ | ⟨call, hkind, hcall, h⟩
    · rw [h]
      exact .ignored rfl rfl
    · obtain ⟨setup, rfl, hconnects⟩ := connects?_of_call? hmethod hname hkind hcall
      rw [h]
      exact .connected hfresh hconnects
  case isFalse => exact .ignored rfl rfl

theorem running_of_refusal {phase : Phase} (h : phase.refusal = none) : phase = .running := by
  cases phase <;> first | rfl | simp [Phase.refusal] at h

theorem reaction_shutdown {world : World} {server : Server} {method : Method}
    {message : Message} (hname : method.name = "shutdown") :
    Reaction world server message (server.receiveShutdown world method message) := by
  unfold receiveShutdown
  split
  case h_1 => exact .ignored rfl rfl
  case h_2 hrefusal =>
    have hrunning := running_of_refusal hrefusal
    rcases deliver_cases world { server with phase := .shutDown } method message with
      ⟨reply, h⟩ | ⟨call, -, hcall, h⟩
    · rw [h]
      exact .shutDown hrunning rfl rfl
    · obtain rfl : .shutdown = call := by
        simp only [call?, hname] at hcall
        split at hcall
        · simp at hcall
        · exact Option.some.inj hcall
      rw [h]
      exact .shutDown hrunning rfl rfl

theorem reaction_cancel {world : World} {server : Server} {method : Method}
    {message : Message} (hname : method.name = "$/cancelRequest") :
    Reaction world server message (server.deliver world method message) := by
  rcases deliver_cases world server method message with ⟨reply, h⟩ | ⟨call, -, hcall, h⟩
  · rw [h]
    exact .ignored rfl rfl
  · obtain ⟨id, rfl⟩ : ∃ id, call = .cancel id := by
      simp only [call?, hname] at hcall
      split at hcall
      · simp at hcall
      · obtain ⟨id, -, rfl⟩ := Option.map_eq_some_iff.mp hcall
        exact ⟨_, rfl⟩
    rw [h]
    exact .ignored rfl rfl

theorem reaction_other {world : World} {server : Server} {method : Method}
    {message : Message} (hmethod : method? message.method = some method)
    (hname : method.name ∉ sessionMethods) :
    Reaction world server message (server.receiveOther world method message) := by
  unfold receiveOther
  split
  case h_1 => exact .ignored rfl rfl
  case h_2 hrefusal =>
    rcases deliver_cases world server method message with ⟨reply, h⟩ | ⟨call, hkind, hcall, h⟩
    · rw [h]
      exact .ignored rfl rfl
    · have hasked : asked? message = some call := by simp [asked?, hmethod, hname, hkind, hcall]
      rw [h]
      exact .handled (running_of_refusal hrefusal) hasked

theorem reaction_of_receive? {world : World} {server : Server} {message : Message}
    {outcome : Outcome} (h : server.receive? world message = some outcome) :
    Reaction world server message outcome := by
  unfold receive? at h
  split at h
  case isTrue => simp at h
  case isFalse =>
    obtain rfl := Option.some.inj h
    cases hmethod : method? message.method with
    | none =>
      simp only [receiveUnknown]
      split <;> exact .ignored rfl rfl
    | some method =>
      simp only
      split
      case isTrue => exact .exited rfl rfl
      case isFalse hexit =>
        split
        case isTrue hname => exact reaction_connect hmethod hname
        case isFalse hconnect =>
          split
          case isTrue hname => exact reaction_shutdown hname
          case isFalse hshutdown =>
            split
            case isTrue hname => exact reaction_cancel hname
            case isFalse =>
              exact reaction_other hmethod (by simp [sessionMethods, hexit, hconnect, hshutdown])

theorem step_next (world : World) (server : Server) (message : Message) :
    Step world server message (server.next world message) := by
  unfold next
  cases hreceived : server.receive? world message with
  | none => exact .ignored
  | some outcome =>
    simp only
    cases reaction_of_receive? hreceived with
    | ignored hserver =>
      rw [hserver]
      exact .ignored
    | connected hfresh h => exact .connected hfresh h
    | shutDown h hserver =>
      rw [hserver]
      exact .shutDown h
    | exited hserver =>
      rw [hserver]
      exact .exited
    | handled hrunning h => exact .handled hrunning h

/-! ## What a session keeps -/

/-- The second state continues a session that had begun in the first: the setup is the same, the
phase has not gone back. -/
structure Continues (first second : Server) : Prop where
  client : second.client = first.client
  settings : second.settings = first.settings
  root : second.root = first.root
  watches : second.watches = first.watches
  begun : second.phase ≠ .fresh
  running : second.phase = .running → first.phase = .running

theorem Continues.refl {server : Server} (h : server.phase ≠ .fresh) : Continues server server :=
  ⟨rfl, rfl, rfl, rfl, h, id⟩

theorem Continues.trans {a b c : Server} (hab : Continues a b) (hbc : Continues b c) :
    Continues a c where
  client := hbc.client.trans hab.client
  settings := hbc.settings.trans hab.settings
  root := hbc.root.trans hab.root
  watches := hbc.watches.trans hab.watches
  begun := hbc.begun
  running h := hab.running (hbc.running h)

theorem server_definition (files : FileSystem) (server : Server) (uri : Url) (position : Position) :
    (server.definition files uri position).server = server := by
  unfold definition
  split
  · rfl
  · split
    · rfl
    · split <;> rfl

theorem handle_of_ordinary (world : World) (server : Server) {call : Call}
    (h : Ordinary call) :
    ∃ documents nextId, (server.handle world call).server = { server with documents, nextId } := by
  cases call with
  | connect setup => exact h.elim
  | shutdown => exact h.elim
  | exit => exact h.elim
  | initialized =>
    simp only [handle, initialized]
    split
    · exact ⟨server.documents, server.nextId + 1, rfl⟩
    · exact ⟨server.documents, server.nextId, rfl⟩
  | didOpen uri text => exact ⟨_, server.nextId, rfl⟩
  | didChange uri texts =>
    cases texts with
    | nil => exact ⟨server.documents, server.nextId, rfl⟩
    | cons text more => exact ⟨_, server.nextId, rfl⟩
  | didClose uri => exact ⟨_, server.nextId, rfl⟩
  | filesChanged changes => exact ⟨server.documents, server.nextId, rfl⟩
  | outline uri => exact ⟨server.documents, server.nextId, rfl⟩
  | definition uri position =>
    exact ⟨server.documents, server.nextId, server_definition world.disk server uri position⟩
  | unserved method => exact ⟨server.documents, server.nextId, rfl⟩
  | silent method => exact ⟨server.documents, server.nextId, rfl⟩
  | cancel id => exact ⟨server.documents, server.nextId, rfl⟩

theorem continues_next {server : Server} (world : World) (message : Message)
    (h : server.phase ≠ .fresh) : Continues server (server.next world message) := by
  have hstep := step_next world server message
  generalize server.next world message = next at hstep ⊢
  cases hstep with
  | ignored => exact .refl h
  | connected hfresh => exact absurd hfresh h
  | shutDown => exact ⟨rfl, rfl, rfl, rfl, nofun, nofun⟩
  | exited => exact ⟨rfl, rfl, rfl, rfl, nofun, nofun⟩
  | handled hrunning hasked =>
    obtain ⟨documents, nextId, hserver⟩ :=
      handle_of_ordinary world server (ordinary_of_asked? hasked)
    rw [hserver]
    exact ⟨rfl, rfl, rfl, rfl, h, id⟩

/-! ## Runs -/

/-- The state after a run, each message with the disk it meets. -/
def after (server : Server) : List (World × Message) → Server
  | [] => server
  | (world, message) :: rest => (server.next world message).after rest

theorem after_append (server : Server) (before later : List (World × Message)) :
    server.after (before ++ later) = (server.after before).after later := by
  induction before generalizing server with
  | nil => rfl
  | cons step before ih => exact ih _

theorem continues_after {server : Server} (steps : List (World × Message))
    (h : server.phase ≠ .fresh) : Continues server (server.after steps) := by
  induction steps generalizing server with
  | nil => exact .refl h
  | cons step steps ih =>
    have hnext := continues_next step.1 step.2 h
    exact hnext.trans (ih hnext.begun)

end JinieServer.Server
