import JinieServer.Proofs.Server.Connect
import JinieServer.Proofs.Server.Definition
import JinieServer.Proofs.Url.Workspace

/-!
# When the client is asked to watch files

The client is asked once for every `initialized` notification, and at no other time, if the
`initialize` that began the session lets the server ask. What is watched was settled by that
message too: the files with the extension of the session, below the workspace if it is a folder.
-/

namespace JinieServer.Server

open JinieServer.Protocol JinieServer.Settings

/-! ## The rules -/

/-- The notification that the client is ready, in a form that is not dropped. -/
structure IsInitialized (message : Message) : Prop where
  method : message.method = "initialized"
  notice : message.isRequest = false
  params : ∃ params, message.params = some params ∧ (Shape.object []).accepts params = true

/-- An `initialize` that lets the server register watchers. -/
def AllowsWatchers (message : Message) : Prop :=
  ∃ params, message.params = some params ∧
    fieldAt? ["capabilities", "workspace", "didChangeWatchedFiles", "dynamicRegistration"]
      connectParams params = some (.bool true)

/-- This message has begun the session, in this world. -/
def BegunBy (server : Server) (steps : List (World × Message)) (origin : World)
    (first : Message) : Prop :=
  ∃ before later, steps = before ++ (origin, first) :: later ∧
    (server.after before).phase = .fresh ∧ (connects? first).isSome

/-- The settings under all the layers that the first message of a session brings. -/
def sessionSettings (base : Settings) (origin : World) (first : Message) : Settings :=
  base.applyAll ((workspaceLayer? origin (givenRoot first)).toList ++
    (optionsLayer? (givenOptions first)).toList)

/-- A pattern for the files with an extension: below a folder, which its URL leads back to, or
everywhere if there is no folder. -/
inductive WatchesFor (root : Option (List UInt8)) (extension : String) : WatchPattern → Prop where
  | below {folder again : List UInt8} {base : Url} (h : root = some folder)
    (hagain : base.folder? = some again) (hparts : Url.parts again = Url.parts folder) :
    WatchesFor root extension (.below base ("**/*." ++ extension))
  | everywhere (h : root = none) : WatchesFor root extension (.everywhere ("**/*." ++ extension))

/-- The parameters of a request that registers one watcher, and nothing else. -/
def RegistersOne (params glob : Json) : Prop :=
  ∃ registration watcher, params.member? "registrations" = some (.arr [registration]) ∧
    registration.member? "method" = some (.str "workspace/didChangeWatchedFiles") ∧
    (registration.member? "registerOptions").bind (Json.member? "watchers") =
      some (.arr [watcher]) ∧
    watcher.member? "globPattern" = some glob

/-! ## Requests to the client -/

theorem eq_registerWatcher {request : Outgoing} (h : request.method = "client/registerCapability") :
    ∃ id pattern, request = .registerWatcher id pattern := by
  cases request with
  | log severity text => simp [Outgoing.method] at h
  | openFile target => simp [Outgoing.method, openFileMethod] at h
  | registerWatcher id pattern => exact ⟨id, pattern, rfl⟩

theorem registersOne (id : Nat) (pattern : WatchPattern) :
    RegistersOne (Outgoing.registerWatcher id pattern).params pattern.toJson :=
  ⟨_, _, rfl, rfl, rfl, rfl⟩

theorem mem_of_mem_toClient {server : Server} {messages : List Outgoing} {message : Outgoing}
    (h : message ∈ server.toClient messages) : message ∈ messages := by
  unfold toClient at h
  split at h
  · exact h
  · simp at h

theorem registerWatcher_not_mem_lookupMessages (id : Nat) (pattern : WatchPattern)
    (lookup : Option (Except Definition.LookupError (Option Definition.Resolution))) :
    .registerWatcher id pattern ∉ lookupMessages lookup := by
  unfold lookupMessages
  split <;> simp

theorem initialized_of_sent {world : World} {server : Server} {call : Call} {id : Nat}
    {pattern : WatchPattern} (h : .registerWatcher id pattern ∈ (server.handle world call).sent) :
    call = .initialized := by
  cases call with
  | initialized => rfl
  | connect setup => simpa using mem_of_mem_toClient h
  | didOpen uri text => simpa using mem_of_mem_toClient h
  | didClose uri => simpa using mem_of_mem_toClient h
  | filesChanged changes => simpa using mem_of_mem_toClient h
  | definition uri position =>
    simp only [handle, (definition_eq world.disk server uri position).2] at h
    exact absurd (mem_of_mem_toClient h) (registerWatcher_not_mem_lookupMessages _ _ _)
  | shutdown => simp [handle] at h
  | exit => simp [handle] at h
  | didChange uri texts => simp [handle, didChange] at h
  | outline uri => simp [handle] at h
  | unserved method => simp [handle] at h
  | silent method => simp [handle] at h
  | cancel id => simp [handle] at h

theorem sent_initialized (server : Server) :
    server.initialized.sent =
      server.toClient
        ((if server.watches then [.registerWatcher server.nextId server.watchPattern] else []) ++
          [.log .info "JinieLSP initialized!"]) := by
  unfold initialized toClient
  cases server.watches <;> cases server.client <;> rfl

theorem mem_sent_initialized {server : Server} (hclient : server.client.isSome)
    (hwatches : server.watches = true) :
    .registerWatcher server.nextId server.watchPattern ∈ server.initialized.sent := by
  simp [sent_initialized, toClient, hclient, hwatches]

theorem sent_initialized_of_request {server : Server} {id : Nat} {pattern : WatchPattern}
    (h : .registerWatcher id pattern ∈ server.initialized.sent) :
    server.client.isSome ∧ server.watches = true ∧ pattern = server.watchPattern ∧
      server.initialized.sent =
        [.registerWatcher id pattern, .log .info "JinieLSP initialized!"] := by
  rw [sent_initialized] at h ⊢
  unfold toClient at h ⊢
  cases hclient : server.client with
  | none => simp [hclient] at h
  | some client =>
    cases hwatches : server.watches with
    | false => simp [hclient, hwatches] at h
    | true =>
      obtain ⟨rfl, rfl⟩ : id = server.nextId ∧ pattern = server.watchPattern := by
        simpa [hclient, hwatches] using h
      simp

theorem watchPattern_initialized (server : Server) :
    server.initialized.server.watchPattern = server.watchPattern := by
  unfold initialized
  split <;> rfl

/-! ## The notification -/

theorem name_of_call?_initialized {method : Method} {params : Option Json}
    (h : call? method params = some .initialized) : method.name = "initialized" := by
  unfold call? at h
  split at h
  case isTrue => simp at h
  case isFalse =>
    simp only at h
    split at h
    case h_2 hname => exact hname
    case h_5 => simp [didOpen?, Option.bind_eq_some_iff] at h
    case h_6 => simp [didChange?, Option.bind_eq_some_iff] at h
    case h_8 => simp [filesChanged?, Option.bind_eq_some_iff] at h
    case h_10 => simp [definition?, Option.bind_eq_some_iff] at h
    case h_12 => split at h <;> simp at h
    all_goals simp at h

theorem method?_initialized :
    method? "initialized" = some (notice "initialized" (Shape.object [])) := rfl

theorem name_of_method? {name : String} {method : Method} (h : method? name = some method) :
    method.name = name := by
  simpa using List.find?_some h

theorem takes_of_call? {method : Method} {params : Option Json} {call : Call}
    (h : call? method params = some call) : method.takes params = true := by
  unfold call? at h
  split at h
  case isTrue => simp at h
  case isFalse htakes => simpa using htakes

theorem asked?_eq_initialized_iff {message : Message} :
    asked? message = some .initialized ↔ IsInitialized message := by
  constructor
  · intro h
    obtain ⟨method, hmethod, -, hkind, hcall⟩ := asked?_eq_some h
    have hname : message.method = "initialized" :=
      (name_of_method? hmethod).symm.trans (name_of_call?_initialized hcall)
    rw [hname, method?_initialized] at hmethod
    obtain rfl := Option.some.inj hmethod
    have htakes := takes_of_call? hcall
    cases hparams : message.params with
    | none =>
      rw [hparams] at htakes
      cases htakes
    | some params =>
      rw [hparams] at htakes
      exact ⟨hname, hkind.symm, params, hparams, htakes⟩
  · rintro ⟨hmethod, hnotice, params, hparams, haccepts⟩
    have hcall : call? (notice "initialized" (Shape.object [])) (some params) =
        some .initialized := by
      simp [call?, Method.takes, notice, haccepts]
    rw [asked?, hmethod, method?_initialized, Option.bind_some, hparams, hcall, hnotice]
    simp [notice, sessionMethods]

/-! ## The message that begins the session -/

theorem watches_setup (params : Json) :
    (setup params).watches = true ↔
      fieldAt? ["capabilities", "workspace", "didChangeWatchedFiles", "dynamicRegistration"]
        connectParams params = some (.bool true) := by
  simp only [setup]
  split
  case h_1 b hgiven => simp [hgiven]
  case h_2 hno =>
    simp only [Bool.false_eq_true, false_iff]
    exact hno true

theorem watches_of_connects? {message : Message} {given : ClientSetup}
    (h : connects? message = some given) : given.watches = true ↔ AllowsWatchers message := by
  obtain ⟨method, -, hname, -, hcall⟩ := connects?_eq_some h
  simp only [call?, hname] at hcall
  split at hcall
  case isTrue => simp at hcall
  case isFalse =>
    obtain rfl : setup (message.params.getD .null) = given := by simpa using hcall
    rw [watches_setup, AllowsWatchers]
    cases message.params with
    | none =>
      simp only [Option.getD_none, reduceCtorEq, false_and, exists_false, iff_false]
      intro hallowed
      cases hallowed
    | some params => simp

theorem exists_begunBy {server : Server} {steps : List (World × Message)}
    (hfresh : server.phase = .fresh) (h : (server.after steps).phase = .running) :
    ∃ origin first, BegunBy server steps origin first := by
  induction steps generalizing server with
  | nil =>
    rw [after, hfresh] at h
    cases h
  | cons step steps ih =>
    obtain ⟨world, message⟩ := step
    by_cases hconnects : (connects? message).isSome
    · exact ⟨world, message, [], steps, rfl, hfresh, hconnects⟩
    · rw [Option.not_isSome_iff_eq_none] at hconnects
      rw [after] at h
      -- Until then the server is as it was started, unless it is told to exit.
      rcases next_of_not_connects? world hfresh hconnects with hsame | hended
      · rw [hsame] at h
        obtain ⟨origin, first, before, later, hsteps, hwaits, hfirst⟩ := ih hfresh h
        refine ⟨origin, first, (world, message) :: before, later, by rw [hsteps]; rfl, ?_, hfirst⟩
        rwa [after, hsame]
      · rw [hended] at h
        have hbegun : ({ server with phase := .exited } : Server).phase ≠ .fresh := by simp
        cases (continues_after steps hbegun).running h

/-- What the first message of a session settles, for as long as the session lasts. -/
structure Settled (server : Server) (base : Settings) (origin : World) (first : Message) :
    Prop where
  settings : server.settings = sessionSettings base origin first
  root : server.root = (givenRoot first).bind Url.folder?
  watches : server.watches = true ↔ AllowsWatchers first

theorem settled_of_begunBy {client : Option Client} {base : Settings}
    {steps : List (World × Message)} {origin : World} {first : Message}
    (h : BegunBy (Server.start client base) steps origin first) :
    Settled ((Server.start client base).after steps) base origin first := by
  obtain ⟨before, later, rfl, hwaits, hconnects⟩ := h
  obtain ⟨given, hgiven⟩ := Option.isSome_iff_exists.mp hconnects
  have hstart := after_eq_self_of_fresh hwaits
  rw [hstart] at hwaits
  rw [after_append, hstart, after, next_of_connects? origin hwaits hgiven]
  have hbegun : ((Server.start client base).connect origin given).server.phase ≠ .fresh := by
    simp [connect]
  have hkept := continues_after later hbegun
  refine ⟨?_, ?_, ?_⟩
  · rw [hkept.settings, sessionSettings, ← connectLayers_eq origin hgiven]
    rfl
  · rw [hkept.root, ← (setup_of_connects? hgiven).1]
    simp [connect, Server.start]
  · rw [hkept.watches, ← watches_of_connects? hgiven]
    rfl

theorem client_next (world : World) (server : Server) (message : Message) :
    (server.next world message).client = server.client := by
  have hstep := step_next world server message
  generalize server.next world message = next at hstep ⊢
  cases hstep with
  | ignored => rfl
  | connected => rfl
  | shutDown => rfl
  | exited => rfl
  | handled hrunning hasked =>
    obtain ⟨documents, nextId, hserver⟩ :=
      handle_of_ordinary world server (ordinary_of_asked? hasked)
    rw [hserver]

theorem client_after (server : Server) (steps : List (World × Message)) :
    (server.after steps).client = server.client := by
  induction steps generalizing server with
  | nil => rfl
  | cons step steps ih =>
    calc (server.after (step :: steps)).client
        = (server.next step.1 step.2).client := ih _
      _ = server.client := client_next step.1 server step.2

theorem watchesFor_watchPattern (server : Server) :
    WatchesFor server.root server.settings.extension server.watchPattern := by
  unfold watchPattern
  split
  case h_1 folder hroot =>
    obtain ⟨again, hagain, hparts⟩ := Url.exists_folder?_ofFolder folder
    exact .below hroot hagain hparts
  case h_2 hroot => exact .everywhere hroot

/-! ## The theorem -/

theorem initialized_of_request {world : World} {server : Server} {message : Message}
    {outcome : Outcome} {id : Nat} {pattern : WatchPattern}
    (h : server.receive? world message = some outcome)
    (hsent : .registerWatcher id pattern ∈ outcome.sent) :
    server.phase = .running ∧ IsInitialized message ∧ outcome = server.initialized := by
  cases reaction_of_receive? h with
  | ignored _ hnothing => simp [hnothing] at hsent
  | connected => simpa [connect] using mem_of_mem_toClient hsent
  | shutDown _ _ hnothing => simp [hnothing] at hsent
  | exited _ hnothing => simp [hnothing] at hsent
  | handled hrunning hasked =>
    obtain rfl := initialized_of_sent hsent
    exact ⟨hrunning, asked?_eq_initialized_iff.mp hasked, rfl⟩

/-- The client is asked to watch files exactly while a running server handles `initialized`, if
there is a client and the message that began the session allows it. There is one request then,
before the greeting, and it registers one watcher: the one that the state shows, for the extension
under all layers, below the workspace exactly if that is a folder. -/
theorem watcher_registered_when_initialized (client : Option Client) (base : Settings)
    (steps : List (World × Message)) (world : World) (message : Message)
    (outcome : Outcome)
    (h : ((Server.start client base).after steps).receive? world message = some outcome) :
    ((∃ request ∈ outcome.sent, request.method = "client/registerCapability") ↔
      client.isSome ∧ ((Server.start client base).after steps).phase = .running ∧
        IsInitialized message ∧
        ∃ origin first, BegunBy (Server.start client base) steps origin first ∧
          AllowsWatchers first) ∧
    ∀ request ∈ outcome.sent, request.method = "client/registerCapability" →
      ∃ pattern, outcome.sent = [request, .log .info "JinieLSP initialized!"] ∧
        RegistersOne request.params pattern.toJson ∧
        ((Server.start client base).after steps).watchPattern = pattern ∧
        outcome.server.watchPattern = pattern ∧
        ∀ origin first, BegunBy (Server.start client base) steps origin first →
          WatchesFor ((givenRoot first).bind Url.folder?)
            (sessionSettings base origin first).extension pattern := by
  have hclient : ((Server.start client base).after steps).client = client :=
    client_after (Server.start client base) steps
  refine ⟨⟨?_, ?_⟩, ?_⟩
  · rintro ⟨request, hsent, hmethod⟩
    obtain ⟨id, pattern, rfl⟩ := eq_registerWatcher hmethod
    obtain ⟨hrunning, hinitialized, rfl⟩ := initialized_of_request h hsent
    obtain ⟨hsome, hwatches, -⟩ := sent_initialized_of_request hsent
    obtain ⟨origin, first, hbegun⟩ := exists_begunBy rfl hrunning
    rw [hclient] at hsome
    exact ⟨hsome, hrunning, hinitialized, origin, first, hbegun,
      (settled_of_begunBy hbegun).watches.mp hwatches⟩
  · rintro ⟨hsome, hrunning, hinitialized, origin, first, hbegun, hallows⟩
    have hwatches := (settled_of_begunBy hbegun).watches.mpr hallows
    have hreceived := receive?_of_asked? world hrunning (asked?_eq_initialized_iff.mpr hinitialized)
    obtain rfl := Option.some.inj (h.symm.trans hreceived)
    rw [← hclient] at hsome
    exact ⟨_, mem_sent_initialized hsome hwatches, rfl⟩
  · intro request hsent hmethod
    obtain ⟨id, pattern, rfl⟩ := eq_registerWatcher hmethod
    obtain ⟨hrunning, -, rfl⟩ := initialized_of_request h hsent
    obtain ⟨-, -, hpattern, hall⟩ := sent_initialized_of_request hsent
    refine ⟨pattern, hall, registersOne id pattern, hpattern.symm,
      (watchPattern_initialized _).trans hpattern.symm, ?_⟩
    intro origin first hbegun
    have hsettled := settled_of_begunBy hbegun
    rw [← hsettled.root, ← hsettled.settings, hpattern]
    exact watchesFor_watchPattern _

/-- An `initialize` that allows watchers and gives an extension. -/
def watchingConnect (extension : String) : Message where
  method := "initialize"
  params := some (.obj [
    ("capabilities", .obj [("workspace", .obj [
      ("didChangeWatchedFiles", .obj [("dynamicRegistration", .bool true)])])]),
    ("initializationOptions", .obj [("definitionExtension", .str extension)]),
    ("rootUri", .str "file:///a//b%20c")])
  isRequest := true

def readyMessage : Message where
  method := "initialized"
  params := some (.obj [])
  isRequest := false

/-- The second `initialize` is refused. -/
def twiceConnected : List (World × Message) :=
  [(layeredWorld, watchingConnect ".x"), (layeredWorld, watchingConnect ".y")]

def spacedRoot : Url :=
  ⟨"file".toList, some {}, .segments ["a".toList, "b%20c".toList], none, none⟩

theorem watcher_after_second_connect :
    ∃ outcome request,
      ((Server.start (some .refuses) Settings.default).after twiceConnected).receive? layeredWorld
        readyMessage = some outcome ∧
      outcome.sent = [request, .log .info "JinieLSP initialized!"] ∧
      RegistersOne request.params (.obj [
        ("baseUri", .str "file:///a/b%20c"), ("pattern", .str "**/*.x")]) := by
  have hreceived : (((Server.start (some .refuses) Settings.default).after
      twiceConnected).receive? layeredWorld readyMessage).isSome := by decide +kernel
  have hrunning : ((Server.start (some .refuses) Settings.default).after
      twiceConnected).phase = .running := by decide +kernel
  have hpattern : ((Server.start (some .refuses) Settings.default).after
      twiceConnected).watchPattern = .below spacedRoot "**/*.x" := by decide +kernel
  have hbase : spacedRoot.text = "file:///a/b%20c" := by decide +kernel
  obtain ⟨outcome, houtcome⟩ := Option.isSome_iff_exists.mp hreceived
  obtain ⟨hrequest, hregistered⟩ :=
    watcher_registered_when_initialized _ _ _ _ _ _ houtcome
  have hbegun : BegunBy (Server.start (some .refuses) Settings.default) twiceConnected layeredWorld
      (watchingConnect ".x") := ⟨[], _, rfl, rfl, by decide +kernel⟩
  obtain ⟨request, hsent, hmethod⟩ := hrequest.mpr ⟨rfl, hrunning, ⟨rfl, rfl, _, rfl, rfl⟩,
    layeredWorld, watchingConnect ".x", hbegun, _, rfl, rfl⟩
  obtain ⟨pattern, hall, hone, hstate, -, -⟩ := hregistered request hsent hmethod
  obtain rfl : .below spacedRoot "**/*.x" = pattern := hpattern.symm.trans hstate
  rw [WatchPattern.toJson, hbase] at hone
  exact ⟨outcome, request, houtcome, hall, hone⟩

end JinieServer.Server
