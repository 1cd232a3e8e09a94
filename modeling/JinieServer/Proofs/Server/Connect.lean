import JinieServer.Proofs.Server.Settings

/-!
# The message that begins a session

An `initialize` brings the layer of the workspace and that of the client's options. `Taken` says
what becomes of a layer: one that is missing changes nothing, and one that is broken is reported
and passed over. The reply is always the same, and the settings stay for the rest of the session.
-/

namespace JinieServer.Server

open JinieServer.Protocol JinieServer.Settings

/-! ## The rules -/

/-- The workspace that an `initialize` names. -/
def givenRoot (message : Message) : Option Url :=
  message.params.bind fun params => (fieldAt? ["rootUri"] connectParams params).bind url?

/-- The options as an `initialize` gives them, which may be null. -/
def givenOptions (message : Message) : Option Json :=
  message.params.bind fun params => fieldAt? ["initializationOptions"] connectParams params

/-- The layer in the workspace's file, if the workspace is a folder. -/
def workspaceLayer? (world : World) (root : Option Url) :
    Option (Except SettingsError Layer) :=
  (root.bind Url.folder?).map fun folder => Layer.load world (workspaceSettingsPath folder)

def optionsLayer? : Option Json → Option (Except SettingsError Layer)
  | none => none
  | some .null => none
  | some options => some (Layer.ofOptions options)

/-- What a layer that may be missing or broken makes of the settings, and what the client is told
about it. -/
inductive Taken (settings : Settings) :
    Option (Except SettingsError Layer) → Settings → List Outgoing → Prop where
  | missing : Taken settings none settings []
  | broken {e : SettingsError} :
    Taken settings (some (.error e)) settings [.log .warning e.message]
  | read {layer : Layer} : Taken settings (some (.ok layer)) (settings.apply layer) []

/-! ## The layers of a message -/

theorem options_setup (params : Json) :
    (setup params).options.map Layer.ofOptions =
      optionsLayer? (fieldAt? ["initializationOptions"] connectParams params) := by
  simp only [setup]
  cases fieldAt? ["initializationOptions"] connectParams params with
  | none => rfl
  | some options => cases options <;> rfl

theorem setup_of_connects? {message : Message} {given : ClientSetup}
    (h : connects? message = some given) :
    given.rootUri = givenRoot message ∧
      given.options.map Layer.ofOptions = optionsLayer? (givenOptions message) := by
  obtain ⟨method, -, hname, -, hcall⟩ := connects?_eq_some h
  simp only [call?, hname] at hcall
  split at hcall
  case isTrue => simp at hcall
  case isFalse =>
    obtain rfl : setup (message.params.getD .null) = given := by simpa using hcall
    rw [givenRoot, givenOptions]
    cases message.params with
    | none => exact ⟨rfl, rfl⟩
    | some params => exact ⟨rfl, options_setup params⟩

theorem connectLayers_eq {message : Message} {given : ClientSetup} (world : World)
    (h : connects? message = some given) :
    connectLayers world given =
      (workspaceLayer? world (givenRoot message)).toList ++
        (optionsLayer? (givenOptions message)).toList := by
  obtain ⟨hroot, hoptions⟩ := setup_of_connects? h
  rw [← hroot, ← hoptions, connectLayers, workspaceLayer?]
  cases given.rootUri.bind Url.folder? <;> cases given.options <;> rfl

/-! ## Every workspace and all options can be given -/

/-- An `initialize` that names this workspace and gives these options. -/
def connectMessage (root : Option String) (options : Option Json) : Message where
  method := "initialize"
  params := some (.obj ([("capabilities", .obj [])] ++
    (options.map ("initializationOptions", ·)).toList ++
    (root.map fun text => ("rootUri", .str text)).toList))
  isRequest := true

theorem accepts_record (flat : Bool) (fields : List (String × Presence × Shape))
    (members : List (String × Json)) :
    (Shape.record flat fields).accepts (.obj members) = acceptsMembers fields members := by
  cases flat <;> rfl

theorem accepts_anything (value : Json) : (Shape.orNull .anything).accepts value = true := by
  cases value <;> rfl

theorem takes_connectMessage {root : Option String} (options : Option Json)
    (h : ∀ text ∈ root, (Url.parse? text.toList).isSome) :
    (request "initialize" connectParams).takes (connectMessage root options).params = true := by
  have hcapabilities : clientCapabilities.accepts (.obj []) = true := rfl
  have hroot : ∀ text ∈ root, (Shape.orNull .url).accepts (.str text) = true := h
  cases root <;> cases options <;>
    simp [Method.takes, request, connectMessage, connectParams, Shape.object, accepts_record,
      acceptsMembers, Shape.may, Shape.need, Shape.mayEnd, Json.member?, accepts_anything,
      hcapabilities, hroot]

theorem connects?_connectMessage {root : Option String} (options : Option Json)
    (h : ∀ text ∈ root, (Url.parse? text.toList).isSome) :
    (connects? (connectMessage root options)).isSome := by
  have hcall : call? (request "initialize" connectParams) (connectMessage root options).params =
      some (.connect (setup ((connectMessage root options).params.getD .null))) := by
    rw [call?, takes_connectMessage options h]
    rfl
  obtain ⟨given, -, hgiven⟩ := connects?_of_call? rfl rfl rfl hcall
  simp [hgiven]

theorem given_connectMessage (root : Option String) (options : Option Json) :
    givenRoot (connectMessage root options) = root.bind (fun text => Url.parse? text.toList) ∧
      givenOptions (connectMessage root options) = options := by
  cases root <;> cases options <;>
    simp [givenRoot, givenOptions, connectMessage, connectParams, Shape.object, fieldAt?, field?,
      Shape.may, Shape.need, Shape.mayEnd, Json.member?, url?]

/-! ## Taking the layers -/

theorem taken_applyAll (settings : Settings) (layer : Option (Except SettingsError Layer)) :
    Taken settings layer (settings.applyAll layer.toList)
      ((Layer.failures layer.toList).map (.log .warning)) := by
  match layer with
  | none => exact .missing
  | some (.error e) => exact .broken
  | some (.ok layer) => exact .read

theorem failures_append (lower upper : List (Except SettingsError Layer)) :
    Layer.failures (lower ++ upper) = Layer.failures lower ++ Layer.failures upper :=
  List.filterMap_append

theorem connect_taken {message : Message} {given : ClientSetup} (world : World)
    (server : Server) (h : connects? message = some given) :
    ∃ middle warnings more,
      Taken server.base (workspaceLayer? world (givenRoot message)) middle warnings ∧
      Taken middle (optionsLayer? (givenOptions message))
        (server.connect world given).server.settings more ∧
      (server.connect world given).sent = server.toClient (warnings ++ more) := by
  have hlayers := connectLayers_eq world h
  have hworkspace := taken_applyAll server.base (workspaceLayer? world (givenRoot message))
  have hoptions := taken_applyAll
    (server.base.applyAll (workspaceLayer? world (givenRoot message)).toList)
    (optionsLayer? (givenOptions message))
  rw [← applyAll_append, ← hlayers] at hoptions
  refine ⟨_, _, _, hworkspace, hoptions, ?_⟩
  simp only [connect, hlayers, failures_append, List.map_append]

theorem watchPattern_after_of_begun {server : Server} (steps : List (World × Message))
    (h : server.phase ≠ .fresh) : (server.after steps).watchPattern = server.watchPattern := by
  have hkept := continues_after steps h
  rw [watchPattern, watchPattern, hkept.root, hkept.settings]

/-! ## The theorem -/

/-- Every `initialize` that fits has the same reply, whatever becomes of its layers: the settings
are the base under the layers that could be read, each broken one is reported once, the workspace's
first, and neither the settings nor the pattern of the watcher change later in the session. Every
URL can be named as the workspace, and every value given as the options. -/
theorem connect_passes_over_broken_layers (client : Option Client) (base : Settings) :
    (∀ before world message, ((Server.start client base).after before).phase = .fresh →
      (connects? message).isSome →
      ∃ outcome middle warnings more,
        ((Server.start client base).after before).receive? world message = some outcome ∧
        outcome.reply = some (.result capabilities) ∧
        Taken base (workspaceLayer? world (givenRoot message)) middle warnings ∧
        Taken middle (optionsLayer? (givenOptions message)) outcome.server.settings more ∧
        outcome.sent = (if client.isSome then warnings ++ more else []) ∧
        ∀ later, (outcome.server.after later).settings = outcome.server.settings ∧
          (outcome.server.after later).watchPattern = outcome.server.watchPattern) ∧
    (∀ (root : Option String) (options : Option Json),
      (∀ text ∈ root, (Url.parse? text.toList).isSome) →
      ∃ message, (connects? message).isSome ∧
        givenRoot message = root.bind (fun text => Url.parse? text.toList) ∧
        givenOptions message = options) := by
  constructor
  · intro before world message hwaits hconnects
    obtain ⟨given, hgiven⟩ := Option.isSome_iff_exists.mp hconnects
    have hstart := after_eq_self_of_fresh hwaits
    rw [hstart] at hwaits ⊢
    obtain ⟨middle, warnings, more, hworkspace, hoptions, hsent⟩ :=
      connect_taken world (Server.start client base) hgiven
    have hbegun : ((Server.start client base).connect world given).server.phase ≠ .fresh := nofun
    refine ⟨_, middle, warnings, more, receive?_of_connects? world hwaits hgiven, rfl, hworkspace,
      hoptions, hsent, fun later => ?_⟩
    exact ⟨settings_after_of_begun later hbegun, watchPattern_after_of_begun later hbegun⟩
  · intro root options h
    exact ⟨connectMessage root options, connects?_connectMessage options h,
      given_connectMessage root options⟩

theorem Taken.of_failures {settings middle : Settings} {warnings : List Outgoing} {text : String}
    {layer : Option (Except SettingsError Layer)} (h : Taken settings layer middle warnings)
    (hfails : Layer.failures layer.toList = [text]) :
    middle = settings ∧ warnings = [.log .warning text] := by
  cases h with
  | missing => simp [Layer.failures] at hfails
  | @broken e =>
    obtain rfl : e.message = text := by simpa [Layer.failures] using hfails
    exact ⟨rfl, rfl⟩
  | read => simp [Layer.failures] at hfails

/-- Both the workspace's file and the options give a number for the extension. -/
def brokenConnect : Message := connectMessage (some "file:///w") (some (.arr [.int 1]))

theorem both_broken_layers_are_reported :
    (connects? brokenConnect).isSome ∧
    ∃ outcome, (Server.start (some .agrees) Settings.default).receive? layeredWorld brokenConnect =
        some outcome ∧
      outcome.reply = some (.result capabilities) ∧ outcome.server.settings = Settings.default ∧
      outcome.sent = [
        .log .warning ("invalid config file /w/.jinie.toml: " ++ numberRefusal),
        .log .warning
          "invalid initialization options: invalid type: integer `1`, expected a string"] ∧
      (outcome.server.after [(layeredWorld, dottedOptions)]).settings = Settings.default := by
  have hconnects : (connects? brokenConnect).isSome := by decide +kernel
  have hworkspaceFails :
      Layer.failures (workspaceLayer? layeredWorld (givenRoot brokenConnect)).toList =
        ["invalid config file /w/.jinie.toml: " ++ numberRefusal] := by decide +kernel
  have hoptionsFail : Layer.failures (optionsLayer? (givenOptions brokenConnect)).toList =
      ["invalid initialization options: invalid type: integer `1`, expected a string"] := by
    decide +kernel
  obtain ⟨outcome, middle, warnings, more, hreceived, hreply, hworkspace, hoptions, hsent,
      hlater⟩ :=
    (connect_passes_over_broken_layers (some .agrees) Settings.default).1 [] layeredWorld
      brokenConnect rfl hconnects
  obtain ⟨rfl, rfl⟩ := hworkspace.of_failures hworkspaceFails
  obtain ⟨hsettings, rfl⟩ := hoptions.of_failures hoptionsFail
  exact ⟨hconnects, outcome, hreceived, hreply, hsettings, hsent, (hlater _).1.trans hsettings⟩

end JinieServer.Server
