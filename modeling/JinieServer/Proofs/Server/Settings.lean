import JinieServer.Command.Program
import JinieServer.Proofs.Server.Session
import JinieServer.Proofs.Settings.Layers

/-!
# The settings of a session

A session starts from the defaults under the user's file and the file of the command line. The
first fitting `initialize` puts the workspace's file and the client's options on top; no other
message touches the settings.
-/

namespace JinieServer.Server

open JinieServer.Protocol JinieServer.Settings JinieServer.Layer

/-! ## The message that begins a session -/

theorem connects?_eq_some {message : Message} {setup : ClientSetup}
    (h : connects? message = some setup) :
    ∃ method, method? message.method = some method ∧ method.name = "initialize" ∧
      method.isRequest = message.isRequest ∧
      call? method message.params = some (.connect setup) := by
  obtain ⟨method, hmethod, hrest⟩ := Option.bind_eq_some_iff.mp h
  split at hrest
  case isFalse => simp at hrest
  case isTrue hfits =>
    split at hrest
    case h_1 hcall =>
      obtain rfl := Option.some.inj hrest
      exact ⟨method, hmethod, hfits.1, hfits.2, hcall⟩
    case h_2 => simp at hrest

theorem receive?_of_connects? {server : Server} {message : Message} {setup : ClientSetup}
    (world : World) (hfresh : server.phase = .fresh) (h : connects? message = some setup) :
    server.receive? world message = some (server.connect world setup) := by
  obtain ⟨method, hmethod, hname, hkind, hcall⟩ := connects?_eq_some h
  have hdeliver := deliver_of_call? world server hkind hcall
  simp [receive?, hfresh, hmethod, hname, receiveConnect, hdeliver, handle]

theorem next_of_connects? {server : Server} {message : Message} {setup : ClientSetup}
    (world : World) (hfresh : server.phase = .fresh) (h : connects? message = some setup) :
    server.next world message = (server.connect world setup).server := by
  rw [next, receive?_of_connects? world hfresh h]

theorem next_of_not_connects? {server : Server} {message : Message} (world : World)
    (hfresh : server.phase = .fresh) (h : connects? message = none) :
    server.next world message = server ∨
      server.next world message = { server with phase := .exited } := by
  have hstep := step_next world server message
  generalize server.next world message = next at hstep ⊢
  cases hstep with
  | ignored => exact Or.inl rfl
  | connected _ hconnects => simp [h] at hconnects
  | shutDown hrunning => simp [hfresh] at hrunning
  | exited => exact Or.inr rfl
  | handled hrunning => simp [hfresh] at hrunning

/-! ## Runs -/

/-- The layers that a session has brought: those of the `initialize` that began it, or none. -/
inductive Brought (server : Server) (steps : List (World × Message)) :
    List (Except SettingsError Layer) → Prop where
  | nothing (h : ∀ before world message later, steps = before ++ (world, message) :: later →
      (server.after before).phase = .fresh → connects? message = none) :
    Brought server steps []
  | connected {before later : List (World × Message)} {world : World}
    {message : Message} {setup : ClientSetup} (hsteps : steps = before ++ (world, message) :: later)
    (hfresh : (server.after before).phase = .fresh) (h : connects? message = some setup) :
    Brought server steps (connectLayers world setup)

theorem exists_brought (server : Server) (steps : List (World × Message)) :
    ∃ layers, Brought server steps layers := by
  by_cases hnothing : ∀ before world message later, steps = before ++ (world, message) :: later →
      (server.after before).phase = .fresh → connects? message = none
  · exact ⟨[], .nothing hnothing⟩
  · push Not at hnothing
    obtain ⟨before, world, message, later, hsteps, hfresh, hsome⟩ := hnothing
    obtain ⟨setup, hsetup⟩ := Option.ne_none_iff_exists'.mp hsome
    exact ⟨_, .connected hsteps hfresh hsetup⟩

theorem after_eq_self_of_fresh {server : Server} {steps : List (World × Message)}
    (h : (server.after steps).phase = .fresh) : server.after steps = server := by
  induction steps generalizing server with
  | nil => rfl
  | cons step steps ih =>
    obtain ⟨world, message⟩ := step
    have hwaits : (server.next world message).phase = .fresh := by
      by_contra hbegun
      exact (continues_after steps hbegun).begun h
    have hfresh : server.phase = .fresh := by
      by_contra hbegun
      exact (continues_next world message hbegun).begun hwaits
    have hsame : server.next world message = server := by
      cases hconnects : connects? message with
      | some setup =>
        rw [next_of_connects? world hfresh hconnects] at hwaits
        simp [connect] at hwaits
      | none =>
        rcases next_of_not_connects? world hfresh hconnects with hsame | hended
        · exact hsame
        · simp [hended] at hwaits
    calc server.after ((world, message) :: steps)
        = server.next world message := ih h
      _ = server := hsame

theorem settings_after_of_begun {server : Server} (steps : List (World × Message))
    (h : server.phase ≠ .fresh) : (server.after steps).settings = server.settings :=
  (continues_after steps h).settings

theorem settings_after_of_nothing {server : Server} {steps : List (World × Message)}
    (hfresh : server.phase = .fresh)
    (h : ∀ before world message later, steps = before ++ (world, message) :: later →
      (server.after before).phase = .fresh → connects? message = none) :
    (server.after steps).settings = server.settings := by
  induction steps generalizing server with
  | nil => rfl
  | cons step steps ih =>
    obtain ⟨world, message⟩ := step
    rw [after]
    rcases next_of_not_connects? world hfresh (h [] world message steps rfl hfresh) with
      hsame | hended
    · rw [hsame]
      refine ih hfresh fun before world' message' later hsteps hwaits => ?_
      refine h ((world, message) :: before) world' message' later (by rw [hsteps]; rfl) ?_
      rwa [after, hsame]
    · rw [hended]
      exact settings_after_of_begun steps (by simp)

/-- The settings of a session are those it was started with under the layers it has brought. -/
theorem settings_after_of_brought {server : Server} {steps : List (World × Message)}
    {layers : List (Except SettingsError Layer)} (hfresh : server.phase = .fresh)
    (hbase : server.settings = server.base) (h : Brought server steps layers) :
    (server.after steps).settings = server.base.applyAll layers := by
  cases h with
  | nothing h =>
    rw [settings_after_of_nothing hfresh h, hbase]
    rfl
  | @connected before later world message setup hsteps hwaits h =>
    have hsame := after_eq_self_of_fresh hwaits
    rw [hsteps, after_append, hsame, after, next_of_connects? world hfresh h]
    rw [settings_after_of_begun later (by simp [connect])]
    rfl

/-! ## All layers of a session -/

/-- The server as the program starts it. -/
def started (client : Option Client) (world : World) (environment : Command.Environment)
    (options : Command.Options) : Server :=
  Server.start client (Command.startSettings world environment options)

theorem settings_started_after {client : Option Client} {world : World}
    {environment : Command.Environment} {options : Command.Options}
    {steps : List (World × Message)} {late : List (Except SettingsError Layer)}
    (h : Brought (started client world environment options) steps late) :
    ((started client world environment options).after steps).settings =
      Settings.default.applyAll (Command.startLayers world environment options ++ late) := by
  rw [settings_after_of_brought rfl rfl h, applyAll_append]
  rfl

/-- The defaults lie below the user's file, the file of the command line, the workspace's file and
the client's options, and of each setting the last value that one of them gives wins. Layers that
could not be read and files that are not there give nothing, and what is given for one setting
does not matter for the other. -/
theorem last_given_setting_wins :
    (∀ base layers settings, Settings.applyAll base layers = settings ↔
      LastWins base layers settings) ∧
    (∀ base layers other others,
      SameFor Settings.extension GivesExtension base layers other others →
      (base.applyAll layers).extension = (other.applyAll others).extension) ∧
    (∀ base layers other others,
      SameFor Settings.sharedFolder GivesFolder base layers other others →
      (base.applyAll layers).sharedFolder = (other.applyAll others).sharedFolder) ∧
    (∀ e, GivesNothing (.error e)) ∧
    (∀ world path, world.disk.read path = .error .notFound →
      GivesNothing (Layer.load world path)) ∧
    (∀ server steps, ∃ late, Brought server steps late) ∧
    (∀ client base steps late, Brought (Server.start client base) steps late →
      LastWins base late ((Server.start client base).after steps).settings) ∧
    (∀ client world environment options steps late,
      Brought (started client world environment options) steps late →
      LastWins Settings.default (Command.startLayers world environment options ++ late)
        ((started client world environment options).after steps).settings) ∧
    (∀ layers, WellFormed (Settings.default.applyAll layers)) ∧
    (∀ client world environment options steps,
      WellFormed ((started client world environment options).after steps).settings) := by
  refine ⟨?_, ?_, ?_, ?_, ?_, ?_, ?_, ?_, ?_, ?_⟩
  · intro base layers settings
    exact applyAll_eq_iff
  · intro base layers other others h
    exact setting_applyAll_congr follows_extension h
  · intro base layers other others h
    exact setting_applyAll_congr follows_sharedFolder h
  · exact givesNothing_error
  · intro world path hmissing
    exact givesNothing_of_missing hmissing
  · exact exists_brought
  · intro client base steps late h
    exact applyAll_eq_iff.mp (settings_after_of_brought rfl rfl h).symm
  · intro client world environment options steps late h
    exact applyAll_eq_iff.mp (settings_started_after h).symm
  · exact wellFormed_default.applyAll
  · intro client world environment options steps
    obtain ⟨late, hlate⟩ := exists_brought (started client world environment options) steps
    rw [settings_started_after hlate]
    exact wellFormed_default.applyAll _

/-- What the TOML library says about a number in the place of the extension. -/
def numberRefusal : String :=
  "TOML parse error at line 1, column 24\n" ++
  "  |\n" ++
  "1 | definition_extension = 3\n" ++
  "  |                        ^\n" ++
  "invalid type: integer `3`, expected a string\n"

/-- A world with these files to read, in which the TOML library refuses a text in these words. -/
def worldOf (files : List (String × String)) (refusal : String) : World where
  disk := {
    list := fun _ => .error .notFound
    isFile := fun _ => true
    read := fun path =>
      (files.find? fun file => Text.utf8 file.1.toList = path).elim (.error .notFound)
        fun file => .ok file.2.toList }
  refusal _ := refusal

/-- A user's file sets both settings, and a workspace's file gives a number for the extension. -/
def layeredWorld : World :=
  worldOf [("/h/.config/jinie-lsp/config.toml",
      "definition_extension = \"..defs\"\nshared_folder = \"LOCAL\""),
    ("/w/.jinie.toml", "definition_extension = 3")] numberRefusal

/-- The command line names a file that is not there. -/
def layeredStart : Server :=
  started none layeredWorld { home := some "/h" } { config := some "/none.toml" }

/-- An `initialize` whose options set an extension of dots alone, and a folder. -/
def dottedOptions : Message where
  method := "initialize"
  params := some (.obj [
    ("capabilities", .obj []),
    ("initializationOptions", .obj [
      ("definitionExtension", .str "..."), ("sharedFolder", .str "GLOBAL")]),
    ("rootUri", .str "file:///w")])
  isRequest := true

def dottedSetup : ClientSetup where
  rootUri := some ⟨"file".toList, some {}, .segments ["w".toList], none, none⟩
  options := some (.obj [
    ("definitionExtension", .str "..."), ("sharedFolder", .str "GLOBAL")])

theorem settings_under_dotted_options :
    connects? dottedOptions = some dottedSetup ∧
      (layeredStart.after [(layeredWorld, dottedOptions)]).settings = ⟨"defs", "GLOBAL"⟩ ∧
      LastWins Settings.default
        (Command.startLayers layeredWorld { home := some "/h" } { config := some "/none.toml" } ++
          connectLayers layeredWorld dottedSetup) ⟨"defs", "GLOBAL"⟩ ∧
      GivesNothing (Layer.load layeredWorld (Text.utf8 "/none.toml".toList)) ∧
      (Settings.default.applyAll [.ok ⟨some ".x", some "A"⟩]).extension =
        (Settings.default.applyAll [.ok ⟨some "x", none⟩]).extension := by
  obtain ⟨-, hextension, -, -, hmissing, -, -, hsession, -, -⟩ := last_given_setting_wins
  have hsettings : (layeredStart.after [(layeredWorld, dottedOptions)]).settings =
      ⟨"defs", "GLOBAL"⟩ := by decide +kernel
  have hsetup : connects? dottedOptions = some dottedSetup := rfl
  have hbrought : Brought layeredStart [(layeredWorld, dottedOptions)]
      (connectLayers layeredWorld dottedSetup) :=
    @Brought.connected _ _ [] [] _ _ _ rfl rfl hsetup
  have hsame : SameFor Settings.extension GivesExtension Settings.default
      [.ok ⟨some ".x", some "A"⟩] Settings.default [.ok ⟨some "x", none⟩] := by
    refine ⟨rfl, .cons (fun value => ?_) .nil⟩
    have hdots : withoutDots ".x" = withoutDots "x" := by decide +kernel
    simp [givesExtension_ok_iff, hdots]
  refine ⟨hsetup, hsettings, ?_, hmissing _ _ rfl, hextension _ _ _ _ hsame⟩
  rw [← hsettings]
  exact hsession _ _ _ _ _ _ hbrought

end JinieServer.Server
