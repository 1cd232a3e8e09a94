/-!
# Command line options

Arguments are read from left to right. An option that takes a value takes it from behind an equals
sign or from the next argument, and is settled when the next option is read or the arguments end.
-/

namespace JinieServer.Command

structure Options where
  /-- Whether standard input and output were asked for. They are used in any case. -/
  stdio : Bool := false
  logLevel : Option String := none
  noColor : Bool := false
  /-- An extra settings file. -/
  config : Option String := none
deriving DecidableEq, Repr, Inhabited

inductive Flag where
  | stdio
  | noColor
deriving DecidableEq, Repr

/-- The options that take a value. -/
inductive Key where
  | logLevel
  | config
deriving DecidableEq, Repr

inductive Switch where
  | flag (flag : Flag)
  | key (key : Key)
  | help
  | version
deriving DecidableEq, Repr

def Flag.label : Flag → String
  | .stdio => "--stdio"
  | .noColor => "--no-color"

def Key.label : Key → String
  | .logLevel => "--log-level <FILTER>"
  | .config => "--config <PATH>"

def Switch.label : Switch → String
  | .flag f => f.label
  | .key k => k.label
  | .help => "--help"
  | .version => "--version"

/-- The switch behind two dashes. -/
def longSwitch? : String → Option Switch
  | "stdio" => some (.flag .stdio)
  | "no-color" => some (.flag .noColor)
  | "log-level" => some (.key .logLevel)
  | "config" => some (.key .config)
  | "help" => some .help
  | "version" => some .version
  | _ => none

/-- Why reading ends before the server starts. -/
inductive Stop where
  | help
  | version
  | valueMissing (key : Key)
  | repeated (label : String)
  | unexpected (argument : String)
  | needlessValue (label value : String)
deriving DecidableEq, Repr

/-- What the arguments read so far say. A key that waits has its value, or still lacks it. -/
structure Progress where
  options : Options := {}
  waiting : Option (Key × Option String) := none

/-! ## Setting options -/

def Options.setFlag (options : Options) : Flag → Except Stop Options
  | .stdio =>
    if options.stdio then .error (.repeated Flag.stdio.label)
    else .ok { options with stdio := true }
  | .noColor =>
    if options.noColor then .error (.repeated Flag.noColor.label)
    else .ok { options with noColor := true }

/-- Sets the value of a key that has none yet. A path may not be empty. -/
def Options.setKey (options : Options) (key : Key) (value : String) : Except Stop Options :=
  match key with
  | .logLevel =>
    if options.logLevel.isSome then .error (.repeated key.label)
    else .ok { options with logLevel := some value }
  | .config =>
    if options.config.isSome then .error (.repeated key.label)
    else if value = "" then .error (.valueMissing key)
    else .ok { options with config := some value }

/-- Sets the key that waits. -/
def Progress.settle (progress : Progress) : Except Stop Options :=
  match progress.waiting with
  | none => .ok progress.options
  | some (key, none) => .error (.valueMissing key)
  | some (key, some value) => progress.options.setKey key value

/-! ## Reading -/

def readSwitch (progress : Progress) (switch : Switch) (value : Option String) :
    Except Stop Progress :=
  match switch, value with
  | .key key, some value => return { options := ← (← progress.settle).setKey key value }
  | .key key, none => return { options := ← progress.settle, waiting := some (key, none) }
  | switch, some value => .error (.needlessValue switch.label value)
  | .flag flag, none => return { options := ← (← progress.settle).setFlag flag }
  | .help, none => do
    let _ ← progress.settle
    .error .help
  | .version, none => do
    let _ ← progress.settle
    .error .version

/-- An argument behind two dashes. -/
def readLong (progress : Progress) (text : List Char) : Except Stop Progress :=
  let name := String.ofList (text.takeWhile (· ≠ '='))
  let value := match text.dropWhile (· ≠ '=') with
    | _ :: value => some (String.ofList value)
    | [] => none
  match longSwitch? name with
  | some switch => readSwitch progress switch value
  | none => .error (.unexpected ("--" ++ name))

/-- An argument behind one dash; both letters that are known end the reading. -/
def readShort (progress : Progress) (letter : Char) : Except Stop Progress :=
  if letter = 'h' then readSwitch progress .help none
  else if letter = 'V' then readSwitch progress .version none
  else .error (.unexpected (String.ofList ['-', letter]))

/-- An argument without a dash is the value of the key that waits for one. -/
def readWord (progress : Progress) (word : String) : Except Stop Progress :=
  match progress.waiting with
  | some (key, none) => .ok { progress with waiting := some (key, some word) }
  | _ => .error (.unexpected word)

def readArgument (progress : Progress) (argument : String) : Except Stop Progress :=
  match argument.toList with
  | '-' :: '-' :: text => readLong progress text
  | '-' :: letter :: _ => readShort progress letter
  | _ => readWord progress argument

/-- Reads the arguments. Nothing may follow two dashes on their own. -/
def readArguments (progress : Progress) : List String → Except Stop Options
  | [] => progress.settle
  | ["--"] => progress.settle
  | "--" :: argument :: _ => .error (.unexpected argument)
  | argument :: rest => do readArguments (← readArgument progress argument) rest

def options (arguments : List String) : Except Stop Options := readArguments {} arguments

end JinieServer.Command
