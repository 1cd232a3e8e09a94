import JinieServer.Command.Options
import JinieServer.Server.State
import JinieServer.Text.Terminal

/-!
# What the command prints instead of serving
-/

namespace JinieServer.Command

def programName : String := "jinie_lsp"

def helpText : String :=
  "Language server for JINIE sources: document outline and cross-file go-to-definition.\n\n" ++
  "Usage: jinie_lsp [OPTIONS]\n\n" ++
  "Options:\n" ++
  "      --stdio               Communicate over stdin/stdout (the only supported transport)\n" ++
  "      --log-level <FILTER>  Log filter, e.g. `debug` or `jinie_lsp=trace`. " ++
  "Overrides RUST_LOG\n" ++
  "      --no-color            Disable ANSI colors in log output\n" ++
  "      --config <PATH>       Extra TOML config file, applied after the user config\n" ++
  "  -h, --help                Print help\n" ++
  "  -V, --version             Print version\n"

def versionText : String := programName ++ " " ++ Server.version ++ "\n"

/-- The text for standard output. -/
def Stop.output : Stop → String
  | .help => helpText
  | .version => versionText
  | _ => ""

/-- What is wrong with the arguments, if anything is. Arguments are shown without the commands that
a terminal would find in them. -/
def Stop.complaint? : Stop → Option String
  | .help => none
  | .version => none
  | .valueMissing key =>
    some ("error: a value is required for '" ++ key.label ++ "' but none was supplied")
  | .repeated label => some ("error: the argument '" ++ label ++ "' cannot be used multiple times")
  | .unexpected argument =>
    some ("error: unexpected argument '" ++ Text.withoutCommands argument ++ "' found")
  | .needlessValue label value =>
    some ("error: unexpected value '" ++ Text.withoutCommands value ++ "' for '" ++ label ++
      "' found; no more were expected")

def Stop.exitCode (stop : Stop) : Nat := if stop.complaint?.isSome then 2 else 0

end JinieServer.Command
