import JinieServer.Log.Filter
import JinieServer.Text.Terminal

/-!
# Log events

An event has a level, the area it comes from, a message and named fields. The text of a line is
the level in capitals, the message, in which a terminal finds no commands, and the fields as
`name=value`.
-/

namespace JinieServer.Log

open JinieServer.Text

inductive Area where
  | startup
  | server
  | folderSearch
  | lookup
  /-- The rules on which messages are let through. -/
  | gate
  | pending
  /-- Messages that nobody serves. -/
  | unserved
deriving DecidableEq, Repr

/-- The name that filters know an area by. -/
def Area.target : Area → String
  | .startup => "jinie_lsp"
  | .server => "jinie_lsp::server"
  | .folderSearch => "jinie_lsp::definition::files"
  | .lookup => "jinie_lsp::definition::resolve"
  | .gate => "tower_lsp::service::layers"
  | .pending => "tower_lsp::service::pending"
  | .unserved => "tower_lsp"

structure Event where
  level : Level
  area : Area
  message : String
  fields : List (String × String) := []
deriving DecidableEq, Repr

def Event.line (event : Event) : String :=
  event.level.name.map Char.toUpper ++ " " ++ inert event.message ++
    String.join (event.fields.map fun (name, value) => " " ++ name ++ "=" ++ value)

/-- Whether a directive speaks about an event. There are no spans around events here, and no event
is known by the value of a field. -/
def Directive.fits (d : Directive) (event : Event) : Bool :=
  d.isStatic &&
    (match d.target with
      | some target => target.isPrefixOf event.area.target.toList
      | none => true) &&
    d.field.all fun field =>
      field.name = "message".toList || event.fields.any fun (name, _) => name.toList = field.name

def Event.isShown (event : Event) (filter : Filter) : Bool :=
  match filter.find? (·.fits event) with
  | some { threshold := some level, .. } => event.level.rank ≤ level.rank
  | _ => false

end JinieServer.Log
