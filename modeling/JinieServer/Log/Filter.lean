import JinieServer.Log.Directive

/-!
# Log filters

A filter is a list of directives, the most specific one first. The first directive that fits an
event decides whether it is shown.
-/

namespace JinieServer.Log

open JinieServer.Text

abbrev Filter := List Directive

/-- Puts a directive before all that are less specific; an equal one is replaced. -/
def insert (directive : Directive) : Filter → Filter
  | [] => [directive]
  | other :: rest =>
    match directive.order other with
    | .gt => directive :: other :: rest
    | .eq => directive :: rest
    | .lt => other :: insert directive rest

def sorted (directives : List Directive) : Filter :=
  directives.foldl (fun filter directive => insert directive filter) []

/-- Directives that the place of an event decides stand first, then all that look at spans or
fields. -/
def ofDirectives (directives : List Directive) : Filter :=
  let dynamic := directives.filter (·.isDynamic)
  let plain := directives.filter (!·.isDynamic)
  sorted (plain ++ dynamic.filter (·.isStatic)) ++ sorted dynamic

/-! ## Filters from the command line and the environment -/

def words (text : List Char) : List (List Char) := (text.splitOn ',').filter (· ≠ [])

/-- Words that are no directives are left out; nothing left stands for errors only. -/
def ofOption (text : List Char) : Filter :=
  match ofDirectives ((words text).filterMap Directive.ofText?) with
  | [] => [{ threshold := some .error }]
  | filter => filter

def standard : Filter := [{ threshold := some .info }]

/-- One word that is no directive discards the whole text. -/
def ofVariable (text : List Char) : Filter :=
  match (words text).mapM Directive.ofText? with
  | some directives => ofDirectives directives
  | none => standard

/-- The option wins over the variable. -/
def choose (option environment : Option (List Char)) : Filter :=
  match option, environment with
  | some text, _ => ofOption text
  | none, some text => ofVariable text
  | none, none => standard

def text (filter : Filter) : String := String.intercalate "," (filter.map Directive.text)

end JinieServer.Log
