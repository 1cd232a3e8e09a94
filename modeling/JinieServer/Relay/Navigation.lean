import JinieServer.Relay.Target
import JinieServer.Url.Parser

/-!
# Following a target in the editor

The relay stands on the editor's side: it opens the file of a target unless it is open already,
and puts the cursor where the declaration is.
-/

namespace JinieServer.Relay

open JinieServer.Definition

inductive Action where
  | openFile (uri : Url)
  | select (uri : Url) (range : Range)
deriving DecidableEq, Repr

/-- How an editor answers: none for success, else the text of its failure. -/
structure Editor where
  opening : Url → Option String
  selecting : Url → Range → Option String

inductive RelayError where
  | malformedParams (cause : DecodeError)
  | invalidUri (uri : String)
  | editor (text : String)
deriving Inhabited

def RelayError.message : RelayError → String
  | .malformedParams cause => "malformed navigation params: " ++ cause.message
  | .invalidUri uri => "invalid navigation target `" ++ uri ++ "`"
  | .editor text => "editor failed to navigate: " ++ text

/-- What a call leads to: the files that are open then, all that was asked of the editor, whether
it failed or not, and the result. -/
structure Outcome (α : Type) where
  opened : List Url
  actions : List Action
  result : Except RelayError α

/-- Selects in a file that is open. -/
def select (editor : Editor) (opened : List Url) (uri : Url) (position : Position) :
    Outcome Unit where
  opened := opened
  actions := [.select uri (Range.at position)]
  result :=
    match editor.selecting uri (Range.at position) with
    | none => .ok ()
    | some text => .error (.editor text)

/-- Follows a target whose file is known. -/
def follow (editor : Editor) (opened : List Url) (uri : Url) (position : Position) :
    Outcome Unit :=
  if opened.contains uri then select editor opened uri position
  else
    match editor.opening uri with
    | some text => ⟨opened, [.openFile uri], .error (.editor text)⟩
    | none =>
      let selected := select editor (uri :: opened) uri position
      { selected with actions := .openFile uri :: selected.actions }

def handle (editor : Editor) (opened : List Url) (target : Target) : Outcome Unit :=
  match Url.parse? target.uri.toList with
  | none => ⟨opened, [], .error (.invalidUri target.uri)⟩
  | some uri => follow editor opened uri target.position

/-- Handles a message of the server; the result says whether it was one for the relay. -/
def handleNotification (editor : Editor) (opened : List Url) (method : String) (params : Json) :
    Outcome Bool :=
  if method ≠ Protocol.openFileMethod then ⟨opened, [], .ok false⟩
  else
    match targetOf params with
    | .error cause => ⟨opened, [], .error (.malformedParams cause)⟩
    | .ok target =>
      let handled := handle editor opened target
      ⟨handled.opened, handled.actions, handled.result.map fun () => true⟩

end JinieServer.Relay
