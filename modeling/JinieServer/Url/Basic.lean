import JinieServer.Url.Host

/-!
# URLs

The parts of a URL and its text. Texts of parts are kept in their escaped form.
-/

namespace JinieServer

namespace Url

open JinieServer.Text

structure Authority where
  user : List Char := []
  password : List Char := []
  host : Option Host := none
  port : Option Nat := none
deriving DecidableEq, Repr

/-- A path of segments starts with a slash; any other path is kept as one text. -/
inductive UrlPath where
  | segments (list : List (List Char))
  | whole (text : List Char)
deriving DecidableEq, Repr

end Url

structure Url where
  scheme : List Char
  authority : Option Url.Authority
  path : Url.UrlPath
  query : Option (List Char)
  fragment : Option (List Char)
deriving DecidableEq, Repr

namespace Url

def Authority.text (a : Authority) : List Char :=
  let password := if a.password.isEmpty then [] else ':' :: a.password
  let credentials :=
    if a.user.isEmpty && a.password.isEmpty then [] else a.user ++ password ++ ['@']
  let host := match a.host with
    | some host => host.text
    | none => []
  let port := match a.port with
    | some port => ':' :: Nat.toDigits 10 port
    | none => []
  credentials ++ host ++ port

def UrlPath.text : UrlPath → List Char
  | .segments list => list.flatMap ('/' :: ·)
  | .whole text => text

/-- The text of a URL. Without an authority, a path that starts with an empty segment is written
behind `/.`, so that it is not read as one. -/
def chars (url : Url) : List Char :=
  let front := match url.authority, url.path with
    | some authority, _ => '/' :: '/' :: authority.text
    | none, .segments ([] :: _ :: _) => ['/', '.']
    | none, _ => []
  let query := match url.query with
    | some query => '?' :: query
    | none => []
  let fragment := match url.fragment with
    | some fragment => '#' :: fragment
    | none => []
  url.scheme ++ ':' :: front ++ url.path.text ++ query ++ fragment

def text (url : Url) : String := String.ofList url.chars

end Url

end JinieServer
