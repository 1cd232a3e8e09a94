import JinieServer.Url.Basic

/-!
# Reading URLs

Blanks and controls around the text, and tabs and line ends anywhere in it, are ignored. Web
schemes and `file` are special: they take `\` for `/`, know domains, and always have a path.
-/

namespace JinieServer.Url

open JinieServer.Text

/-! ## Which characters are escaped -/

def isPrintable (c : Char) : Bool := isAscii c && !isControl c

def isFragmentChar (c : Char) : Bool := isPrintable c && !(" \"<>`".toList.contains c)

def isPathChar (c : Char) : Bool := isFragmentChar c && !("#?\x7b\x7d".toList.contains c)

def isQueryChar (special : Bool) (c : Char) : Bool :=
  isPrintable c && !(" \"#<>".toList.contains c) && !(special && c = '\'')

def isCredentialChar (c : Char) : Bool := isPathChar c && !("/:;=@[\\]^|".toList.contains c)

/-! ## Schemes -/

inductive SchemeKind where
  | file
  | web
  | other
deriving DecidableEq, Repr

def fileScheme : List Char := ['f', 'i', 'l', 'e']

def defaultPort? (scheme : List Char) : Option Nat :=
  if scheme = "http".toList || scheme = "ws".toList then some 80
  else if scheme = "https".toList || scheme = "wss".toList then some 443
  else if scheme = "ftp".toList then some 21
  else none

def schemeKind (scheme : List Char) : SchemeKind :=
  if scheme = fileScheme then .file
  else if (defaultPort? scheme).isSome then .web
  else .other

def isSchemeChar (c : Char) : Bool := c.isAlphanum || c = '+' || c = '-' || c = '.'

/-- The scheme in small letters, and what follows its colon. -/
def scheme? (input : List Char) : Option (List Char × List Char) :=
  match input.takeWhile isSchemeChar, input.dropWhile isSchemeChar with
  | first :: more, ':' :: rest =>
    if first.isAlpha then some ((first :: more).map Char.toLower, rest) else none
  | _, _ => none

/-! ## Characters that do not count -/

def isIgnored (c : Char) : Bool := c = '\t' || c = '\n' || c = '\r'

def counted (text : List Char) : List Char := text.filter (!isIgnored ·)

/-- What follows the first `n` characters that count. -/
def dropCounted : (n : Nat) → List Char → List Char
  | 0, text => text
  | _ + 1, [] => []
  | n + 1, c :: rest => if isIgnored c then dropCounted (n + 1) rest else dropCounted n rest

/-! ## Segments -/

def isSlash (special : Bool) (c : Char) : Bool := c = '/' || (special && c = '\\')

/-- The segments between slashes. -/
def segmentsOf (special : Bool) (path : List Char) : List (List Char) :=
  (path.map fun c => if isSlash special c then '/' else c).splitOn '/'

/-- `%2e` is a dot in either case. -/
def undot : List Char → List Char
  | '%' :: '2' :: 'e' :: rest => '.' :: undot rest
  | '%' :: '2' :: 'E' :: rest => '.' :: undot rest
  | c :: rest => c :: undot rest
  | [] => []

def isDot (segment : List Char) : Bool := undot segment = ['.']

def isDoubleDot (segment : List Char) : Bool := undot segment = ['.', '.']

def isDriveMark (c : Char) : Bool := c = ':' || c = '|'

def isDriveLetter (segment : List Char) : Bool :=
  match segment with
  | [letter, mark] => letter.isAlpha && isDriveMark mark
  | _ => false

/-- A drive letter, alone or before a backslash. -/
def startsWithDrive (segment : List Char) : Bool :=
  match segment with
  | letter :: mark :: rest =>
    letter.isAlpha && isDriveMark mark && (rest.isEmpty || rest.head? = some '\\')
  | _ => false

/-- A drive and the rest of its segment, if a line end parts them. -/
def partedDrive? (segment : List Char) : Option (List Char × List Char) :=
  match counted segment, dropCounted 2 segment with
  | letter :: ':' :: c :: rest, next :: _ =>
    if letter.isAlpha && isIgnored next then some ([letter, ':'], c :: rest) else none
  | _, _ => none

/-! ## Paths -/

/-- A path while it is read: the segments that a slash has closed, backwards, and whether it starts
with a drive letter. The root slash closes an empty segment. -/
structure OpenPath where
  closed : List (List Char)
  onDrive : Bool := false
deriving DecidableEq, Repr

def OpenPath.root : OpenPath := { closed := [[]] }

/-- Nothing has been read, not even the root slash. -/
def OpenPath.unread : OpenPath := { closed := [] }

/-- Removes the last segment, but neither the root nor a drive. -/
def OpenPath.shorten (path : OpenPath) : OpenPath :=
  match path.closed with
  | last :: earlier :: more =>
    if startsWithDrive last then path else { path with closed := earlier :: more }
  | _ => path

/-- Closes a segment that is not made of dots. A drive letter at the root of a file path is written
with a colon. -/
def OpenPath.push (file : Bool) (path : OpenPath) (segment : List Char) : OpenPath :=
  match segment with
  | [letter, mark] =>
    if file && path.closed.length = 1 && letter.isAlpha && isDriveMark mark then
      ⟨[letter, ':'] :: path.closed, true⟩
    else { path with closed := segment :: path.closed }
  | _ => { path with closed := segment :: path.closed }

/-- Reads the segments one by one. Dots at the end leave an empty last segment. -/
def OpenPath.read (file : Bool) (path : OpenPath) : List (List Char) → OpenPath
  | [] => path
  | raw :: rest =>
    let ended (path : OpenPath) : OpenPath :=
      if rest.isEmpty then { path with closed := [] :: path.closed } else path
    let segment := escape isPathChar (counted raw)
    match if file && path.closed = [[]] then partedDrive? raw else none with
    | some (drive, behind) =>
      let closed := escape isPathChar behind :: drive :: path.closed
      OpenPath.read file { path with closed } rest
    | none =>
      if isDoubleDot segment then OpenPath.read file (ended path.shorten) rest
      else if isDot segment then OpenPath.read file (ended path) rest
      else OpenPath.read file (path.push file segment) rest

/-- The segments behind the root slash. -/
def OpenPath.segments (path : OpenPath) : List (List Char) := path.closed.reverse.drop 1

/-- A file path does not start with empty segments. -/
def dropLeadingEmpty (segments : List (List Char)) : List (List Char) :=
  match segments.dropWhile (·.isEmpty) with
  | [] => [[]]
  | kept => kept

/-- The path of a special scheme that follows its root slash, if that is written. -/
def rooted (text : List Char) : List (List Char) :=
  segmentsOf true (if (counted text).head?.any (isSlash true) then dropCounted 1 text else text)

/-! ## Authorities -/

/-- The text before the last `@` and the text behind it. -/
def credentials (text : List Char) : Option (List Char) × List Char :=
  if text.contains '@' then
    let behind := (text.reverse.takeWhile (· ≠ '@')).reverse
    (some (text.take (text.length - behind.length - 1)), behind)
  else (none, text)

/-- The part before a colon that stands outside brackets. -/
def hostPart (inBrackets : Bool) : List Char → List Char
  | [] => []
  | c :: rest =>
    if c = ':' && !inBrackets then []
    else c :: hostPart (if c = '[' then true else if c = ']' then false else inBrackets) rest

/-- The port written behind a host: none if it is empty or the scheme's own. -/
def port? (scheme : List Char) (digits : List Char) : Option (Option Nat) :=
  if digits.all Char.isDigit then
    let port := Nat.ofDigitChars 10 digits 0
    if digits.isEmpty then some none
    else if port > 65535 then none
    else if defaultPort? scheme = some port then some none
    else some (some port)
  else none

/-- Reads an authority and gives back what follows its port; `followed` says whether anything
stands behind the text. A port ends at a backslash too. -/
def authority? (scheme : List Char) (followed : Bool) (text : List Char) :
    Option (Authority × List Char) := do
  let special := schemeKind scheme = .web
  let (info, hostPort) := credentials text
  if info = some [] ∧ hostPort = [] ∧ followed then none
  else
    let info := info.getD []
    let user := escape isCredentialChar (info.takeWhile (· ≠ ':'))
    let password := escape isCredentialChar ((info.dropWhile (· ≠ ':')).drop 1)
    let name := hostPart false hostPort
    let behind := (hostPort.drop name.length).drop 1
    let digits := behind.takeWhile (· ≠ '\\')
    let port ← port? scheme digits
    if name.isEmpty then
      let bare := user.isEmpty && password.isEmpty && hostPort.isEmpty
      if special || !bare then none else some ({}, [])
    else
      let host ← if special then host? name else opaqueHost? name
      return ({ user, password, host := some host, port }, behind.drop digits.length)

/-! ## The parts behind the scheme -/

/-- The authority and the path of a URL. -/
abbrev Front := Option Authority × UrlPath

def fileFront (host : Option Host) (path : OpenPath) : Front :=
  (some { host := if path.onDrive then none else host }, .segments (dropLeadingEmpty path.segments))

/-- The characters of `text` that do not count still part a drive from the rest of a segment. -/
def fileFront? (text : List Char) : Option Front :=
  let whole (start : OpenPath) (text : List Char) : OpenPath :=
    start.read true (segmentsOf true text)
  match counted text with
  | [] => some (fileFront none (whole .root []))
  | c :: rest =>
    if !isSlash true c then some (fileFront none (whole .root text))
    else if !rest.head?.any (isSlash true) then some (fileFront none (whole .unread text))
    else
      let name := (rest.drop 1).takeWhile (!isSlash true ·)
      let behind := dropCounted (name.length + 2) text
      if name.isEmpty then some (fileFront none (whole .root behind))
      else if isDriveLetter name then some (fileFront none (whole .root (dropCounted 2 text)))
      else do
        let host ← host? name
        if host = .domain "localhost".toList then some (fileFront none (whole .root behind))
        else some (fileFront (some host) (OpenPath.root.read true (rooted behind)))

def webFront? (scheme : List Char) (followed : Bool) (body : List Char) : Option Front := do
  let text := body.dropWhile (isSlash true)
  let name := text.takeWhile (!isSlash true ·)
  let behind := text.dropWhile (!isSlash true ·)
  let (authority, _) ← authority? scheme (followed || !behind.isEmpty) name
  return (some authority, .segments (OpenPath.root.read false (rooted behind)).segments)

def otherFront? (scheme : List Char) (followed : Bool) (body : List Char) : Option Front :=
  match body with
  | '/' :: '/' :: text => do
    let name := text.takeWhile (· ≠ '/')
    let behind := text.dropWhile (· ≠ '/')
    let (authority, unread) ← authority? scheme (followed || !behind.isEmpty) name
    let start := if unread.isEmpty then OpenPath.unread else .root
    let path := start.read false (segmentsOf false (unread ++ behind))
    return (some authority, .segments path.segments)
  | '/' :: text =>
    some (none, .segments (OpenPath.root.read false (segmentsOf false text)).segments)
  | text => some (none, .whole (escape isPrintable text))

/-! ## Whole URLs -/

/-- The text without the blanks and controls around it. -/
def trimmed (text : List Char) : List Char :=
  let outside (c : Char) : Bool := c.toNat ≤ 0x20
  ((text.dropWhile outside).reverse.dropWhile outside).reverse

def parse? (text : List Char) : Option Url := do
  let text := trimmed text
  let (scheme, rest) ← scheme? (counted text)
  let kind := schemeKind scheme
  let beforeFragment := rest.takeWhile (· ≠ '#')
  let fragment := rest.drop beforeFragment.length
  let body := beforeFragment.takeWhile (· ≠ '?')
  let query := beforeFragment.drop body.length
  let followed := !query.isEmpty || !fragment.isEmpty
  let (authority, path) ← match kind with
    | .file =>
      fileFront? ((dropCounted (scheme.length + 1) text).takeWhile fun c => c ≠ '#' ∧ c ≠ '?')
    | .web => webFront? scheme followed body
    | .other => otherFront? scheme followed body
  let escapedQuery := escape (isQueryChar (kind ≠ .other)) (query.drop 1)
  let escapedFragment := escape isFragmentChar (fragment.drop 1)
  return {
    scheme, authority, path
    query := if query.isEmpty then none else some escapedQuery
    fragment := if fragment.isEmpty then none else some escapedFragment }

end JinieServer.Url
