import JinieServer.Log.FieldValue
import JinieServer.Text.Utf8

/-!
# Directives

A directive such as `debug`, `jinie_lsp=trace` or `app[span{field=1}]=info` sets a threshold for the
events of a target, in a span, or with a field.

Blanks around a directive do not change what its parts are, but they count: every part is cut from
the whole text, at the bytes where it stands in the text without them. So only a directive without
blanks in front names what it seems to.
-/

namespace JinieServer.Log

open JinieServer.Text

structure Field where
  name : List Char
  value : Option FieldValue := none
deriving DecidableEq, Repr

structure Directive where
  target : Option (List Char) := none
  span : Option (List Char) := none
  field : Option Field := none
  threshold : Threshold := some .trace
deriving DecidableEq, Repr

/-! ## Reading -/

def byteSize (text : List Char) : Nat := (utf8 text).length

/-- The text between two bytes, if both of them start a character or end the text. -/
def cut? (text : List Char) (start stop : Nat) : Option (List Char) :=
  ofUtf8? (((utf8 text).take stop).drop start)

/-- The threshold from a byte on; nothing written lets everything through. -/
def thresholdAt? (text : List Char) (start : Nat) : Option Threshold :=
  (cut? text start (byteSize text)).bind fun word =>
    if word.isEmpty then some (some .trace) else threshold? word

/-- A name, and a value behind an equals sign. What a second one cuts off is not read. -/
def field? (text : List Char) : Option Field :=
  if text.isEmpty then none
  else
    match text.splitOn '=' with
    | name :: value :: _ =>
      (FieldValue.ofText? value).map fun value => { name, value := some value }
    | _ => some { name := text }

/-- What follows the bracket behind a span: nothing, or an equals sign and a threshold. -/
def behindSpan? (text : List Char) (start : Nat) (directive : Directive) :
    List Char → Option Directive
  | [] => some directive
  | '=' :: _ => (thresholdAt? text (start + 1)).map fun threshold => { directive with threshold }
  | _ => none

/-- The inside of a span's brackets, from a byte on, and what follows them. -/
def span? (text : List Char) (start : Nat) (directive : Directive) (inner : List Char) :
    Option Directive := do
  let name := inner.takeWhile fun c => c ≠ ']' && c ≠ '\x7b'
  let stop := start + byteSize name
  match inner.drop name.length with
  | ']' :: rest =>
    let span ← cut? text start stop
    behindSpan? text (stop + 1) { directive with span := some span } rest
  | '\x7b' :: rest =>
    let span ← cut? text start stop
    let body := rest.takeWhile (· ≠ '\x7d')
    let fieldStop := stop + 1 + byteSize body
    match rest.drop body.length with
    | '\x7d' :: ']' :: rest =>
      let field ← (cut? text (stop + 1) fieldStop).bind field?
      let span := if span.isEmpty then none else some span
      behindSpan? text (fieldStop + 2) { directive with span, field := some field } rest
    | _ => none
  | _ => none

def opensTarget (c : Char) : Bool := c = '-' || c = ':' || c = '_' || isAlphanumeric c

/-- A word alone is a threshold if it can be, and else a target that everything is shown of. -/
def Directive.ofText? (text : List Char) : Option Directive :=
  let inner := trim text
  match inner with
  | [] => none
  | '[' :: rest => span? text 1 {} rest
  | c :: _ =>
    if !opensTarget c then none
    else
      let word := inner.takeWhile fun c => c ≠ '=' && c ≠ '['
      let stop := byteSize word
      match inner.drop word.length with
      | '=' :: _ => do
        let target ← cut? text 0 stop
        let threshold ← thresholdAt? text (stop + 1)
        some { target := some target, threshold }
      | '[' :: rest =>
        (cut? text 0 stop).bind fun target => span? text (stop + 1) { target := some target } rest
      | _ =>
        match threshold? text with
        | some threshold => some { threshold }
        | none => some { target := some text }

namespace Directive

/-! ## Kinds -/

/-- Whether a directive looks at spans or fields. -/
def isDynamic (d : Directive) : Bool := d.span.isSome || d.field.isSome

/-- Whether a directive speaks about an event whatever its spans and values are. -/
def isStatic (d : Directive) : Bool := d.span.isNone && d.field.all (·.value.isNone)

/-! ## Order -/

/-- A field with a value is more specific than one without. -/
def fieldOrder (a b : Field) : Ordering :=
  (compare a.value.isSome b.value.isSome).then <|
    (compare a.name b.name).then (compare a.value b.value)

instance : Ord Field := ⟨fieldOrder⟩

/-- The more specific directive is the greater one: by a target and its length, by a span, by a
field, and then by their texts. Thresholds do not count. -/
def order (a b : Directive) : Ordering :=
  (compare (a.target.map byteSize) (b.target.map byteSize)).then <|
    (compare a.span.isSome b.span.isSome).then <|
    (compare a.field.isSome b.field.isSome).then <|
    (compare a.target b.target).then <|
    (compare a.span b.span).then (compare a.field b.field)

/-! ## Text -/

def fieldText (field : Field) : List Char :=
  let value := match field.value with
    | none => []
    | some value => '=' :: value.text
  '\x7b' :: field.name ++ value ++ ['\x7d']

def text (d : Directive) : String :=
  let field := (d.field.map fieldText).getD []
  let brackets := if d.isDynamic then '[' :: d.span.getD [] ++ field ++ [']'] else []
  String.ofList (d.target.getD [] ++ brackets) ++
    (if d.target.isSome || d.isDynamic then "=" else "") ++ Threshold.name d.threshold

end Directive

end JinieServer.Log
