/-!
# Log levels

A level is written by its name in any case, or by its number. A threshold lets through nothing, or
everything up to a level.
-/

namespace JinieServer.Log

inductive Level where
  | error
  | warn
  | info
  | debug
  | trace
deriving DecidableEq, Repr

def Level.rank : Level → Nat
  | .error => 1
  | .warn => 2
  | .info => 3
  | .debug => 4
  | .trace => 5

def Level.name : Level → String
  | .error => "error"
  | .warn => "warn"
  | .info => "info"
  | .debug => "debug"
  | .trace => "trace"

abbrev Threshold := Option Level

namespace Threshold

def name : Threshold → String
  | none => "off"
  | some level => level.name

def rank : Threshold → Nat
  | none => 0
  | some level => level.rank

def all : List Threshold :=
  [none, some .error, some .warn, some .info, some .debug, some .trace]

end Threshold

def digits? (text : List Char) : Option Nat :=
  if text.isEmpty || !text.all Char.isDigit then none
  else some (Nat.ofDigitChars 10 text 0)

/-- A number in digits, with or without a plus before it. -/
def natural? : List Char → Option Nat
  | '+' :: digits => digits? digits
  | digits => digits? digits

/-- No text at all stands for errors. -/
def threshold? (text : List Char) : Option Threshold :=
  match natural? text with
  | some n => Threshold.all.find? (·.rank = n)
  | none =>
    if text.isEmpty then some (some .error)
    else Threshold.all.find? (·.name.toList = text.map Char.toLower)

end JinieServer.Log
