import JinieServer.Text.Percent

/-!
# Tables of code points

A table lists ranges of code points in ascending order, each with the numbers that belong to it.
It is written as rows between blanks and line ends, `first-last=value,value` in hexadecimal. A
range of one code point leaves out `-last`, and a row without numbers leaves out `=`.
-/

namespace JinieServer.Text

structure Row where
  first : Nat
  last : Nat
  values : List Nat
deriving DecidableEq, Repr

abbrev Table := Array Row

/-! ## Reading -/

def hexNumber (digits : List Char) : Nat :=
  digits.foldl (fun n c => n * 16 + (hexValue? c).getD 0) 0

def Row.ofText (text : List Char) : Row :=
  let span := text.takeWhile (· ≠ '=')
  let values := text.drop (span.length + 1)
  let first := span.takeWhile (· ≠ '-')
  let last := span.drop (first.length + 1)
  { first := hexNumber first
    last := hexNumber (if last.isEmpty then first else last)
    values := if values.isEmpty then [] else (values.splitOn ',').map hexNumber }

def Table.ofText (text : String) : Table :=
  let lines := (text.toList.splitOn '\n').flatMap (·.splitOn ' ')
  ((lines.filter (!·.isEmpty)).map Row.ofText).toArray

/-! ## Looking up -/

/-- Halves the rows from `low` up to `high` until one holds the code point. -/
def Table.searchIn (table : Table) (code low high : Nat) : Option Row :=
  if low < high then
    match table[(low + high) / 2]? with
    | none => none
    | some row =>
      if code < row.first then table.searchIn code low ((low + high) / 2)
      else if row.last < code then table.searchIn code ((low + high) / 2 + 1) high
      else some row
  else none
termination_by high - low
decreasing_by all_goals omega

/-- The row that holds a character. -/
def Table.row? (table : Table) (c : Char) : Option Row := table.searchIn c.toNat 0 table.size

def Table.holds (table : Table) (c : Char) : Bool := (table.row? c).isSome

end JinieServer.Text
