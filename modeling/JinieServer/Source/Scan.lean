import JinieServer.Text.Basic

/-!
# Keywords and names

A declaration is `JINIE name(` and a call is `CALL name(`: the keyword, one blank, a name, and an
opening parenthesis directly after it.
-/

namespace JinieServer.Source

open JinieServer.Text

def declarationKeyword : List Char := ['J', 'I', 'N', 'I', 'E']

def callKeyword : List Char := ['C', 'A', 'L', 'L']

def isNameChar (c : Char) : Bool := c.isAlphanum || c = '_' || c = '.'

/-- The name of the occurrence at the very start of the text, and what follows its parenthesis. -/
def occurrence? (keyword text : List Char) : Option (List Char × List Char) :=
  match after? (keyword ++ [' ']) text with
  | none => none
  | some tail =>
    match tail.takeWhile isNameChar, tail.dropWhile isNameChar with
    | c :: name, '(' :: rest => some (c :: name, rest)
    | _, _ => none

theorem length_of_occurrence? {keyword text name rest : List Char}
    (h : occurrence? keyword text = some (name, rest)) : rest.length < text.length := by
  unfold occurrence? at h
  split at h
  case h_1 => simp at h
  case h_2 tail ht =>
    split at h
    case h_1 c first after hname hrest =>
      have hr : after = rest := by simp_all
      subst hr
      have hlen : (tail.dropWhile isNameChar).length ≤ tail.length :=
        (List.dropWhile_suffix isNameChar).sublist.length_le
      rw [hrest] at hlen
      rw [append_of_after? ht]
      simp at hlen ⊢
      omega
    case h_2 => simp at h

/-- The names of all occurrences, read left to right; reading goes on behind each one found. -/
def names (keyword : List Char) (text : List Char) : List (List Char) :=
  match text with
  | [] => []
  | c :: rest =>
    match _h : occurrence? keyword (c :: rest) with
    | some (name, behind) => name :: names keyword behind
    | none => names keyword rest
termination_by text.length
decreasing_by
  · exact length_of_occurrence? ‹_›
  · simp

def declaredNames (line : List Char) : List (List Char) := names declarationKeyword line

/-- The name of the first call on the line. -/
def calledName? (line : List Char) : Option (List Char) := (names callKeyword line).head?

/-- The text that declares `name`. -/
def declarationText (name : List Char) : List Char :=
  declarationKeyword ++ ' ' :: name ++ ['(']

end JinieServer.Source
