import JinieServer.Proofs.Source.Places
import JinieServer.Proofs.Text.Utf16
import Mathlib.Data.List.Forall2

/-!
# Spans of names

A span starts where the text of a name first stands on its line, which may be further left than
the place that was matched. In UTF-16 units it covers that text and stays inside the line.
-/

namespace JinieServer.Source

open JinieServer.Text

/-- `opening name(` in a text: the number of the line, the line, and where the opening starts. -/
structure Match where
  index : Nat
  line : List Char
  place : Nat
  name : List Char
deriving DecidableEq, Repr

structure Match.In (opening text : List Char) (found : Match) : Prop where
  line : (lines text)[found.index]? = some found.line
  stands : StandsAt opening found.line found.place found.name

/-- The reading order of matches. -/
def Match.Before (found other : Match) : Prop :=
  found.index < other.index ∨ found.index = other.index ∧ found.place < other.place

/-- The part of the line before the name that was matched. -/
def Match.front (opening : List Char) (found : Match) : List Char :=
  found.line.take (found.place + opening.length)

/-- The symbol has the name of the match, and its span covers the first place of that name on the
line. -/
structure Covers (opening : List Char) (found : Match) (symbol : Symbol) : Prop where
  name : symbol.name = String.ofList found.name
  startLine : symbol.range.start.line.toNat = found.index
  stopLine : symbol.range.stop.line.toNat = found.index
  ordered : symbol.range.start.character ≤ symbol.range.stop.character
  inside : symbol.range.stop.character.toNat ≤ (utf16 found.line).length
  units : ((utf16 found.line).take symbol.range.stop.character.toNat).drop
    symbol.range.start.character.toNat = utf16 found.name
  first : ∀ column < symbol.range.start.character.toNat,
    ¬ utf16 found.name <+: (utf16 found.line).drop column
  /-- The search for the name does not come back with nothing. -/
  occurs : (before? found.name found.line).isSome
  atMost : symbol.range.start.character.toNat ≤ (utf16 (found.front opening)).length
  /-- The span is at the match exactly if the name stands at no earlier place. -/
  atMatch : symbol.range.start.character.toNat = (utf16 (found.front opening)).length ↔
    ∀ i < found.place + opening.length, ¬ found.name <+: found.line.drop i

/-! ## The first place in units -/

theorem prefix_drop_iff {name line : List Char} {i : Nat} :
    name <+: line.drop i ↔ line.take i ++ name <+: line := by
  conv_rhs => rhs; rw [← List.take_append_drop i line]
  rw [List.prefix_append_right_inj]

section

variable {name line before : List Char} (h : FirstAt name line before)

include h

theorem prefix_of_firstAt {front : List Char} (hfront : front ++ name <+: line) :
    before <+: front :=
  List.prefix_of_prefix_length_le ((List.prefix_append _ _).trans h.1)
    ((List.prefix_append _ _).trans hfront) (h.2 front hfront)

theorem not_units_of_firstAt (hne : name ≠ []) {column : Nat} (hlt : column < utf16Length before) :
    ¬ utf16 name <+: (utf16 line).drop column := by
  intro hunits
  -- The earlier column is that of a character too, so the name stands at an earlier place.
  obtain ⟨other, hother, rfl⟩ := exists_prefix_of_units_at hne hunits
  have hle := utf16Length_le_of_isInfix (prefix_of_firstAt h hother).isInfix
  omega

theorem utf16Length_eq_iff_of_firstAt {front : List Char} (hfront : front ++ name <+: line) :
    utf16Length before = utf16Length front ↔ ∀ i < front.length, ¬ name <+: line.drop i := by
  obtain ⟨more, rfl⟩ := prefix_of_firstAt h hfront
  constructor
  · intro heq i hi hpre
    have hle := h.2 _ (prefix_drop_iff.mp hpre)
    have hmore := length_le_utf16Length more
    rw [utf16Length_append] at heq
    rw [List.length_append] at hi
    rw [List.length_take] at hle
    omega
  · intro hno
    have hbefore : name <+: line.drop before.length := by
      have hpre : before <+: line := (List.prefix_append _ _).trans h.1
      rw [prefix_drop_iff, ← List.prefix_iff_eq_take.mp hpre]
      exact h.1
    cases more with
    | nil => rw [List.append_nil]
    | cons c more => exact absurd hbefore (hno _ (by simp))

end

/-! ## The span of a match -/

theorem Match.In.front_prefix {opening text : List Char} {found : Match}
    (h : found.In opening text) : found.front opening ++ found.name <+: found.line := by
  rw [Match.front, ← prefix_drop_iff, ← List.drop_drop]
  have hdrop := h.stands.text.drop opening.length
  rw [List.append_assoc, List.drop_left] at hdrop
  exact (List.prefix_append _ _).trans hdrop

theorem Match.In.length_front {opening text : List Char} {found : Match}
    (h : found.In opening text) :
    (found.front opening).length = found.place + opening.length := by
  have hlen := h.stands.text.length_le
  simp only [List.length_append, List.length_drop, List.length_singleton] at hlen
  rw [Match.front, List.length_take]
  omega

def Match.symbol (found : Match) : Symbol :=
  ⟨String.ofList found.name,
    nameRange found.line (UInt32.ofNat found.index) found.name⟩

theorem Match.In.toNat_index {opening text : List Char} {found : Match}
    (h : found.In opening text) (hsize : utf16Length text < UInt32.size) :
    (UInt32.ofNat found.index).toNat = found.index := by
  have hlt := (List.getElem?_eq_some_iff.mp h.line).1
  have hle := length_lines_le text
  exact UInt32.toNat_ofNat_of_lt' (by omega)

theorem Match.In.exists_before? {opening text : List Char} {found : Match}
    (h : found.In opening text) : ∃ before, before? found.name found.line = some before := by
  cases hbefore : before? found.name found.line with
  | some before => exact ⟨before, rfl⟩
  | none =>
    have hin : found.name <:+: found.line :=
      (List.suffix_append _ _).isInfix.trans h.front_prefix.isInfix
    exact absurd hin (before?_eq_none_iff.mp hbefore)

theorem Match.In.covers {opening text : List Char} {found : Match} (h : found.In opening text)
    (hsize : utf16Length text < UInt32.size) : Covers opening found found.symbol := by
  obtain ⟨before, hbefore⟩ := h.exists_before?
  have hfirst := firstAt_of_before? hbefore
  have hmem : found.line ∈ lines text := List.mem_of_getElem? h.line
  have hline := utf16Length_le_of_isInfix (infix_of_mem_lines hmem)
  obtain ⟨hstop, hstart, hle⟩ := toNat_column_add hfirst.1 (by omega)
  rw [Match.symbol, nameRange_of_before? _ hbefore]
  constructor
  case name => rfl
  case startLine => exact h.toNat_index hsize
  case stopLine => exact h.toNat_index hsize
  case ordered =>
    rw [UInt32.le_iff_toNat_le, hstop]
    exact Nat.le_add_right _ _
  case inside => rwa [hstop, hstart, length_utf16]
  case units =>
    obtain ⟨after, hafter⟩ := hfirst.1
    rw [hstop, hstart, ← hafter]
    simp [List.take_append]
  case first =>
    intro column hcolumn
    rw [hstart] at hcolumn
    exact not_units_of_firstAt hfirst h.stands.ne_nil hcolumn
  case occurs => rw [hbefore]; rfl
  case atMost =>
    rw [hstart, length_utf16]
    exact utf16Length_le_of_isInfix (prefix_of_firstAt hfirst h.front_prefix).isInfix
  case atMatch =>
    rw [hstart, length_utf16, ← h.length_front]
    exact utf16Length_eq_iff_of_firstAt hfirst h.front_prefix

/-! ## All matches -/

/-- The matches of a text in reading order. -/
def allMatches (keyword text : List Char) : List Match :=
  (lines text).zipIdx.flatMap fun (line, index) =>
    (places keyword line).map fun (place, name) => ⟨index, line, place, name⟩

theorem mem_allMatches_iff {keyword text : List Char} {found : Match} :
    found ∈ allMatches keyword text ↔ found.In (keyword ++ [' ']) text := by
  simp only [allMatches, List.mem_flatMap, List.mem_map, Prod.exists,
    List.mk_mem_zipIdx_iff_getElem?, mem_places_iff]
  constructor
  · rintro ⟨line, index, hline, place, name, hstands, rfl⟩
    exact ⟨hline, hstands⟩
  · intro h
    exact ⟨found.line, found.index, h.line, found.place, found.name, h.stands, rfl⟩

theorem pairwise_zipIdx_snd {α : Type} (list : List α) :
    list.zipIdx.Pairwise (fun p q => p.2 < q.2) := by
  rw [← List.pairwise_map (f := Prod.snd) (R := (· < ·)), List.zipIdx_map_snd]
  exact List.pairwise_lt_range'

theorem pairwise_allMatches (keyword text : List Char) :
    (allMatches keyword text).Pairwise Match.Before := by
  refine List.pairwise_flatMap.mpr ⟨?_, ?_⟩
  · rintro ⟨line, index⟩ -
    exact (pairwise_places keyword line).map _ fun p q hlt => Or.inr ⟨rfl, hlt⟩
  · refine (pairwise_zipIdx_snd _).imp ?_
    rintro ⟨line, index⟩ ⟨other, below⟩ hlt found hfound next hnext
    obtain ⟨p, -, rfl⟩ := List.mem_map.mp hfound
    obtain ⟨q, -, rfl⟩ := List.mem_map.mp hnext
    exact Or.inl hlt

theorem symbols_eq_map_allMatches (text : List Char) :
    symbols text = (allMatches declarationKeyword text).map Match.symbol := by
  rw [symbols, allMatches, List.map_flatMap]
  congr 1
  funext entry
  obtain ⟨line, index⟩ := entry
  simp only [lineSymbols, declaredNames, names_eq_map_places isName_declarationKeyword,
    List.map_map]
  rfl

theorem exists_match_of_callAt? {text : List Char} {position : Position} {call : Symbol}
    (h : callAt? text position = some call) :
    ∃ found : Match, found.In (callKeyword ++ [' ']) text ∧
      found.index = position.line.toNat ∧
      (∀ other : Match, other.In (callKeyword ++ [' ']) text → other.index = found.index →
        found.place ≤ other.place) ∧
      call = found.symbol := by
  simp only [callAt?, Option.bind_eq_bind, Option.bind_eq_some_iff, Option.pure_def,
    Option.some.injEq] at h
  obtain ⟨line, hline, name, hname, rfl⟩ := h
  obtain ⟨place, hstands, hleast⟩ := standsAt_of_leftmostName (leftmostName_of_head? hname)
  refine ⟨⟨position.line.toNat, line, place, name⟩, ⟨hline, hstands⟩, rfl, ?_, ?_⟩
  · rintro ⟨index, other, next, otherName⟩ ⟨hother, hnext⟩ rfl
    obtain rfl : line = other := Option.some.inj (hline.symm.trans hother)
    exact hleast next otherName hnext
  · rw [Match.symbol, UInt32.ofNat_toNat]

/-! ## The theorem -/

/-- The symbols of a text belong, one by one and in reading order, to the matches of `JINIE name(`,
and a call to the first match of `CALL name(` on its line. Each span covers the first place of its
name on the line of the match. -/
theorem spans_cover_names (text : List Char) (hsize : utf16Length text < UInt32.size) :
    (∃ all : List Match, (∀ found, found ∈ all ↔ found.In "JINIE ".toList text) ∧
      all.Pairwise Match.Before ∧ List.Forall₂ (Covers "JINIE ".toList) all (symbols text)) ∧
    ∀ position call, callAt? text position = some call →
      ∃ found : Match, found.In "CALL ".toList text ∧ found.index = position.line.toNat ∧
        (∀ other : Match, other.In "CALL ".toList text → other.index = found.index →
          found.place ≤ other.place) ∧
        Covers "CALL ".toList found call := by
  constructor
  · refine ⟨allMatches declarationKeyword text, fun found => mem_allMatches_iff,
      pairwise_allMatches _ _, ?_⟩
    rw [symbols_eq_map_allMatches, List.forall₂_map_right_iff, List.forall₂_same]
    intro found hfound
    exact (mem_allMatches_iff.mp hfound).covers hsize
  · intro position call hcall
    obtain ⟨found, hin, hindex, hleast, rfl⟩ := exists_match_of_callAt? hcall
    exact ⟨found, hin, hindex, hleast, hin.covers hsize⟩

/-- Wide characters stand before the names, and some names stand on their line before the match. -/
def wideText : List Char := "x\r\n𝄞f JINIE g(JINIE f(\r\n𝄞 CALL L(CALL g(".toList

theorem spans_behind_wide_characters :
    utf16Length wideText < UInt32.size ∧
    symbols wideText = [⟨"g", ⟨⟨1, 10⟩, ⟨1, 11⟩⟩⟩, ⟨"f", ⟨⟨1, 2⟩, ⟨1, 3⟩⟩⟩] ∧
    callAt? wideText ⟨2, 99⟩ = some ⟨"L", ⟨⟨2, 5⟩, ⟨2, 6⟩⟩⟩ ∧
    (∃ all : List Match, (∀ found, found ∈ all ↔ found.In "JINIE ".toList wideText) ∧
      all.Pairwise Match.Before ∧
      List.Forall₂ (Covers "JINIE ".toList) all
        [⟨"g", ⟨⟨1, 10⟩, ⟨1, 11⟩⟩⟩, ⟨"f", ⟨⟨1, 2⟩, ⟨1, 3⟩⟩⟩]) ∧
    ∃ found : Match, found.In "CALL ".toList wideText ∧ found.index = 2 ∧
      Covers "CALL ".toList found ⟨"L", ⟨⟨2, 5⟩, ⟨2, 6⟩⟩⟩ := by
  have hsize : utf16Length wideText < UInt32.size := by decide
  have hsymbols : symbols wideText =
      [⟨"g", ⟨⟨1, 10⟩, ⟨1, 11⟩⟩⟩, ⟨"f", ⟨⟨1, 2⟩, ⟨1, 3⟩⟩⟩] := by decide +kernel
  have hcall : callAt? wideText ⟨2, 99⟩ = some ⟨"L", ⟨⟨2, 5⟩, ⟨2, 6⟩⟩⟩ := by decide +kernel
  obtain ⟨houtline, hcalls⟩ := spans_cover_names wideText hsize
  obtain ⟨found, hin, hindex, -, hcovers⟩ := hcalls _ _ hcall
  rw [hsymbols] at houtline
  exact ⟨hsize, hsymbols, hcall, houtline, found, hin, hindex, hcovers⟩

end JinieServer.Source
