import JinieServer.Proofs.Definition.Outline

/-!
# Two texts, one below the other

A feed between two texts ends the last line of the first. What is found in the whole is what is
found in the two, with the places of the second moved down by the lines of the first.
-/

namespace JinieServer

def Position.down (count : Nat) (p : Position) : Position :=
  { p with line := UInt32.ofNat (p.line.toNat + count) }

def Range.down (count : Nat) (range : Range) : Range :=
  ⟨range.start.down count, range.stop.down count⟩

/-- The symbol with its span moved down by some lines. -/
def Source.Symbol.down (count : Nat) (symbol : Symbol) : Symbol :=
  { symbol with range := symbol.range.down count }

namespace Text

/-! ## The last line of the first text -/

theorem exists_last_line (text : List Char) :
    ∃ earlier last, '\n' ∉ last ∧ earlier.length = text.count '\n' ∧
      lines text = earlier ++ lines last ∧
      ∀ rest, lines (text ++ '\n' :: rest) = earlier ++ closeLine last.reverse :: lines rest := by
  induction text using lines_induction with
  | nil => exact ⟨[], [], by simp, rfl, rfl, fun rest => lines_feed rest (by simp)⟩
  | last piece hp hne =>
    exact ⟨[], piece, hp, (List.count_eq_zero.mpr hp).symm, rfl, fun rest => lines_feed rest hp⟩
  | feed piece below hp ih =>
    obtain ⟨earlier, last, hlast, hcount, hlines, hfeed⟩ := ih
    refine ⟨closeLine piece.reverse :: earlier, last, hlast, ?_, ?_, ?_⟩
    · simp [hcount, List.count_eq_zero.mpr hp]
    · rw [lines_feed below hp, hlines, List.cons_append]
    · intro rest
      rw [List.append_assoc, List.cons_append, lines_feed _ hp, hfeed, List.cons_append]

end Text

namespace Source

open JinieServer.Text JinieServer.Definition

/-! ## A return at the end of a line -/

theorem nameAt?_append_return {keyword : List Char} (hk : IsName keyword) (tail : List Char) :
    nameAt? keyword (tail ++ ['\r']) = nameAt? keyword tail := by
  ext name
  rw [nameAt?_eq_some_iff, nameAt?_eq_some_iff, OccursAt, OccursAt, List.nil_append]
  refine and_congr_right fun hname => ⟨fun hpre => ?_, List.prefix_append_of_prefix⟩
  refine prefix_of_prefix_append_cons ?_ hpre
  have hreturn : isNameChar '\r' = false := by decide
  simp [occurrenceText, not_mem_name hk hreturn, not_mem_name hname hreturn]

theorem names_append_return {keyword : List Char} (hk : IsName keyword) (line : List Char) :
    names keyword (line ++ ['\r']) = names keyword line := by
  have hsame : nameAt? keyword ∘ (· ++ ['\r']) = nameAt? keyword :=
    funext (nameAt?_append_return hk)
  have hend : ['\r'].tails.tail.filterMap (nameAt? keyword) = [] := by simp [nameAt?_nil]
  rw [names_eq_filterMap_tails hk, names_eq_filterMap_tails hk, List.tails_append,
    List.filterMap_append, List.filterMap_map, hsame, hend, List.append_nil]

theorem names_closeLine {keyword : List Char} (hk : IsName keyword) (piece : List Char) :
    names keyword (closeLine piece.reverse) = names keyword piece := by
  rcases piece_eq_closeLine piece with h | h
  · rw [← h]
  · conv_rhs => rw [h, names_append_return hk]

theorem oneLine_of_isName {name : List Char} (h : IsName name) : OneLine name where
  ne_nil := h.1
  no_feed := feed_not_mem_name h
  no_return hlast := not_mem_name h (by decide) (List.mem_of_getLast? hlast)

theorem nameRange_closeLine {name : List Char} (piece : List Char) (index : UInt32)
    (h : IsName name) :
    nameRange (closeLine piece.reverse) index name = nameRange piece index name := by
  rw [nameRange, nameRange, (oneLine_of_isName h).before?_closeLine]

theorem lineSymbols_closeLine (piece : List Char) (index : UInt32) :
    lineSymbols (closeLine piece.reverse) index = lineSymbols piece index := by
  rw [lineSymbols, lineSymbols, declaredNames, names_closeLine isName_declarationKeyword]
  refine List.map_congr_left fun name hname => ?_
  rw [nameRange_closeLine piece index (mem_declaredNames_iff.mp hname).1]

/-- The call on a line. -/
def lineCall? (line : List Char) (index : UInt32) : Option Symbol :=
  (calledName? line).map fun name => ⟨String.ofList name, nameRange line index name⟩

theorem callAt?_eq_bind (text : List Char) (position : Position) :
    callAt? text position =
      (lines text)[position.line.toNat]?.bind (lineCall? · position.line) := by
  rw [callAt?]
  congr 1
  funext line
  rw [lineCall?]
  cases calledName? line <;> rfl

theorem lineCall?_closeLine (piece : List Char) (index : UInt32) :
    lineCall? (closeLine piece.reverse) index = lineCall? piece index := by
  rw [lineCall?, lineCall?, calledName?, calledName?, names_closeLine isName_callKeyword]
  refine Option.map_congr fun name hname => ?_
  have hmem := List.mem_of_head? hname
  rw [nameRange_closeLine piece index ((mem_names_iff isName_callKeyword).mp hmem).1]

/-! ## Moving down -/

theorem ofNat_toNat_add (i count : Nat) :
    UInt32.ofNat ((UInt32.ofNat i).toNat + count) = UInt32.ofNat (i + count) := by
  rw [UInt32.ofNat_add, UInt32.ofNat_toNat, UInt32.ofNat_add]

theorem nameRange_down (line name : List Char) (i count : Nat) :
    (nameRange line (UInt32.ofNat i) name).down count =
      nameRange line (UInt32.ofNat (i + count)) name := by
  simp only [nameRange, Range.down, Position.down, ofNat_toNat_add]

theorem map_down_lineSymbols (line : List Char) (i count : Nat) :
    (lineSymbols line (UInt32.ofNat i)).map (Symbol.down count) =
      lineSymbols line (UInt32.ofNat (i + count)) := by
  rw [lineSymbols, lineSymbols, List.map_map]
  refine List.map_congr_left fun name _ => ?_
  rw [Function.comp_apply, Symbol.down, nameRange_down]

theorem map_down_lineCall? (line : List Char) (i count : Nat) :
    (lineCall? line (UInt32.ofNat i)).map (Symbol.down count) =
      lineCall? line (UInt32.ofNat (i + count)) := by
  rw [lineCall?, lineCall?, Option.map_map]
  refine Option.map_congr fun name _ => ?_
  rw [Function.comp_apply, Symbol.down, nameRange_down]

/-! ## The outline -/

/-- The symbols of some lines, the first of which has the number `start`. -/
def symbolsFrom (start : Nat) (list : List (List Char)) : List Symbol :=
  (list.zipIdx start).flatMap fun (line, i) => lineSymbols line (UInt32.ofNat i)

theorem symbols_eq_symbolsFrom (text : List Char) : symbols text = symbolsFrom 0 (lines text) := rfl

theorem symbolsFrom_append (start : Nat) (above below : List (List Char)) :
    symbolsFrom start (above ++ below) =
      symbolsFrom start above ++ symbolsFrom (start + above.length) below := by
  rw [symbolsFrom, List.zipIdx_append, List.flatMap_append, symbolsFrom, symbolsFrom]

theorem symbolsFrom_cons (start : Nat) (line : List Char) (below : List (List Char)) :
    symbolsFrom start (line :: below) =
      lineSymbols line (UInt32.ofNat start) ++ symbolsFrom (start + 1) below := rfl

theorem map_down_symbolsFrom (start count : Nat) (list : List (List Char)) :
    (symbolsFrom start list).map (Symbol.down count) = symbolsFrom (start + count) list := by
  induction list generalizing start with
  | nil => rfl
  | cons line list ih =>
    rw [symbolsFrom_cons, symbolsFrom_cons, List.map_append, map_down_lineSymbols, ih,
      Nat.add_right_comm]

theorem lineSymbols_nil (index : UInt32) : lineSymbols [] index = [] := by
  simp [lineSymbols, declaredNames, names]

theorem symbolsFrom_last {last : List Char} (start : Nat) (h : '\n' ∉ last) :
    symbolsFrom start (lines last) = lineSymbols last (UInt32.ofNat start) := by
  by_cases hne : last = []
  · rw [hne, lines_nil, lineSymbols_nil]
    rfl
  · rw [lines_last h hne, symbolsFrom_cons]
    exact List.append_nil _

theorem symbols_append_feed (above below : List Char) :
    symbols (above ++ '\n' :: below) =
      symbols above ++ (symbols below).map (Symbol.down (above.count '\n' + 1)) := by
  obtain ⟨earlier, last, hlast, hcount, hlines, hfeed⟩ := exists_last_line above
  simp only [symbols_eq_symbolsFrom, hlines, hfeed, symbolsFrom_append, symbolsFrom_cons,
    lineSymbols_closeLine, symbolsFrom_last _ hlast, map_down_symbolsFrom, hcount,
    List.append_assoc]
  rw [Nat.zero_add, Nat.zero_add]

/-! ## Calls -/

theorem lineCall?_nil (index : UInt32) : lineCall? [] index = none := by
  simp [lineCall?, calledName?, names]

theorem bind_lineCall?_last {last : List Char} (index : UInt32) (h : '\n' ∉ last) :
    (lines last)[0]?.bind (lineCall? · index) = lineCall? last index := by
  by_cases hne : last = []
  · rw [hne, lines_nil, lineCall?_nil]
    rfl
  · rw [lines_last h hne]
    rfl

theorem callAt?_above {above below : List Char} {position : Position}
    (h : position.line.toNat < above.count '\n' + 1) :
    callAt? (above ++ '\n' :: below) position = callAt? above position := by
  obtain ⟨earlier, last, hlast, hcount, hlines, hfeed⟩ := exists_last_line above
  rw [callAt?_eq_bind, callAt?_eq_bind, hlines, hfeed]
  by_cases hearlier : position.line.toNat < earlier.length
  · rw [List.getElem?_append_left hearlier, List.getElem?_append_left hearlier]
  · -- The last line: the feed takes a return from it, and makes it a line even if it is empty.
    have hzero : position.line.toNat - earlier.length = 0 := by omega
    rw [List.getElem?_append_right (by omega), List.getElem?_append_right (by omega), hzero,
      bind_lineCall?_last _ hlast, List.getElem?_cons_zero, Option.bind_some, lineCall?_closeLine]

theorem callAt?_below {above below : List Char} {position : Position}
    (h : above.count '\n' + 1 ≤ position.line.toNat) :
    callAt? (above ++ '\n' :: below) position =
      (callAt? below
        { position with
          line := UInt32.ofNat (position.line.toNat - (above.count '\n' + 1)) }).map
        (Symbol.down (above.count '\n' + 1)) := by
  obtain ⟨earlier, last, -, hcount, -, hfeed⟩ := exists_last_line above
  have hline : (UInt32.ofNat (position.line.toNat - (above.count '\n' + 1))).toNat =
      position.line.toNat - (above.count '\n' + 1) := by
    have hlt : position.line.toNat < UInt32.size := position.line.toNat_lt
    exact UInt32.toNat_ofNat_of_lt' (by omega)
  have hback : UInt32.ofNat
      (position.line.toNat - (above.count '\n' + 1) + (above.count '\n' + 1)) =
      position.line := by
    rw [Nat.sub_add_cancel h, UInt32.ofNat_toNat]
  have hindex : position.line.toNat - earlier.length =
      position.line.toNat - (above.count '\n' + 1) + 1 := by omega
  rw [callAt?_eq_bind, callAt?_eq_bind, hfeed, hline, List.getElem?_append_right (by omega),
    hindex, List.getElem?_cons_succ, Option.map_bind]
  congr 1
  funext line
  rw [Function.comp_apply, map_down_lineCall?, hback]

/-! ## The undivided text -/

theorem declarationPosition?_append_feed {name : List Char} (above below : List Char)
    (hname : '\n' ∉ name) :
    declarationPosition? (above ++ '\n' :: below) name =
      (declarationPosition? above name).or
        ((declarationPosition? below name).map (Position.down (above.count '\n' + 1))) := by
  have hneedle := oneLine_declarationText hname
  by_cases hin : declarationText name <:+: above
  · rw [declarationPosition?, before?_append_of_occurs _ hin, ← declarationPosition?]
    cases hposition : declarationPosition? above name with
    | some position => rfl
    | none =>
      rw [declarationPosition?, Option.map_eq_none_iff, before?_eq_none_iff] at hposition
      exact absurd hin hposition
  · -- The declaration text has no feed, so it cannot cross the one between the two.
    have hnone : declarationPosition? above name = none := by
      rw [declarationPosition?, before?_eq_none_iff.mpr hin, Option.map_none]
    rw [hnone, Option.none_or, declarationPosition?,
      before?_append_mark below hneedle.no_feed hneedle.ne_nil hin, Option.map_map,
      declarationPosition?, Option.map_map]
    refine Option.map_congr fun before _ => ?_
    have hsum : above.count '\n' + (before.count '\n' + 1) =
        before.count '\n' + (above.count '\n' + 1) := by omega
    simp only [Function.comp_apply, Position.down, lastLine_append_feed, ofNat_toNat_add,
      List.count_append, List.count_cons_self, hsum]

/-! ## No number is too large -/

section

variable {above below : List Char}
  (hsize : utf16Length (above ++ '\n' :: below) < UInt32.size)

include hsize

theorem toNat_symbol_line_add_lt {symbol : Symbol} (h : symbol ∈ symbols below) :
    symbol.range.start.line.toNat + (above.count '\n' + 1) < UInt32.size ∧
      symbol.range.stop.line.toNat + (above.count '\n' + 1) < UInt32.size := by
  obtain ⟨i, line, name, hline, -, rfl⟩ := line_of_mem_symbols h
  obtain ⟨earlier, last, -, hcount, -, hfeed⟩ := exists_last_line above
  have hi : (UInt32.ofNat i).toNat < (lines below).length :=
    (Nat.mod_le _ _).trans_lt (List.getElem?_eq_some_iff.mp hline).1
  have hle := length_lines_le (above ++ '\n' :: below)
  rw [hfeed, List.length_append, List.length_cons, hcount] at hle
  simp only [nameRange]
  omega

theorem toNat_position_line_add_lt {name : List Char} {position : Position}
    (h : declarationPosition? below name = some position) :
    position.line.toNat + (above.count '\n' + 1) < UInt32.size := by
  obtain ⟨before, hbefore, rfl⟩ := Option.map_eq_some_iff.mp h
  have hpre : before <+: below :=
    (List.prefix_append _ _).trans (firstAt_of_before? hbefore).1
  have hcount := hpre.sublist.count_le '\n'
  have hline : (UInt32.ofNat (before.count '\n')).toNat ≤ before.count '\n' := Nat.mod_le _ _
  have hfeeds : (above ++ '\n' :: below).count '\n' ≤ utf16Length (above ++ '\n' :: below) :=
    List.count_le_length.trans (length_le_utf16Length _)
  rw [List.count_append, List.count_cons_self] at hfeeds
  simp only
  omega

end

/-! ## The theorem -/

/-- What is found in two texts with a feed between them is what is found in the first, and below it
what is found in the second, moved down by one line and one more for each feed of the first. No
line number overflows by it. -/
theorem scan_append_feed (above below : List Char)
    (hsize : utf16Length (above ++ '\n' :: below) < UInt32.size) :
    symbols (above ++ '\n' :: below) =
      symbols above ++ (symbols below).map (Symbol.down (above.count '\n' + 1)) ∧
    (∀ name, '\n' ∉ name →
      declarationPosition? (above ++ '\n' :: below) name =
        (declarationPosition? above name).or
          ((declarationPosition? below name).map (Position.down (above.count '\n' + 1)))) ∧
    (∀ position : Position,
      callAt? (above ++ '\n' :: below) position =
        if position.line.toNat < above.count '\n' + 1 then callAt? above position
        else
          (callAt? below
            { position with
              line := UInt32.ofNat (position.line.toNat - (above.count '\n' + 1)) }).map
            (Symbol.down (above.count '\n' + 1))) ∧
    (∀ symbol ∈ symbols below,
      symbol.range.start.line.toNat + (above.count '\n' + 1) < UInt32.size ∧
        symbol.range.stop.line.toNat + (above.count '\n' + 1) < UInt32.size) ∧
    ∀ name position, declarationPosition? below name = some position →
      position.line.toNat + (above.count '\n' + 1) < UInt32.size := by
  refine ⟨symbols_append_feed above below, ?_, ?_, ?_, ?_⟩
  · intro name hname
    exact declarationPosition?_append_feed above below hname
  · intro position
    split
    case isTrue h => exact callAt?_above h
    case isFalse h => exact callAt?_below (Nat.le_of_not_lt h)
  · intro symbol hsymbol
    exact toNat_symbol_line_add_lt hsize hsymbol
  · intro name position hposition
    exact toNat_position_line_add_lt hsize hposition

/-- The first text ends in a return, so its last line changes, but nothing that is found in it. -/
theorem scan_around_seam :
    utf16Length ("\nJINIE f(\r".toList ++ '\n' :: "JINIE g(\nCALL f(".toList) < UInt32.size ∧
    '\n' ∉ "g".toList ∧
    symbols ("\nJINIE f(\r".toList ++ '\n' :: "JINIE g(\nCALL f(".toList) =
      [⟨"f", ⟨⟨1, 6⟩, ⟨1, 7⟩⟩⟩, ⟨"g", ⟨⟨2, 6⟩, ⟨2, 7⟩⟩⟩] ∧
    declarationPosition? ("\nJINIE f(\r".toList ++ '\n' :: "JINIE g(\nCALL f(".toList)
      "g".toList = some ⟨2, 0⟩ ∧
    callAt? ("\nJINIE f(\r".toList ++ '\n' :: "JINIE g(\nCALL f(".toList) ⟨3, 7⟩ =
      some ⟨"f", ⟨⟨3, 5⟩, ⟨3, 6⟩⟩⟩ := by
  obtain ⟨hsymbols, hraw, hcalls, -, -⟩ :=
    scan_append_feed "\nJINIE f(\r".toList "JINIE g(\nCALL f(".toList (by decide)
  refine ⟨by decide, by decide, hsymbols.trans ?_, (hraw _ (by decide)).trans ?_,
    (hcalls _).trans ?_⟩
  · decide +kernel
  · decide +kernel
  · decide +kernel

end Source

end JinieServer
