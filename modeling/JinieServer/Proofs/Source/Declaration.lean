import JinieServer.Proofs.Source.Occurrence
import JinieServer.Proofs.Text.Lines
import JinieServer.Source.Outline

/-!
# Three ways to look for a declaration

The outline reads declarations by pattern, a lookup in a document searches its lines for the
declaration text, and a lookup in a file searches the undivided text. They find the same ones.
-/

namespace JinieServer

/-- The reading order of positions. -/
instance : LE Position where
  le p q := p.line < q.line ∨ p.line = q.line ∧ p.character ≤ q.character

def Range.Contains (outer inner : Range) : Prop :=
  outer.start ≤ inner.start ∧ inner.stop ≤ outer.stop

namespace Source

open JinieServer.Text

/-! ## The first line that declares a name -/

/-- `line` stands behind the `earlier` lines of the text, and is the first one that holds the
declaration text of the name. -/
def FirstDeclaring (text name : List Char) (earlier : List (List Char)) (line : List Char) : Prop :=
  (∃ later, lines text = earlier ++ line :: later) ∧ declarationText name <:+: line ∧
    ∀ other ∈ earlier, ¬ declarationText name <:+: other

theorem find?_zipIdx_eq_some_iff {α : Type} {p : α → Bool} {list : List α} {x : α} {i : Nat} :
    list.zipIdx.find? (fun entry => p entry.1) = some (x, i) ↔
      ∃ earlier, (∃ later, list = earlier ++ x :: later) ∧ p x = true ∧
        (∀ y ∈ earlier, ¬ p y = true) ∧ i = earlier.length := by
  rw [List.find?_eq_some_iff_append]
  constructor
  · rintro ⟨hx, before, after, heq, hno⟩
    have hlist := congrArg (List.map Prod.fst) heq
    rw [List.zipIdx_map_fst, List.map_append, List.map_cons] at hlist
    have hi : list.zipIdx[before.length]? = some (x, i) := by simp [heq]
    rw [List.getElem?_zipIdx, hlist] at hi
    refine ⟨before.map Prod.fst, ⟨_, hlist⟩, hx, ?_, ?_⟩
    · intro y hy
      obtain ⟨entry, hentry, rfl⟩ := List.mem_map.mp hy
      simpa using hno entry hentry
    · simpa using hi.symm
  · rintro ⟨earlier, ⟨later, rfl⟩, hx, hno, rfl⟩
    refine ⟨hx, earlier.zipIdx, later.zipIdx (earlier.length + 1), ?_, ?_⟩
    · simp [List.zipIdx_append]
    · intro entry hentry
      simpa using hno entry.1 (List.fst_mem_of_mem_zipIdx hentry)

theorem declarationLine?_eq_some_iff {text name line : List Char} {i : UInt32} :
    declarationLine? text name = some (i, line) ↔
      ∃ earlier, FirstDeclaring text name earlier line ∧ i = UInt32.ofNat earlier.length := by
  simp only [declarationLine?, Option.map_eq_some_iff, Prod.exists, find?_zipIdx_eq_some_iff,
    Prod.mk.injEq, occursIn_iff]
  constructor
  · rintro ⟨line, _, ⟨earlier, hlines, hin, hno, rfl⟩, rfl, rfl⟩
    exact ⟨earlier, ⟨hlines, hin, hno⟩, rfl⟩
  · rintro ⟨earlier, ⟨hlines, hin, hno⟩, rfl⟩
    exact ⟨line, _, ⟨earlier, hlines, hin, hno, rfl⟩, rfl, rfl⟩

theorem map_declarationLine? (text name : List Char) :
    (declarationLine? text name).map (·.2) =
      (lines text).find? (occursIn (declarationText name)) := by
  conv_rhs => rw [← List.zipIdx_map_fst 0 (lines text), List.find?_map]
  rw [declarationLine?, Option.map_map]
  rfl

theorem declarationLine?_eq_none_iff {text name : List Char} :
    declarationLine? text name = none ↔ ∀ line ∈ lines text, ¬ declarationText name <:+: line := by
  have hmap : declarationLine? text name = none ↔
      (declarationLine? text name).map (·.2) = none := Option.map_eq_none_iff.symm
  rw [hmap, map_declarationLine?, List.find?_eq_none]
  simp only [occursIn_iff]

/-! ## The outline -/

theorem mem_declaredNames_iff {line name : List Char} :
    name ∈ declaredNames line ↔ IsName name ∧ declarationText name <:+: line :=
  mem_names_iff isName_declarationKeyword

theorem find?_eq_self {α : Type} [DecidableEq α] (x : α) (list : List α) :
    list.find? (fun y => decide (y = x)) = if x ∈ list then some x else none := by
  induction list with
  | nil => simp
  | cons y list ih =>
    by_cases hy : y = x
    · simp [hy]
    · simp [hy, ih, Ne.symm hy]

theorem find?_lineSymbols {line name : List Char} (index : UInt32) (hname : IsName name) :
    (lineSymbols line index).find? (fun s => decide (s.name = String.ofList name)) =
      if occursIn (declarationText name) line then
        some ⟨String.ofList name, nameRange line index name⟩
      else none := by
  have hmem : name ∈ declaredNames line ↔ occursIn (declarationText name) line = true := by
    rw [mem_declaredNames_iff, occursIn_iff]
    exact and_iff_right hname
  simp only [lineSymbols, List.find?_map, Function.comp_def, String.ofList_inj, find?_eq_self, hmem]
  split <;> rfl

theorem findSome?_eq_map_find? {α β : Type} (p : α → Bool) (f : α → β) (list : List α) :
    list.findSome? (fun x => if p x then some (f x) else none) = (list.find? p).map f := by
  induction list with
  | nil => rfl
  | cons x list ih => cases hx : p x <;> simp [hx, ih]

theorem find?_symbols {name : List Char} (text : List Char) (hname : IsName name) :
    (symbols text).find? (fun s => decide (s.name = String.ofList name)) =
      (declarationLine? text name).map
        fun found => ⟨String.ofList name, nameRange found.2 found.1 name⟩ := by
  simp only [symbols, List.find?_flatMap, find?_lineSymbols _ hname]
  rw [declarationLine?, Option.map_map]
  exact findSome?_eq_map_find? (fun entry : List Char × Nat =>
    occursIn (declarationText name) entry.1) _ _

theorem exists_symbol_iff {text name : List Char} (hname : IsName name) :
    (∃ s ∈ symbols text, s.name = String.ofList name) ↔ (declarationLine? text name).isSome := by
  rw [← Option.isSome_map, ← find?_symbols text hname, List.find?_isSome]
  simp only [decide_eq_true_eq]

theorem line_of_mem_symbols {text : List Char} {s : Symbol} (h : s ∈ symbols text) :
    ∃ i line name, (lines text)[i]? = some line ∧ name ∈ declaredNames line ∧
      s = ⟨String.ofList name, nameRange line (UInt32.ofNat i) name⟩ := by
  simp only [symbols, List.mem_flatMap, Prod.exists, List.mk_mem_zipIdx_iff_getElem?, lineSymbols,
    List.mem_map] at h
  obtain ⟨line, i, hline, name, hname, rfl⟩ := h
  exact ⟨i, line, name, hline, hname, rfl⟩

theorem declarationLine?_le_symbol {text name line : List Char} {i : UInt32} {s : Symbol}
    (hcount : (lines text).length < UInt32.size) (h : declarationLine? text name = some (i, line))
    (hs : s ∈ symbols text) (hname : s.name = String.ofList name) : i ≤ s.range.start.line := by
  obtain ⟨earlier, ⟨⟨later, hlines⟩, -, hno⟩, rfl⟩ := declarationLine?_eq_some_iff.mp h
  obtain ⟨j, other, found, hother, hfound, rfl⟩ := line_of_mem_symbols hs
  obtain rfl : found = name := String.ofList_inj.mp hname
  have hj : earlier.length ≤ j := by
    by_contra hlt
    rw [hlines, List.getElem?_append_left (by omega)] at hother
    exact hno other (List.mem_of_getElem? hother) (mem_declaredNames_iff.mp hfound).2
  have hlast : j < (lines text).length := (List.getElem?_eq_some_iff.mp hother).1
  show UInt32.ofNat earlier.length ≤ UInt32.ofNat j
  rw [UInt32.le_iff_toNat_le, UInt32.toNat_ofNat_of_lt' (by omega),
    UInt32.toNat_ofNat_of_lt' (by omega)]
  exact hj

/-! ## Columns -/

theorem toNat_column {s : List Char} (h : utf16Length s < UInt32.size) :
    (column s).toNat = utf16Length s := by
  rw [column, UInt32.toNat_ofNat_of_lt' h]

theorem nameRange_of_before? {line name before : List Char} (index : UInt32)
    (h : before? name line = some before) :
    nameRange line index name =
      ⟨⟨index, column before⟩, ⟨index, column before + column name⟩⟩ := by
  rw [nameRange, h]
  rfl

theorem toNat_column_add {line name before : List Char} (h : before ++ name <+: line)
    (hsize : utf16Length line < UInt32.size) :
    (column before + column name).toNat = (column before).toNat + utf16Length name ∧
      (column before).toNat = utf16Length before ∧
      utf16Length before + utf16Length name ≤ utf16Length line := by
  have hle := utf16Length_le_of_isInfix h.isInfix
  rw [utf16Length_append] at hle
  have hbefore := toNat_column (s := before) (by omega)
  have hname := toNat_column (s := name) (by omega)
  refine ⟨?_, hbefore, hle⟩
  rw [UInt32.toNat_add, hbefore, hname]
  exact Nat.mod_eq_of_lt (hle.trans_lt hsize)

theorem lineRange_contains_nameRange {line name : List Char} (index : UInt32)
    (hin : name <:+: line) (hline : utf16Length line < UInt32.size) :
    (lineRange index line).Contains (nameRange line index name) := by
  cases hb : before? name line with
  | none => exact absurd hin (before?_eq_none_iff.mp hb)
  | some before =>
    obtain ⟨hstop, hstart, hle⟩ := toNat_column_add (firstAt_of_before? hb).1 hline
    have hend : column before + column name ≤ column line := by
      rw [UInt32.le_iff_toNat_le, hstop, hstart, toNat_column hline]
      exact hle
    rw [nameRange_of_before? index hb]
    exact ⟨Or.inr ⟨rfl, by simp [lineRange, UInt32.le_iff_toNat_le]⟩, Or.inr ⟨rfl, hend⟩⟩

/-! ## The undivided text -/

theorem oneLine_declarationText {name : List Char} (h : '\n' ∉ name) :
    OneLine (declarationText name) where
  ne_nil := by simp [declarationText, declarationKeyword]
  no_feed := by simp [declarationText, declarationKeyword, h]
  no_return := by rw [declarationText, List.getLast?_concat]; decide

theorem lastLine_of_no_feed {s : List Char} (h : '\n' ∉ s) : lastLine s = s := by
  have hall : ∀ c ∈ s.reverse, decide (c ≠ '\n') = true := by
    intro c hc
    simp only [decide_eq_true_eq]
    rintro rfl
    exact h (List.mem_reverse.mp hc)
  rw [lastLine, List.takeWhile_eq_self_iff.mpr hall, List.reverse_reverse]

theorem lastLine_append_feed (s t : List Char) : lastLine (s ++ '\n' :: t) = lastLine t := by
  simp only [lastLine, List.reverse_append, List.reverse_cons, List.append_assoc,
    List.singleton_append, List.takeWhile_append]
  split
  case isTrue hlen =>
    have hall := (List.takeWhile_prefix _).eq_of_length hlen
    rw [hall]
    simp
  case isFalse => rfl

theorem before?_of_line {needle text line before : List Char} {earlier later : List (List Char)}
    (hneedle : OneLine needle) (hlines : lines text = earlier ++ line :: later)
    (hno : ∀ other ∈ earlier, ¬ needle <:+: other) (hb : before? needle line = some before) :
    ∃ above, before? needle text = some above ∧ above.count '\n' = earlier.length ∧
      lastLine above = before := by
  have hfeed : '\n' ∉ before := by
    have hline : line ∈ lines text := by simp [hlines]
    have hpre : before <+: line := (List.prefix_append _ _).trans (firstAt_of_before? hb).1
    exact fun hm => feed_not_mem_line hline (hpre.subset hm)
  induction text using lines_induction generalizing earlier with
  | nil => simp at hlines
  | last piece hp hne =>
    rw [lines_last hp hne] at hlines
    obtain ⟨rfl, rfl, -⟩ : earlier = [] ∧ line = piece ∧ later = [] := by
      simpa [List.singleton_eq_append_iff] using hlines
    exact ⟨before, hb, List.count_eq_zero.mpr hfeed, lastLine_of_no_feed hfeed⟩
  | feed piece rest hp ih =>
    rw [lines_feed rest hp] at hlines
    cases earlier with
    | nil =>
      rw [List.nil_append, List.cons.injEq] at hlines
      rw [← hlines.1, hneedle.before?_closeLine] at hb
      have hpiece : needle <:+: piece := (firstAt_of_before? hb).occurs
      refine ⟨before, ?_, List.count_eq_zero.mpr hfeed, lastLine_of_no_feed hfeed⟩
      rw [before?_append_of_occurs _ hpiece, hb]
    | cons other earlier =>
      rw [List.cons_append, List.cons.injEq] at hlines
      have hpiece : ¬ needle <:+: piece := by
        rw [← hneedle.infix_closeLine_iff, hlines.1]
        exact hno other List.mem_cons_self
      obtain ⟨above, habove, hcount, hlast⟩ :=
        ih hlines.2 (fun l hl => hno l (List.mem_cons_of_mem _ hl))
      refine ⟨piece ++ '\n' :: above, ?_, ?_, ?_⟩
      · rw [before?_append_mark rest hneedle.no_feed hneedle.ne_nil hpiece, habove]
        rfl
      · rw [List.count_append, List.count_cons_self, List.count_eq_zero.mpr hp, hcount]
        simp
      · rw [lastLine_append_feed, hlast]

theorem declarationLine?_eq_none_iff_text {text name : List Char} (hname : '\n' ∉ name) :
    declarationLine? text name = none ↔ ¬ declarationText name <:+: text := by
  rw [declarationLine?_eq_none_iff, (oneLine_declarationText hname).infix_iff_mem_lines]
  simp only [not_exists, not_and]

theorem declarationPosition?_eq_none_iff {text name : List Char} (hname : '\n' ∉ name) :
    declarationPosition? text name = none ↔ declarationLine? text name = none := by
  rw [declarationPosition?, Option.map_eq_none_iff, before?_eq_none_iff,
    declarationLine?_eq_none_iff_text hname]

theorem declarationPosition?_of_line {text name line : List Char} {i : UInt32} (hname : '\n' ∉ name)
    (h : declarationLine? text name = some (i, line)) :
    ∃ before, FirstAt (declarationText name) line before ∧
      declarationPosition? text name = some ⟨i, column before⟩ := by
  obtain ⟨earlier, ⟨⟨later, hlines⟩, hin, hno⟩, rfl⟩ := declarationLine?_eq_some_iff.mp h
  cases hb : before? (declarationText name) line with
  | none => exact absurd hin (before?_eq_none_iff.mp hb)
  | some before =>
    obtain ⟨above, habove, hcount, hlast⟩ :=
      before?_of_line (oneLine_declarationText hname) hlines hno hb
    refine ⟨before, firstAt_of_before? hb, ?_⟩
    simp [declarationPosition?, habove, hcount, hlast]

/-! ## The theorems -/

theorem infix_of_declarationLine? {text name line : List Char} {i : UInt32}
    (h : declarationLine? text name = some (i, line)) : line <:+: text := by
  obtain ⟨earlier, ⟨⟨later, hlines⟩, -, -⟩, -⟩ := declarationLine?_eq_some_iff.mp h
  exact infix_of_mem_lines (by simp [hlines])

theorem getElem?_declarationLine {text name line : List Char} {i : UInt32}
    (hsize : utf16Length text < UInt32.size) (h : declarationLine? text name = some (i, line)) :
    (lines text)[i.toNat]? = some line := by
  obtain ⟨earlier, ⟨⟨later, hlines⟩, -, -⟩, rfl⟩ := declarationLine?_eq_some_iff.mp h
  have hcount := length_lines_le text
  rw [hlines, List.length_append, List.length_cons] at hcount
  have hindex : (UInt32.ofNat earlier.length).toNat = earlier.length :=
    UInt32.toNat_ofNat_of_lt' (by omega)
  rw [hlines, hindex]
  simp

/-- The outline and the search for a line know the same declarations. -/
theorem declarationLine?_agrees_with_symbols (text name : List Char) (hname : IsName name)
    (hsize : utf16Length text < UInt32.size) :
    ((∃ i line, declarationLine? text name = some (i, line)) ↔
      ∃ s ∈ symbols text, s.name = String.ofList name) ∧
    ∀ i line, declarationLine? text name = some (i, line) →
      (lines text)[i.toNat]? = some line ∧
      ∃ s, (symbols text).find? (fun s => decide (s.name = String.ofList name)) = some s ∧
        s.range.start.line = i ∧ s.range.stop.line = i ∧ (lineRange i line).Contains s.range := by
  constructor
  · rw [exists_symbol_iff hname, Option.isSome_iff_exists, Prod.exists]
  · intro i line h
    refine ⟨getElem?_declarationLine hsize h,
      ⟨String.ofList name, nameRange line i name⟩, ?_, rfl, rfl, ?_⟩
    · rw [find?_symbols text hname, h]
      rfl
    · obtain ⟨earlier, ⟨-, hin, -⟩, -⟩ := declarationLine?_eq_some_iff.mp h
      have hpart : name <:+: declarationText name :=
        ⟨declarationKeyword ++ [' '], ['('], by simp [declarationText]⟩
      have hle := utf16Length_le_of_isInfix (infix_of_declarationLine? h)
      exact lineRange_contains_nameRange i (hpart.trans hin) (by omega)

theorem first_symbol_behind_lookalikes :
    IsName "a.b".toList ∧
    utf16Length "JINIE a.b\r\nJINIE axb( JINIE a.b(x)\r\n".toList < UInt32.size ∧
    declarationLine? "JINIE a.b\r\nJINIE axb( JINIE a.b(x)\r\n".toList "a.b".toList =
      some (1, "JINIE axb( JINIE a.b(x)".toList) ∧
    ∃ s, (symbols "JINIE a.b\r\nJINIE axb( JINIE a.b(x)\r\n".toList).find?
        (fun s => decide (s.name = String.ofList "a.b".toList)) = some s ∧
      s.range.start.line = 1 ∧ s.range.stop.line = 1 ∧
      (lineRange 1 "JINIE axb( JINIE a.b(x)".toList).Contains s.range :=
  ⟨by decide, by decide, by decide,
    ((declarationLine?_agrees_with_symbols _ _ (by decide) (by decide)).2 _ _ (by decide)).2⟩

/-- Searching the undivided text leads to the same place as searching its lines. -/
theorem declarationPosition?_agrees_with_line (text name : List Char) (hname : '\n' ∉ name)
    (hsize : utf16Length text < UInt32.size) :
    ((∃ p, declarationPosition? text name = some p) ↔
      ∃ i line, declarationLine? text name = some (i, line)) ∧
    ∀ p i line, declarationPosition? text name = some p →
      declarationLine? text name = some (i, line) →
      p.line = i ∧ ∃ before, FirstAt (declarationText name) line before ∧
        p.character.toNat = utf16Length before := by
  constructor
  · constructor
    · rintro ⟨p, hp⟩
      cases h : declarationLine? text name with
      | none => simp [(declarationPosition?_eq_none_iff hname).mpr h] at hp
      | some found => exact ⟨found.1, found.2, rfl⟩
    · rintro ⟨i, line, h⟩
      obtain ⟨before, -, hp⟩ := declarationPosition?_of_line hname h
      exact ⟨_, hp⟩
  · intro p i line hp h
    obtain ⟨before, hfirst, hposition⟩ := declarationPosition?_of_line hname h
    obtain rfl : p = ⟨i, column before⟩ := by simpa [hp] using hposition
    refine ⟨rfl, before, hfirst, toNat_column ?_⟩
    have hpre : before <+: line := (List.prefix_append _ _).trans hfirst.1
    have hle := utf16Length_le_of_isInfix (hpre.isInfix.trans (infix_of_declarationLine? h))
    omega

theorem position_on_line_of_wide_characters :
    '\n' ∉ "a\rb".toList ∧ utf16Length "x\r\n𝄞 JINIE a\rb(\r".toList < UInt32.size ∧
    declarationPosition? "x\r\n𝄞 JINIE a\rb(\r".toList "a\rb".toList = some ⟨1, 3⟩ ∧
    ∃ before, FirstAt (declarationText "a\rb".toList) "𝄞 JINIE a\rb(\r".toList before ∧
      (3 : UInt32).toNat = utf16Length before :=
  ⟨by decide, by decide, by decide,
    ((declarationPosition?_agrees_with_line "x\r\n𝄞 JINIE a\rb(\r".toList _ (by decide)
      (by decide)).2 ⟨1, 3⟩ 1 _ (by decide) (by decide)).2⟩

end Source

end JinieServer
