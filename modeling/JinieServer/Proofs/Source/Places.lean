import JinieServer.Proofs.Definition.Lookup
import Mathlib.Data.List.Basic

/-!
# The places of names

`StandsAt` looks at one place of a line and at nothing before it. The names that a scan reads are
those of all such places, in their order, and the call on a line is the one at the first of them.
-/

namespace JinieServer.Source

open JinieServer.Text JinieServer.Definition

/-- A letter or a digit of ASCII, `_` or `.`. -/
def NameChar (c : Char) : Prop :=
  'A' ≤ c ∧ c ≤ 'Z' ∨ 'a' ≤ c ∧ c ≤ 'z' ∨ '0' ≤ c ∧ c ≤ '9' ∨ c = '_' ∨ c = '.'

/-- The line goes on at place `i` with the opening, a name, and a parenthesis. -/
structure StandsAt (opening line : List Char) (i : Nat) (name : List Char) : Prop where
  ne_nil : name ≠ []
  chars : ∀ c ∈ name, NameChar c
  text : opening ++ name ++ ['('] <+: line.drop i

/-! ## One place -/

theorem isAlpha_iff_between {c : Char} :
    c.isAlpha = true ↔ 'A' ≤ c ∧ c ≤ 'Z' ∨ 'a' ≤ c ∧ c ≤ 'z' := by
  change (decide ('A' ≤ c ∧ c ≤ 'Z') || (decide ('a' ≤ c) && decide (c ≤ 'z'))) = true ↔ _
  simp only [Bool.or_eq_true, Bool.and_eq_true, decide_eq_true_eq]

theorem isDigit_iff_between {c : Char} : c.isDigit = true ↔ '0' ≤ c ∧ c ≤ '9' := by
  change (decide ('0' ≤ c) && decide (c ≤ '9')) = true ↔ _
  simp only [Bool.and_eq_true, decide_eq_true_eq]

theorem isNameChar_iff {c : Char} : isNameChar c = true ↔ NameChar c := by
  simp only [isNameChar, NameChar, Char.isAlphanum, Bool.or_eq_true, isAlpha_iff_between,
    isDigit_iff_between, decide_eq_true_eq]
  tauto

theorem standsAt_iff {opening line name : List Char} {i : Nat} :
    StandsAt opening line i name ↔
      IsName name ∧ opening ++ name ++ ['('] <+: line.drop i := by
  constructor
  · rintro ⟨hne, hchars, htext⟩
    exact ⟨⟨hne, fun c hc => isNameChar_iff.mpr (hchars c hc)⟩, htext⟩
  · rintro ⟨⟨hne, hchars⟩, htext⟩
    exact ⟨hne, fun c hc => isNameChar_iff.mp (hchars c hc), htext⟩

instance (opening line : List Char) (i : Nat) (name : List Char) :
    Decidable (StandsAt opening line i name) := decidable_of_iff _ standsAt_iff.symm

theorem nameAt?_drop_eq_some_iff {keyword line name : List Char} {i : Nat} :
    nameAt? keyword (line.drop i) = some name ↔ StandsAt (keyword ++ [' ']) line i name := by
  have htext : occurrenceText keyword name = keyword ++ [' '] ++ name ++ ['('] := by
    simp [occurrenceText]
  rw [nameAt?_eq_some_iff, OccursAt, List.nil_append, htext, standsAt_iff]

theorem standsAt_of_occursAt {keyword line before name : List Char}
    (h : OccursAt keyword line before name) :
    StandsAt (keyword ++ [' ']) line before.length name := by
  obtain ⟨hname, rest, hline⟩ := h
  rw [← nameAt?_drop_eq_some_iff, nameAt?_eq_some_iff]
  refine ⟨hname, rest, ?_⟩
  rw [← hline, List.append_assoc before, List.drop_left, List.nil_append]

theorem occursAt_of_standsAt {keyword line name : List Char} {i : Nat}
    (h : StandsAt (keyword ++ [' ']) line i name) : OccursAt keyword line (line.take i) name := by
  obtain ⟨hname, rest, htail⟩ := nameAt?_eq_some_iff.mp (nameAt?_drop_eq_some_iff.mpr h)
  refine ⟨hname, rest, ?_⟩
  rw [List.append_assoc, ← List.nil_append (occurrenceText keyword name), htail,
    List.take_append_drop]

theorem StandsAt.unique {opening line name other : List Char} {i : Nat}
    (h : StandsAt opening line i name) (h' : StandsAt opening line i other) : name = other := by
  obtain ⟨⟨-, hword⟩, rest, hrest⟩ := standsAt_iff.mp h
  obtain ⟨⟨-, hword'⟩, rest', hrest'⟩ := standsAt_iff.mp h'
  have hsame : name ++ '(' :: rest = other ++ '(' :: rest' := by
    simpa using hrest.trans hrest'.symm
  have hparen : isNameChar '(' = false := by decide
  rw [← takeWhile_word rest hword hparen, hsame, takeWhile_word rest' hword' hparen]

/-! ## All places -/

/-- The places of a line with their names. -/
def places (keyword line : List Char) : List (Nat × List Char) :=
  (List.range (line.length + 1)).filterMap fun i => (nameAt? keyword (line.drop i)).map (i, ·)

theorem tails_eq_map_drop (line : List Char) :
    line.tails = (List.range (line.length + 1)).map line.drop := by
  apply List.ext_getElem
  · simp
  · intro i hi hi'
    simp

theorem names_eq_map_places {keyword : List Char} (hk : IsName keyword) (line : List Char) :
    names keyword line = (places keyword line).map (·.2) := by
  rw [names_eq_filterMap_tails hk, tails_eq_map_drop, List.filterMap_map, places,
    List.map_filterMap]
  congr 1
  funext i
  rw [Option.map_map]
  exact Option.map_id'.symm

theorem pairwise_places (keyword line : List Char) :
    (places keyword line).Pairwise (fun p q => p.1 < q.1) := by
  refine List.Pairwise.filterMap _ ?_ List.pairwise_lt_range
  intro i j hlt p hp q hq
  obtain ⟨name, -, rfl⟩ := Option.map_eq_some_iff.mp hp
  obtain ⟨other, -, rfl⟩ := Option.map_eq_some_iff.mp hq
  exact hlt

theorem mem_places_iff {keyword line name : List Char} {i : Nat} :
    (i, name) ∈ places keyword line ↔ StandsAt (keyword ++ [' ']) line i name := by
  simp only [places, List.mem_filterMap, List.mem_range, Option.map_eq_some_iff, Prod.mk.injEq]
  constructor
  · rintro ⟨j, -, found, hfound, rfl, rfl⟩
    exact nameAt?_drop_eq_some_iff.mp hfound
  · intro h
    refine ⟨i, ?_, name, nameAt?_drop_eq_some_iff.mpr h, rfl, rfl⟩
    -- Nothing stands behind the end of the line.
    by_contra hi
    have hpre := h.text
    rw [List.drop_eq_nil_of_le (by omega)] at hpre
    simp at hpre

/-! ## The call -/

theorem standsAt_of_leftmostName {keyword line name : List Char}
    (h : LeftmostName keyword line name) :
    ∃ i, StandsAt (keyword ++ [' ']) line i name ∧
      ∀ j other, StandsAt (keyword ++ [' ']) line j other → i ≤ j := by
  obtain ⟨before, hoccurs, hleast⟩ := h
  refine ⟨before.length, standsAt_of_occursAt hoccurs, ?_⟩
  intro j other hother
  have hle := hleast _ _ (occursAt_of_standsAt hother)
  rw [List.length_take] at hle
  omega

theorem isSome_callAt?_iff {text : List Char} {position : Position} :
    (callAt? text position).isSome ↔ ∃ line, (lines text)[position.line.toNat]? = some line ∧
      ∃ i name, StandsAt (callKeyword ++ [' ']) line i name := by
  constructor
  · intro h
    obtain ⟨call, hcall⟩ := Option.isSome_iff_exists.mp h
    obtain ⟨line, hline, hleft⟩ := callAt?_eq_some_iff.mp ⟨call, hcall, rfl⟩
    obtain ⟨i, hstands, -⟩ := standsAt_of_leftmostName hleft
    exact ⟨line, hline, i, _, hstands⟩
  · rintro ⟨line, hline, i, name, hstands⟩
    have hmem : name ∈ names callKeyword line := by
      rw [names_eq_map_places isName_callKeyword]
      exact List.mem_map_of_mem (mem_places_iff.mpr hstands)
    cases hhead : (names callKeyword line).head? with
    | none => simp [List.head?_eq_none_iff.mp hhead] at hmem
    | some found =>
      have hleft := (head?_names_eq_some_iff isName_callKeyword).mp hhead
      obtain ⟨call, hcall, -⟩ := callAt?_eq_some_iff.mpr ⟨line, hline, hleft⟩
      simp [hcall]

/-! ## The theorem -/

/-- The names declared on a line are those of all its places, each place once and from left to
right, and a place holds one name. The call on the line of a position is the one at the first
place of that line, and there is none only if the line has no place or is missing. -/
theorem scan_reads_every_place :
    (∀ line, ∃ all : List (Nat × List Char), declaredNames line = all.map (·.2) ∧
      all.Pairwise (fun p q => p.1 < q.1) ∧
      ∀ i name, (i, name) ∈ all ↔ StandsAt "JINIE ".toList line i name) ∧
    (∀ opening line i name other, StandsAt opening line i name →
      StandsAt opening line i other → name = other) ∧
    (∀ text position, (callAt? text position).isSome ↔
      ∃ line, (lines text)[position.line.toNat]? = some line ∧
        ∃ i name, StandsAt "CALL ".toList line i name) ∧
    (∀ text position call, callAt? text position = some call →
      ∃ line i, (lines text)[position.line.toNat]? = some line ∧
        StandsAt "CALL ".toList line i call.name.toList ∧
        ∀ j other, StandsAt "CALL ".toList line j other → i ≤ j) := by
  refine ⟨?_, ?_, ?_, ?_⟩
  · intro line
    exact ⟨places declarationKeyword line, names_eq_map_places isName_declarationKeyword line,
      pairwise_places _ _, fun i name => mem_places_iff⟩
  · intro opening line i name other h h'
    exact h.unique h'
  · intro text position
    exact isSome_callAt?_iff
  · intro text position call hcall
    obtain ⟨line, hline, hleft⟩ := callAt?_eq_some_iff.mp ⟨call, hcall, rfl⟩
    obtain ⟨i, hstands, hleast⟩ := standsAt_of_leftmostName hleft
    exact ⟨line, i, hline, hstands, hleast⟩

theorem places_behind_failed_openings :
    declaredNames "JINIE JINIE xJINIE f(JINIE g.1(".toList = ["f".toList, "g.1".toList] ∧
    StandsAt "JINIE ".toList "JINIE JINIE xJINIE f(JINIE g.1(".toList 13 "f".toList ∧
    (∀ name, StandsAt "JINIE ".toList "JINIE JINIE xJINIE f(JINIE g.1(".toList 13 name →
      "f".toList = name) ∧
    callAt? "x\nCALL CALL f( CALL g(".toList ⟨1, 99⟩ = some ⟨"f", ⟨⟨1, 10⟩, ⟨1, 11⟩⟩⟩ ∧
    ∃ line i, (lines "x\nCALL CALL f( CALL g(".toList)[(1 : UInt32).toNat]? = some line ∧
      StandsAt "CALL ".toList line i "f".toList ∧
      ∀ j other, StandsAt "CALL ".toList line j other → i ≤ j := by
  obtain ⟨-, hunique, -, hcall⟩ := scan_reads_every_place
  have hplace :
      StandsAt "JINIE ".toList "JINIE JINIE xJINIE f(JINIE g.1(".toList 13 "f".toList := by
    decide
  have hfound : callAt? "x\nCALL CALL f( CALL g(".toList ⟨1, 99⟩ =
      some ⟨"f", ⟨⟨1, 10⟩, ⟨1, 11⟩⟩⟩ := by decide +kernel
  refine ⟨by decide +kernel, hplace, fun name h => hunique _ _ _ _ _ hplace h, hfound, ?_⟩
  exact hcall _ _ _ hfound

end JinieServer.Source
