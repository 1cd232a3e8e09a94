import JinieServer.Source.Scan
import Mathlib.Data.List.Infix
import Mathlib.Data.List.TakeWhile

/-!
# The scan finds every occurrence

Reading goes on behind each occurrence that was found. No other one starts inside it, so the
names that are read are those of all places of the line, in their order.
-/

namespace JinieServer.Source

open JinieServer.Text

/-- Not empty, and made of letters, digits, `_` and `.` only. -/
def IsName (name : List Char) : Prop := name ≠ [] ∧ ∀ c ∈ name, isNameChar c = true

instance (name : List Char) : Decidable (IsName name) :=
  decidable_of_iff (!name.isEmpty && name.all isNameChar) (by simp [IsName])

/-- The text of an occurrence: `keyword name(`. -/
def occurrenceText (keyword name : List Char) : List Char := keyword ++ ' ' :: name ++ ['(']

/-- `keyword name(` stands in the line right behind `before`. -/
def OccursAt (keyword line before name : List Char) : Prop :=
  IsName name ∧ before ++ occurrenceText keyword name <+: line

/-- The name of the occurrence furthest left. -/
def LeftmostName (keyword line name : List Char) : Prop :=
  ∃ before, OccursAt keyword line before name ∧
    ∀ other otherName, OccursAt keyword line other otherName → before.length ≤ other.length

theorem isName_declarationKeyword : IsName declarationKeyword := by decide

theorem isName_callKeyword : IsName callKeyword := by decide

theorem not_mem_name {name : List Char} {c : Char} (h : IsName name) (hc : isNameChar c = false) :
    c ∉ name := by
  intro hm
  simp [h.2 c hm] at hc

/-! ## The occurrence at the start of a text -/

theorem takeWhile_word {word : List Char} {mark : Char} (more : List Char)
    (hword : ∀ c ∈ word, isNameChar c = true) (hmark : isNameChar mark = false) :
    (word ++ mark :: more).takeWhile isNameChar = word := by
  rw [List.takeWhile_append_of_pos hword, List.takeWhile_cons_of_neg (by simp [hmark])]
  simp

theorem dropWhile_word {word : List Char} {mark : Char} (more : List Char)
    (hword : ∀ c ∈ word, isNameChar c = true) (hmark : isNameChar mark = false) :
    (word ++ mark :: more).dropWhile isNameChar = mark :: more := by
  rw [List.dropWhile_append_of_pos hword, List.dropWhile_cons_of_neg (by simp [hmark])]

theorem occurrence?_eq_some_iff {keyword text name rest : List Char} :
    occurrence? keyword text = some (name, rest) ↔
      IsName name ∧ text = occurrenceText keyword name ++ rest := by
  constructor
  · intro h
    unfold occurrence? at h
    split at h
    case h_1 => simp at h
    case h_2 tail htail =>
      split at h
      case h_1 c first after hname hrest =>
        obtain ⟨rfl, rfl⟩ : c :: first = name ∧ after = rest := by simpa using h
        have hchars : ∀ d ∈ c :: first, isNameChar d = true := by
          intro d hd
          rw [← hname] at hd
          exact List.mem_takeWhile_imp hd
        have htext : tail = (c :: first) ++ '(' :: after := by
          rw [← hname, ← hrest, List.takeWhile_append_dropWhile]
        refine ⟨⟨by simp, hchars⟩, ?_⟩
        rw [append_of_after? htail, htext]
        simp [occurrenceText]
      case h_2 => simp at h
  · rintro ⟨⟨hne, hchars⟩, rfl⟩
    have htail : occurrenceText keyword name ++ rest =
        (keyword ++ [' ']) ++ (name ++ '(' :: rest) := by
      simp [occurrenceText]
    obtain ⟨c, first, rfl⟩ := List.exists_cons_of_ne_nil hne
    have hparen : isNameChar '(' = false := by decide
    rw [occurrence?, htail, after?_append]
    simp only [takeWhile_word rest hchars hparen, dropWhile_word rest hchars hparen]

/-- The name of the occurrence that the text starts with. -/
def nameAt? (keyword text : List Char) : Option (List Char) := (occurrence? keyword text).map (·.1)

theorem nameAt?_eq_some_iff {keyword text name : List Char} :
    nameAt? keyword text = some name ↔ OccursAt keyword text [] name := by
  simp only [nameAt?, Option.map_eq_some_iff, Prod.exists, occurrence?_eq_some_iff, OccursAt]
  constructor
  · rintro ⟨_, rest, ⟨hname, rfl⟩, rfl⟩
    exact ⟨hname, List.prefix_append _ _⟩
  · rintro ⟨hname, rest, rfl⟩
    exact ⟨name, rest, ⟨hname, rfl⟩, rfl⟩

theorem nameAt?_nil (keyword : List Char) : nameAt? keyword [] = none := by
  cases h : nameAt? keyword [] with
  | none => rfl
  | some name =>
    have hpre := (nameAt?_eq_some_iff.mp h).2
    simp [occurrenceText] at hpre

theorem word_of_nameAt? {keyword word more name : List Char} {mark : Char} (hk : IsName keyword)
    (hword : ∀ c ∈ word, isNameChar c = true) (hmark : isNameChar mark = false)
    (h : nameAt? keyword (word ++ mark :: more) = some name) : word = keyword ∧ mark = ' ' := by
  obtain ⟨-, rest, heq⟩ := nameAt?_eq_some_iff.mp h
  have hshape : [] ++ occurrenceText keyword name ++ rest =
      keyword ++ ' ' :: (name ++ '(' :: rest) := by
    simp [occurrenceText]
  rw [hshape] at heq
  have hsame : keyword = word := by
    rw [← takeWhile_word more hword hmark, ← heq]
    exact (takeWhile_word _ hk.2 (by decide)).symm
  subst hsame
  have hrest := List.append_cancel_left heq
  simp only [List.cons.injEq] at hrest
  exact ⟨rfl, hrest.1.symm⟩

/-! ## All places of a text -/

theorem names_of_some {keyword text name behind : List Char}
    (h : occurrence? keyword text = some (name, behind)) :
    names keyword text = name :: names keyword behind := by
  cases text with
  | nil =>
    have := length_of_occurrence? h
    simp at this
  | cons c rest =>
    rw [names]
    split
    case h_1 other after heq =>
      rw [h] at heq
      simp_all
    case h_2 heq => simp [h] at heq

theorem names_of_none {keyword rest : List Char} {c : Char}
    (h : occurrence? keyword (c :: rest) = none) :
    names keyword (c :: rest) = names keyword rest := by
  rw [names]
  split
  case h_1 heq => simp [h] at heq
  case h_2 => rfl

theorem nameAt?_word {keyword word : List Char} {mark : Char} (more : List Char)
    (hk : IsName keyword) (hword : ∀ c ∈ word, isNameChar c = true)
    (hmark : isNameChar mark = false) (hother : word.length < keyword.length ∨ mark ≠ ' ') :
    nameAt? keyword (word ++ mark :: more) = none := by
  cases hn : nameAt? keyword (word ++ mark :: more) with
  | none => rfl
  | some name =>
    obtain ⟨rfl, rfl⟩ := word_of_nameAt? hk hword hmark hn
    simp at hother

theorem filterMap_tails_word {keyword word : List Char} {mark : Char} (more : List Char)
    (hk : IsName keyword) (hword : ∀ c ∈ word, isNameChar c = true)
    (hmark : isNameChar mark = false) (hother : word.length < keyword.length ∨ mark ≠ ' ') :
    (word ++ mark :: more).tails.filterMap (nameAt? keyword) =
      more.tails.filterMap (nameAt? keyword) := by
  have hnone := nameAt?_word more hk hword hmark hother
  induction word with
  | nil => exact List.filterMap_cons_none hnone
  | cons c word ih =>
    have hword' : ∀ d ∈ word, isNameChar d = true := fun d hd => hword d (List.mem_cons_of_mem _ hd)
    have hother' : word.length < keyword.length ∨ mark ≠ ' ' :=
      hother.imp_left (fun h => by simp at h; omega)
    rw [List.cons_append, List.tails, ← List.cons_append, List.filterMap_cons_none hnone]
    exact ih hword' hother' (nameAt?_word more hk hword' hmark hother')

/-- The scan reads the names of all places of the text, from left to right. -/
theorem names_eq_filterMap_tails {keyword : List Char} (hk : IsName keyword) (text : List Char) :
    names keyword text = text.tails.filterMap (nameAt? keyword) := by
  fun_induction names keyword text with
  | case1 => simp [nameAt?_nil]
  | case2 c rest name behind h ih =>
    obtain ⟨hname, heq⟩ := occurrence?_eq_some_iff.mp h
    obtain ⟨d, word, rfl⟩ := List.exists_cons_of_ne_nil hk.1
    have hrest : rest = word ++ ' ' :: (name ++ '(' :: behind) := by
      simpa [occurrenceText] using (List.cons.inj heq).2
    have hword : ∀ c ∈ word, isNameChar c = true := fun c hc => hk.2 c (List.mem_cons_of_mem _ hc)
    have hhead : nameAt? (d :: word) (c :: rest) = some name := by simp [nameAt?, h]
    -- What is left of the keyword is too short for another one, and no blank ends the name.
    rw [List.tails, List.filterMap_cons_some hhead, ih, hrest,
      filterMap_tails_word _ hk hword (by decide) (by simp),
      filterMap_tails_word _ hk hname.2 (by decide) (by simp)]
  | case3 c rest h ih =>
    have hhead : nameAt? keyword (c :: rest) = none := by simp [nameAt?, h]
    rw [List.tails, List.filterMap_cons_none hhead, ih]

theorem mem_names_iff {keyword line name : List Char} (hk : IsName keyword) :
    name ∈ names keyword line ↔ IsName name ∧ occurrenceText keyword name <:+: line := by
  rw [names_eq_filterMap_tails hk, List.mem_filterMap]
  simp only [List.mem_tails, nameAt?_eq_some_iff, OccursAt, List.nil_append]
  rw [List.infix_iff_prefix_suffix]
  constructor
  · rintro ⟨tail, hsuf, hname, hpre⟩
    exact ⟨hname, tail, hpre, hsuf⟩
  · rintro ⟨hname, tail, hpre, hsuf⟩
    exact ⟨tail, hsuf, hname, hpre⟩

/-! ## The occurrence furthest left -/

theorem head?_names_cons (keyword rest : List Char) (c : Char) :
    (names keyword (c :: rest)).head? =
      (nameAt? keyword (c :: rest)).or (names keyword rest).head? := by
  cases h : occurrence? keyword (c :: rest) with
  | none => simp [names_of_none h, nameAt?, h]
  | some found => simp [names_of_some h, nameAt?, h]

theorem occursAt_cons_iff {keyword rest before name : List Char} {c d : Char} :
    OccursAt keyword (c :: rest) (d :: before) name ↔
      d = c ∧ OccursAt keyword rest before name := by
  simp only [OccursAt, List.cons_append, List.cons_prefix_cons]
  tauto

theorem leftmostName_of_head? {keyword line name : List Char}
    (h : (names keyword line).head? = some name) : LeftmostName keyword line name := by
  induction line with
  | nil => simp [names] at h
  | cons c rest ih =>
    rw [head?_names_cons] at h
    cases hat : nameAt? keyword (c :: rest) with
    | some found =>
      obtain rfl : found = name := by simpa [hat] using h
      exact ⟨[], nameAt?_eq_some_iff.mp hat, by simp⟩
    | none =>
      rw [hat, Option.none_or] at h
      obtain ⟨before, hbefore, hleast⟩ := ih h
      refine ⟨c :: before, occursAt_cons_iff.mpr ⟨rfl, hbefore⟩, ?_⟩
      intro other otherName hother
      cases other with
      | nil => simp [nameAt?_eq_some_iff.mpr hother] at hat
      | cons d other =>
        have := hleast other otherName (occursAt_cons_iff.mp hother).2
        simpa using this

theorem LeftmostName.unique {keyword line name other : List Char}
    (h : LeftmostName keyword line name) (h' : LeftmostName keyword line other) : name = other := by
  obtain ⟨before, ⟨hname, hpre⟩, hleast⟩ := h
  obtain ⟨before', ⟨hname', hpre'⟩, hleast'⟩ := h'
  have hlen : before.length = before'.length :=
    Nat.le_antisymm (hleast _ _ ⟨hname', hpre'⟩) (hleast' _ _ ⟨hname, hpre⟩)
  obtain ⟨rest, rfl⟩ := hpre
  obtain ⟨rest', heq⟩ := hpre'
  rw [List.append_assoc, List.append_assoc] at heq
  obtain ⟨-, htail⟩ := List.append_inj heq hlen.symm
  have hat : nameAt? keyword (occurrenceText keyword name ++ rest) = some name :=
    nameAt?_eq_some_iff.mpr ⟨hname, List.prefix_append _ _⟩
  have hat' : nameAt? keyword (occurrenceText keyword name ++ rest) = some other :=
    nameAt?_eq_some_iff.mpr ⟨hname', rest', by simpa using htail⟩
  simpa [hat] using hat'

theorem head?_names_eq_some_iff {keyword line name : List Char} (hk : IsName keyword) :
    (names keyword line).head? = some name ↔ LeftmostName keyword line name := by
  constructor
  · exact leftmostName_of_head?
  · intro h
    cases hhead : (names keyword line).head? with
    | some found => rw [(leftmostName_of_head? hhead).unique h]
    | none =>
      obtain ⟨before, ⟨hname, rest, hline⟩, -⟩ := h
      have hmem : name ∈ names keyword line :=
        (mem_names_iff hk).mpr ⟨hname, before, rest, hline⟩
      rw [List.head?_eq_none_iff.mp hhead] at hmem
      simp at hmem

end JinieServer.Source
