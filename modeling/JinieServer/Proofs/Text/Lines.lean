import JinieServer.Proofs.Text.Search
import JinieServer.Text.Basic
import Mathlib.Data.List.Infix

/-!
# Reading a text line by line

A text is a piece without a feed, or such a piece, a feed and more text. Everything about `lines`
goes by this shape.
-/

namespace JinieServer.Text

/-! ## One line -/

theorem linesFrom_append {piece : List Char} (rest current : List Char) (h : '\n' ∉ piece) :
    linesFrom current (piece ++ rest) = linesFrom (piece.reverse ++ current) rest := by
  induction piece generalizing current with
  | nil => rfl
  | cons c piece ih =>
    rw [List.mem_cons, not_or] at h
    simp [linesFrom, Ne.symm h.1, ih (c :: current) h.2]

@[simp] theorem lines_nil : lines [] = [] := rfl

theorem lines_last {piece : List Char} (h : '\n' ∉ piece) (hne : piece ≠ []) :
    lines piece = [piece] := by
  have hread := linesFrom_append [] [] h
  rw [List.append_nil, List.append_nil] at hread
  simp [lines, hread, linesFrom, hne]

theorem lines_feed {piece : List Char} (rest : List Char) (h : '\n' ∉ piece) :
    lines (piece ++ '\n' :: rest) = closeLine piece.reverse :: lines rest := by
  simp [lines, linesFrom_append _ _ h, linesFrom]

@[elab_as_elim]
theorem lines_induction {motive : List Char → Prop} (nil : motive [])
    (last : ∀ piece, '\n' ∉ piece → piece ≠ [] → motive piece)
    (feed : ∀ piece rest, '\n' ∉ piece → motive rest → motive (piece ++ '\n' :: rest))
    (text : List Char) : motive text := by
  by_cases h : '\n' ∈ text
  · obtain ⟨piece, rest, rfl, hp⟩ := List.eq_append_cons_of_mem h
    exact feed piece rest hp (lines_induction nil last feed rest)
  · by_cases hne : text = []
    · exact hne ▸ nil
    · exact last text h hne
termination_by text.length
decreasing_by subst_vars; simp; omega

/-! ## How a line ends -/

theorem piece_eq_closeLine (piece : List Char) :
    piece = closeLine piece.reverse ∨ piece = closeLine piece.reverse ++ ['\r'] := by
  have hrev : piece = piece.reverse.reverse := by simp
  cases hp : piece.reverse with
  | nil => left; rw [hrev, hp]; rfl
  | cons c rest =>
    by_cases hc : c = '\r'
    · right; rw [hrev, hp, hc]; simp [closeLine]
    · left; rw [hrev, hp]; simp [closeLine, hc]

theorem closeLine_isPrefix (piece : List Char) : closeLine piece.reverse <+: piece := by
  rcases piece_eq_closeLine piece with h | h
  · exact ⟨[], by simp [← h]⟩
  · exact ⟨['\r'], h.symm⟩

theorem infix_of_mem_lines {line text : List Char} (h : line ∈ lines text) : line <:+: text := by
  induction text using lines_induction with
  | nil => simp at h
  | last piece hp hne =>
    rw [lines_last hp hne, List.mem_singleton] at h
    subst h
    exact List.infix_rfl
  | feed piece rest hp ih =>
    rw [lines_feed rest hp, List.mem_cons] at h
    rcases h with rfl | h
    · exact (List.prefix_append_of_prefix (closeLine_isPrefix piece)).isInfix
    · have hrest : rest <:+ piece ++ '\n' :: rest := ⟨piece ++ ['\n'], by simp⟩
      exact (ih h).trans hrest.isInfix

theorem feed_not_mem_line {line text : List Char} (h : line ∈ lines text) : '\n' ∉ line := by
  induction text using lines_induction with
  | nil => simp at h
  | last piece hp hne =>
    rw [lines_last hp hne, List.mem_singleton] at h
    rwa [h]
  | feed piece rest hp ih =>
    rw [lines_feed rest hp, List.mem_cons] at h
    rcases h with rfl | h
    · exact fun hm => hp ((closeLine_isPrefix piece).subset hm)
    · exact ih h

/-! ## Lines and columns are counted within the text -/

theorem utf16Length_le_of_isInfix {part text : List Char} (h : part <:+: text) :
    utf16Length part ≤ utf16Length text := by
  obtain ⟨before, after, rfl⟩ := h
  simp only [utf16Length_append]
  omega

theorem length_le_utf16Length (text : List Char) : text.length ≤ utf16Length text := by
  induction text with
  | nil => simp
  | cons c text ih =>
    have hc : 1 ≤ utf16Width c := by unfold utf16Width; split <;> omega
    simp only [List.length_cons, utf16Length]
    omega

theorem length_lines_le (text : List Char) : (lines text).length ≤ utf16Length text := by
  induction text using lines_induction with
  | nil => simp
  | last piece hp hne =>
    have hpos := List.length_pos_of_ne_nil hne
    have hle := length_le_utf16Length piece
    simp only [lines_last hp hne, List.length_singleton]
    omega
  | feed piece rest hp ih =>
    have hfeed : utf16Length ('\n' :: rest) = 1 + utf16Length rest := rfl
    rw [lines_feed rest hp, utf16Length_append, hfeed, List.length_cons]
    omega

/-! ## Searching the text and searching its lines -/

/-- A text that fits into a line and that the end of a line leaves alone. -/
structure OneLine (needle : List Char) : Prop where
  ne_nil : needle ≠ []
  no_feed : '\n' ∉ needle
  no_return : needle.getLast? ≠ some '\r'

theorem OneLine.infix_of_infix_return {needle line : List Char} (h : OneLine needle)
    (hin : needle <:+: line ++ ['\r']) : needle <:+: line := by
  obtain ⟨before, after, heq⟩ := hin
  cases hafter : after.reverse with
  | nil =>
    -- Nothing follows, so the needle would end in the return.
    obtain rfl : after = [] := by simpa using hafter
    have hlast : (before ++ needle).getLast? = some '\r' := by
      rw [List.append_nil] at heq
      simp [heq]
    rw [List.getLast?_append_of_ne_nil _ h.ne_nil] at hlast
    exact absurd hlast h.no_return
  | cons c rest =>
    have hsplit : after = rest.reverse ++ [c] := by
      rw [← List.reverse_reverse after, hafter]
      simp
    rw [hsplit, ← List.append_assoc] at heq
    exact ⟨before, rest.reverse, (List.append_inj' heq rfl).1⟩

theorem OneLine.infix_closeLine_iff {needle : List Char} (h : OneLine needle)
    (piece : List Char) : needle <:+: closeLine piece.reverse ↔ needle <:+: piece := by
  constructor
  · intro hin
    exact hin.trans (closeLine_isPrefix piece).isInfix
  · intro hin
    rcases piece_eq_closeLine piece with hp | hp
    · rwa [← hp]
    · rw [hp] at hin
      exact h.infix_of_infix_return hin

theorem OneLine.before?_closeLine {needle : List Char} (h : OneLine needle) (piece : List Char) :
    before? needle (closeLine piece.reverse) = before? needle piece := by
  by_cases hin : needle <:+: closeLine piece.reverse
  · obtain ⟨ending, hending⟩ := closeLine_isPrefix piece
    conv_rhs => rw [← hending]
    exact (before?_append_of_occurs ending hin).symm
  · rw [before?_eq_none_iff.mpr hin]
    exact (before?_eq_none_iff.mpr (fun hp => hin ((h.infix_closeLine_iff piece).mpr hp))).symm

theorem OneLine.infix_iff_mem_lines {needle : List Char} (h : OneLine needle) (text : List Char) :
    needle <:+: text ↔ ∃ line ∈ lines text, needle <:+: line := by
  constructor
  · intro hin
    induction text using lines_induction with
    | nil => exact absurd (by simpa using hin) h.ne_nil
    | last piece hp hne => exact ⟨piece, by simp [lines_last hp hne], hin⟩
    | feed piece rest hp ih =>
      rw [lines_feed rest hp]
      by_cases hpiece : needle <:+: piece
      · exact ⟨_, List.mem_cons_self, (h.infix_closeLine_iff piece).mpr hpiece⟩
      · have hrest : needle <:+: rest := by
          by_contra hno
          have hnone := before?_append_mark rest h.no_feed h.ne_nil hpiece
          rw [before?_eq_none_iff.mpr hno] at hnone
          exact before?_eq_none_iff.mp hnone hin
        obtain ⟨line, hline, hin'⟩ := ih hrest
        exact ⟨line, List.mem_cons_of_mem _ hline, hin'⟩
  · rintro ⟨line, hline, hin⟩
    exact hin.trans (infix_of_mem_lines hline)

end JinieServer.Text
