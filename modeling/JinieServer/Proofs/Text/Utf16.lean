import JinieServer.Text.Basic
import Mathlib.Data.List.Infix

/-!
# UTF-16 units

A character is written as one unit or as a high and a low surrogate. A unit shows by its value
which of the three it is, so the units of a text stand in those of another only where its
characters do.
-/

namespace JinieServer.Text

def charUnits (c : Char) : List UInt16 :=
  if c.toNat < 0x10000 then [UInt16.ofNat c.toNat]
  else
    [UInt16.ofNat (0xd800 + (c.toNat - 0x10000) / 0x400),
      UInt16.ofNat (0xdc00 + (c.toNat - 0x10000) % 0x400)]

def utf16 (s : List Char) : List UInt16 := s.flatMap charUnits

@[simp] theorem utf16_nil : utf16 [] = [] := rfl

@[simp] theorem utf16_cons (c : Char) (s : List Char) :
    utf16 (c :: s) = charUnits c ++ utf16 s := rfl

@[simp] theorem utf16_append (s t : List Char) : utf16 (s ++ t) = utf16 s ++ utf16 t :=
  List.flatMap_append

theorem length_charUnits (c : Char) : (charUnits c).length = utf16Width c := by
  unfold charUnits utf16Width
  split <;> rfl

theorem charUnits_ne_nil (c : Char) : charUnits c ≠ [] := by
  unfold charUnits
  split <;> simp

@[simp] theorem length_utf16 (s : List Char) : (utf16 s).length = utf16Length s := by
  induction s with
  | nil => rfl
  | cons c s ih => rw [utf16_cons, List.length_append, length_charUnits, ih, utf16Length]

/-! ## One character -/

/-- What the units of a character look like, and how they give its number. -/
inductive Written (c : Char) : List UInt16 → Prop where
  | single {unit : UInt16} (hvalue : unit.toNat = c.toNat)
    (hplain : unit.toNat < 0xd800 ∨ 0xe000 ≤ unit.toNat) : Written c [unit]
  | pair {high low : UInt16} (hhigh : 0xd800 ≤ high.toNat ∧ high.toNat < 0xdc00)
    (hlow : 0xdc00 ≤ low.toNat ∧ low.toNat < 0xe000)
    (hvalue : c.toNat = 0x10000 + (high.toNat - 0xd800) * 0x400 + (low.toNat - 0xdc00)) :
    Written c [high, low]

theorem written_charUnits (c : Char) : Written c (charUnits c) := by
  have hvalid : c.toNat < 0xd800 ∨ 0xdfff < c.toNat ∧ c.toNat < 0x110000 := c.valid
  unfold charUnits
  split
  case isTrue hsmall =>
    have hunit : (UInt16.ofNat c.toNat).toNat = c.toNat := UInt16.toNat_ofNat_of_lt' hsmall
    exact .single hunit (by omega)
  case isFalse hlarge =>
    have hsize : UInt16.size = 0x10000 := rfl
    have hhigh : (UInt16.ofNat (0xd800 + (c.toNat - 0x10000) / 0x400)).toNat =
        0xd800 + (c.toNat - 0x10000) / 0x400 := UInt16.toNat_ofNat_of_lt' (by omega)
    have hlow : (UInt16.ofNat (0xdc00 + (c.toNat - 0x10000) % 0x400)).toNat =
        0xdc00 + (c.toNat - 0x10000) % 0x400 := UInt16.toNat_ofNat_of_lt' (by omega)
    exact .pair (by omega) (by omega) (by omega)

theorem eq_of_charUnits_prefix {c d : Char} {rest : List UInt16}
    (h : charUnits c <+: charUnits d ++ rest) : c = d := by
  apply Char.toNat_inj.mp
  have hc := written_charUnits c
  have hd := written_charUnits d
  generalize charUnits c = units at h hc
  generalize charUnits d = others at h hd
  cases hc with
  | single hvalue hplain =>
    cases hd with
    | single hvalue' =>
      obtain ⟨rfl, -⟩ := List.cons_prefix_cons.mp h
      omega
    | pair hhigh =>
      obtain ⟨rfl, -⟩ := List.cons_prefix_cons.mp h
      omega
  | pair hhigh hlow hvalue =>
    cases hd with
    | single hvalue' hplain =>
      obtain ⟨rfl, -⟩ := List.cons_prefix_cons.mp h
      omega
    | pair hhigh' hlow' hvalue' =>
      obtain ⟨rfl, hrest⟩ := List.cons_prefix_cons.mp h
      obtain ⟨rfl, -⟩ := List.cons_prefix_cons.mp hrest
      omega

theorem not_charUnits_prefix_low {c : Char} {low : UInt16} {rest : List UInt16}
    (hlow : 0xdc00 ≤ low.toNat ∧ low.toNat < 0xe000) : ¬ charUnits c <+: low :: rest := by
  intro h
  have hc := written_charUnits c
  generalize charUnits c = units at h hc
  cases hc with
  | single hvalue hplain =>
    obtain ⟨rfl, -⟩ := List.cons_prefix_cons.mp h
    omega
  | pair hhigh =>
    obtain ⟨rfl, -⟩ := List.cons_prefix_cons.mp h
    omega

/-! ## Texts -/

theorem prefix_of_utf16_prefix {part text : List Char} (h : utf16 part <+: utf16 text) :
    part <+: text := by
  induction part generalizing text with
  | nil => exact List.nil_prefix
  | cons c part ih =>
    cases text with
    | nil => simp [charUnits_ne_nil] at h
    | cons d text =>
      rw [utf16_cons, utf16_cons] at h
      obtain rfl := eq_of_charUnits_prefix ((List.prefix_append _ _).trans h)
      rw [List.prefix_append_right_inj] at h
      exact List.cons_prefix_cons.mpr ⟨rfl, ih h⟩

theorem exists_prefix_of_units_at {part text : List Char} {column : Nat} (hne : part ≠ [])
    (h : utf16 part <+: (utf16 text).drop column) :
    ∃ before, before ++ part <+: text ∧ utf16Length before = column := by
  induction text generalizing column with
  | nil =>
    rw [utf16_nil, List.drop_nil, ← utf16_nil] at h
    exact absurd (by simpa using prefix_of_utf16_prefix h) hne
  | cons d text ih =>
    cases column with
    | zero => exact ⟨[], prefix_of_utf16_prefix (by simpa using h), rfl⟩
    | succ column =>
      have hwidth := length_charUnits d
      have hshift : ∀ rest, (∃ before, before ++ part <+: text ∧ utf16Length before = rest) →
          ∃ before, before ++ part <+: d :: text ∧ utf16Length before = utf16Width d + rest := by
        rintro rest ⟨before, hpre, rfl⟩
        exact ⟨d :: before, List.cons_prefix_cons.mpr ⟨rfl, hpre⟩, rfl⟩
      have hd := written_charUnits d
      rw [utf16_cons] at h
      generalize charUnits d = units at h hd hwidth
      cases hd with
      | single =>
        obtain ⟨before, hpre, hlen⟩ := hshift column (ih h)
        exact ⟨before, hpre, by simp at hwidth; omega⟩
      | pair hhigh hlow =>
        cases column with
        | zero =>
          -- Between the two surrogates no character starts.
          obtain ⟨c, part, rfl⟩ := List.exists_cons_of_ne_nil hne
          exact absurd ((List.prefix_append _ _).trans h) (not_charUnits_prefix_low hlow)
        | succ column =>
          obtain ⟨before, hpre, hlen⟩ := hshift column (ih h)
          exact ⟨before, hpre, by simp at hwidth; omega⟩

end JinieServer.Text
