import JinieServer.Text.Utf8
import Mathlib.Data.List.Basic

/-!
# Bytes that may be no text

Bytes that are the UTF-8 form of a text are shown as that text. More than that, a text in front is
shown as it is whatever bytes follow it.
-/

namespace JinieServer.Text

theorem toNat_byte {n : Nat} (h : n < 256) : (UInt8.ofNat n).toNat = n :=
  UInt8.toNat_ofNat_of_lt h

/-! ## The first byte of a character -/

theorem begin_one {n : Nat} (h : n < 0x80) :
    begin (UInt8.ofNat n) = ([Char.ofNat n], none) := by
  unfold begin
  simp only [toNat_byte (show n < 256 by omega)]
  rw [if_pos h]

theorem begin_two {n : Nat} (h : 2 ≤ n) (h' : n < 32) :
    begin (UInt8.ofNat (n + 192)) = ([], some { missing := 1, bits := n }) := by
  have hbits : (n + 192) % 32 = n := by omega
  unfold begin
  simp only [toNat_byte (show n + 192 < 256 by omega), hbits]
  rw [if_neg (by omega), if_neg (by omega), if_pos (by omega)]

theorem begin_three {v : Nat} (hlow : 0x800 ≤ v) (hhigh : v < 0x10000)
    (hplain : v < 0xd800 ∨ 0xe000 ≤ v) :
    ∃ low high, begin (UInt8.ofNat (v / 4096 + 224)) =
        ([], some { missing := 2, low, high, bits := v / 4096 }) ∧
      low.toNat ≤ v / 64 % 64 + 128 ∧ v / 64 % 64 + 128 ≤ high.toNat := by
  have hbits : (v / 4096 + 224) % 16 = v / 4096 := by omega
  unfold begin
  simp only [toNat_byte (show v / 4096 + 224 < 256 by omega), hbits]
  rw [if_neg (by omega), if_neg (by omega), if_neg (by omega)]
  -- The bounds for the second byte keep out long forms and surrogates, and nothing else.
  by_cases hfirst : v / 4096 = 0
  · rw [if_pos (by omega), hfirst]
    exact ⟨0xa0, 0xbf, rfl, by simp; omega, by simp; omega⟩
  rw [if_neg (by omega)]
  by_cases hlast : v / 4096 = 13
  · rw [if_pos (by omega), hlast]
    exact ⟨0x80, 0x9f, rfl, by simp, by simp; omega⟩
  · rw [if_neg (by omega), if_pos (by omega)]
    exact ⟨0x80, 0xbf, rfl, by simp, by simp; omega⟩

theorem begin_four {v : Nat} (hlow : 0x10000 ≤ v) (hhigh : v < 0x110000) :
    ∃ low high, begin (UInt8.ofNat (v / 262144 + 240)) =
        ([], some { missing := 3, low, high, bits := v / 262144 }) ∧
      low.toNat ≤ v / 4096 % 64 + 128 ∧ v / 4096 % 64 + 128 ≤ high.toNat := by
  have hbits : (v / 262144 + 240) % 8 = v / 262144 := by omega
  unfold begin
  simp only [toNat_byte (show v / 262144 + 240 < 256 by omega), hbits]
  rw [if_neg (by omega), if_neg (by omega), if_neg (by omega), if_neg (by omega),
    if_neg (by omega), if_neg (by omega)]
  by_cases hfirst : v / 262144 = 0
  · rw [if_pos (by omega), hfirst]
    exact ⟨0x90, 0xbf, rfl, by simp; omega, by simp; omega⟩
  rw [if_neg (by omega)]
  by_cases hlast : v / 262144 = 4
  · rw [if_neg (by omega), if_pos (by omega), hlast]
    exact ⟨0x80, 0x8f, rfl, by simp, by simp; omega⟩
  · rw [if_pos (by omega)]
    exact ⟨0x80, 0xbf, rfl, by simp, by simp; omega⟩

/-! ## The bytes that follow it -/

theorem add_fitting {begun : Begun} {n : Nat} (hlow : begun.low.toNat ≤ n + 128)
    (hhigh : n + 128 ≤ begun.high.toNat) (hn : n < 64) :
    Begun.add (some begun) (UInt8.ofNat (n + 128)) =
      if begun.missing ≤ 1 then ([Char.ofNat (begun.bits * 64 + n)], none)
      else ([], some { missing := begun.missing - 1, bits := begun.bits * 64 + n }) := by
  have hbyte := toNat_byte (show n + 128 < 256 by omega)
  have hfits : (begun.low ≤ UInt8.ofNat (n + 128) && UInt8.ofNat (n + 128) ≤ begun.high) =
      true := by
    rw [Bool.and_eq_true, decide_eq_true_eq, decide_eq_true_eq, UInt8.le_iff_toNat_le,
      UInt8.le_iff_toNat_le, hbyte]
    exact ⟨hlow, hhigh⟩
  have hbits : (n + 128) % 64 = n := by omega
  simp only [Begun.add, hfits, if_true, hbyte, hbits]

theorem lossyFrom_more {missing bits n : Nat} {low high : UInt8} (rest : List UInt8)
    (hlow : low.toNat ≤ n + 128) (hhigh : n + 128 ≤ high.toNat) (hn : n < 64) :
    lossyFrom (some { missing := missing + 2, low, high, bits }) (UInt8.ofNat (n + 128) :: rest) =
      lossyFrom (some { missing := missing + 1, bits := bits * 64 + n }) rest := by
  rw [lossyFrom, add_fitting hlow hhigh hn, if_neg (by simp)]
  rfl

theorem lossyFrom_last {bits n : Nat} (rest : List UInt8) (hn : n < 64) :
    lossyFrom (some { missing := 1, bits }) (UInt8.ofNat (n + 128) :: rest) =
      Char.ofNat (bits * 64 + n) :: lossyFrom none rest := by
  rw [lossyFrom, add_fitting (by simp) (by simp; omega) hn, if_pos (by simp)]
  rfl

/-! ## Whole characters -/

theorem lossyFrom_two {v : Nat} (rest : List UInt8) (hlow : 0x80 ≤ v) (hhigh : v < 0x800) :
    lossyFrom none (UInt8.ofNat (v / 64 + 192) :: UInt8.ofNat (v % 64 + 128) :: rest) =
      Char.ofNat v :: lossyFrom none rest := by
  have hsum : v / 64 * 64 + v % 64 = v := by omega
  rw [lossyFrom, Begun.add, begin_two (by omega) (by omega)]
  simp only [List.nil_append]
  rw [lossyFrom_last rest (by omega), hsum]

theorem lossyFrom_three {v : Nat} (rest : List UInt8) (hlow : 0x800 ≤ v) (hhigh : v < 0x10000)
    (hplain : v < 0xd800 ∨ 0xe000 ≤ v) :
    lossyFrom none (UInt8.ofNat (v / 4096 + 224) :: UInt8.ofNat (v / 64 % 64 + 128) ::
        UInt8.ofNat (v % 64 + 128) :: rest) =
      Char.ofNat v :: lossyFrom none rest := by
  have hsum : (v / 4096 * 64 + v / 64 % 64) * 64 + v % 64 = v := by omega
  obtain ⟨low, high, hbegin, hlow, hhigh⟩ := begin_three hlow hhigh hplain
  rw [lossyFrom, Begun.add, hbegin]
  simp only [List.nil_append]
  rw [lossyFrom_more _ hlow hhigh (by omega), lossyFrom_last rest (by omega), hsum]

theorem lossyFrom_four {v : Nat} (rest : List UInt8) (hlow : 0x10000 ≤ v) (hhigh : v < 0x110000) :
    lossyFrom none (UInt8.ofNat (v / 262144 + 240) :: UInt8.ofNat (v / 4096 % 64 + 128) ::
        UInt8.ofNat (v / 64 % 64 + 128) :: UInt8.ofNat (v % 64 + 128) :: rest) =
      Char.ofNat v :: lossyFrom none rest := by
  have hsum : ((v / 262144 * 64 + v / 4096 % 64) * 64 + v / 64 % 64) * 64 + v % 64 = v := by
    omega
  obtain ⟨low, high, hbegin, hlow, hhigh⟩ := begin_four hlow hhigh
  rw [lossyFrom, Begun.add, hbegin]
  simp only [List.nil_append]
  rw [lossyFrom_more _ hlow hhigh (by omega),
    lossyFrom_more _ (by simp) (by simp; omega) (by omega),
    lossyFrom_last rest (by omega), hsum]

theorem lossyFrom_encodeChar (c : Char) (rest : List UInt8) :
    lossyFrom none (String.utf8EncodeChar c ++ rest) = c :: lossyFrom none rest := by
  have hc : Char.ofNat c.val.toNat = c := Char.ofNat_toNat c
  have hvalid : c.val.toNat < 0xd800 ∨ 0xdfff < c.val.toNat ∧ c.val.toNat < 0x110000 := c.valid
  simp only [String.utf8EncodeChar]
  generalize c.val.toNat = v at hc hvalid ⊢
  split
  · rw [List.singleton_append, lossyFrom, Begun.add, begin_one (by omega), hc]
    rfl
  split
  · have hlead : v / 64 % 32 = v / 64 := by omega
    rw [hlead, ← hc]
    exact lossyFrom_two rest (by omega) (by omega)
  split
  · have hlead : v / 4096 % 16 = v / 4096 := by omega
    rw [hlead, ← hc]
    exact lossyFrom_three rest (by omega) (by omega) (by omega)
  · have hlead : v / 262144 % 8 = v / 262144 := by omega
    rw [hlead, ← hc]
    exact lossyFrom_four rest (by omega) (by omega)

/-! ## Whole texts -/

theorem utf8_append (s t : List Char) : utf8 (s ++ t) = utf8 s ++ utf8 t := List.flatMap_append

theorem lossy_utf8_append (s : List Char) (bytes : List UInt8) :
    lossy (utf8 s ++ bytes) = s ++ lossy bytes := by
  induction s with
  | nil => rfl
  | cons c s ih =>
    have hcons : utf8 (c :: s) = String.utf8EncodeChar c ++ utf8 s := rfl
    rw [hcons, List.append_assoc, lossy, lossyFrom_encodeChar]
    exact congrArg (c :: ·) ih

@[simp] theorem lossy_utf8 (s : List Char) : lossy (utf8 s) = s := by
  simpa [lossy, lossyFrom] using lossy_utf8_append s []

end JinieServer.Text
