import JinieServer.Text.Percent
import Mathlib.Tactic.IntervalCases

/-!
# Percent escapes are undone

An escape gives back its byte, and a character that is kept gives back its own bytes. So a text
that was escaped is read again as it was, as long as `%` itself is escaped.
-/

namespace JinieServer.Text

/-! ## One escape -/

theorem hexValue?_hexDigit {n : Nat} (h : n < 16) : hexValue? (hexDigit n) = some n := by
  interval_cases n <;> rfl

theorem unescapeBytes_escapeByte (b : UInt8) (rest : List Char) :
    unescapeBytes (escapeByte b ++ rest) = b :: unescapeBytes rest := by
  have hb := b.toNat_lt
  have hhigh : hexValue? (hexDigit (b.toNat / 16)) = some (b.toNat / 16) :=
    hexValue?_hexDigit (by omega)
  have hlow : hexValue? (hexDigit (b.toNat % 16)) = some (b.toNat % 16) :=
    hexValue?_hexDigit (by omega)
  have hsum : 16 * (b.toNat / 16) + b.toNat % 16 = b.toNat := by omega
  simp [escapeByte, unescapeBytes, hhigh, hlow, hsum]

theorem unescapeBytes_flatMap_escapeByte (bytes : List UInt8) (rest : List Char) :
    unescapeBytes (bytes.flatMap escapeByte ++ rest) = bytes ++ unescapeBytes rest := by
  induction bytes with
  | nil => rfl
  | cons b bytes ih =>
    rw [List.flatMap_cons, List.append_assoc, unescapeBytes_escapeByte, ih, List.cons_append]

theorem unescapeBytes_cons {c : Char} (h : c ≠ '%') (rest : List Char) :
    unescapeBytes (c :: rest) = String.utf8EncodeChar c ++ unescapeBytes rest := by
  rw [unescapeBytes]
  intro a b more hc
  exact absurd hc h

theorem forall_mem_escapeByte {p : Char → Prop} (hmark : p '%')
    (hdigit : ∀ n < 16, p (hexDigit n)) (b : UInt8) : ∀ c ∈ escapeByte b, p c := by
  have hb := b.toNat_lt
  simp only [escapeByte, List.forall_mem_cons]
  exact ⟨hmark, hdigit _ (by omega), hdigit _ (by omega), by simp⟩

/-! ## A whole text -/

theorem forall_mem_escape {keep : Char → Bool} {p : Char → Prop}
    (hkeep : ∀ c, keep c = true → p c) (hmark : p '%') (hdigit : ∀ n < 16, p (hexDigit n))
    (s : List Char) : ∀ c ∈ escape keep s, p c := by
  intro c hc
  obtain ⟨d, -, hd⟩ := List.mem_flatMap.mp hc
  split at hd
  case isTrue hplain =>
    obtain rfl := List.mem_singleton.mp hd
    exact hkeep c hplain
  case isFalse =>
    obtain ⟨b, -, hb⟩ := List.mem_flatMap.mp hd
    exact forall_mem_escapeByte hmark hdigit b c hb

theorem unescapeBytes_escape {keep : Char → Bool} (hkeep : keep '%' = false)
    (s rest : List Char) :
    unescapeBytes (escape keep s ++ rest) = utf8 s ++ unescapeBytes rest := by
  induction s with
  | nil => rfl
  | cons c s ih =>
    simp only [escape, utf8, List.flatMap_cons, List.append_assoc] at ih ⊢
    by_cases hc : keep c = true
    case pos =>
      have hne : c ≠ '%' := by
        rintro rfl
        simp [hkeep] at hc
      rw [if_pos hc, List.singleton_append, unescapeBytes_cons hne, ih]
    case neg => rw [if_neg hc, unescapeBytes_flatMap_escapeByte, ih]

theorem utf8EncodeChar_ofNat {b : UInt8} (h : b < 0x80) :
    String.utf8EncodeChar (Char.ofNat b.toNat) = [b] := by
  have hb : b.toNat < 128 := h
  obtain ⟨n, hn⟩ : ∃ n, b.toNat = n := ⟨_, rfl⟩
  obtain rfl : b = UInt8.ofNat n := by rw [← hn, UInt8.ofNat_toNat]
  rw [hn] at hb ⊢
  clear h hn
  interval_cases n <;> rfl

theorem unescapeBytes_escapeBytes {keep : Char → Bool} (hkeep : keep '%' = false)
    (bytes : List UInt8) : unescapeBytes (escapeBytes keep bytes) = bytes := by
  induction bytes with
  | nil => rfl
  | cons b bytes ih =>
    rw [escapeBytes, List.flatMap_cons, ← escapeBytes]
    simp only
    split
    case isTrue hc =>
      rw [Bool.and_eq_true, decide_eq_true_eq] at hc
      have hne : Char.ofNat b.toNat ≠ '%' := by
        intro heq
        rw [heq, hkeep] at hc
        exact absurd hc.2 (by decide)
      rw [List.singleton_append, unescapeBytes_cons hne, utf8EncodeChar_ofNat hc.1, ih,
        List.singleton_append]
    case isFalse => rw [unescapeBytes_escapeByte, ih]

theorem ofUtf8?_utf8 (s : List Char) : ofUtf8? (utf8 s) = some s := by
  have hdecode : (utf8 s).toByteArray.utf8Decode? = some s.toArray := List.utf8Decode?_utf8Encode
  rw [ofUtf8?, hdecode]
  rfl

theorem unescape?_escape {keep : Char → Bool} (hkeep : keep '%' = false) (s : List Char) :
    unescape? (escape keep s) = some s := by
  have hbytes := unescapeBytes_escape hkeep s []
  simp only [List.append_nil, unescapeBytes] at hbytes
  rw [unescape?, hbytes, ofUtf8?_utf8]

end JinieServer.Text
