import JinieServer.Proofs.FileUri.RoundTrip

/-!
# URIs that are spelt differently

Editors differ in what they escape and in the case of the digits. A path is read from what was
escaped, never from how: any spelling of a text names the same path, and bytes that spell no text
name none.
-/

namespace JinieServer.Text

/-! ## Spellings -/

/-- The digit stands for the number, in either case. -/
def IsHexDigit (n : Nat) (digit : Char) : Prop :=
  "0123456789ABCDEF".toList[n]? = some digit ∨ "0123456789abcdef".toList[n]? = some digit

instance (n : Nat) (digit : Char) : Decidable (IsHexDigit n digit) :=
  inferInstanceAs (Decidable (_ ∨ _))

/-- The two digits write the byte. -/
def IsHexByte (b : UInt8) (high low : Char) : Prop :=
  IsHexDigit (b.toNat / 16) high ∧ IsHexDigit (b.toNat % 16) low

instance (b : UInt8) (high low : Char) : Decidable (IsHexByte b high low) :=
  inferInstanceAs (Decidable (_ ∧ _))

/-- Every byte is written as `%` and its two digits. -/
inductive Escapes : List UInt8 → List Char → Prop where
  | nil : Escapes [] []
  | cons {b : UInt8} {bytes : List UInt8} {high low : Char} {rest : List Char}
    (hdigits : IsHexByte b high low) (hrest : Escapes bytes rest) :
    Escapes (b :: bytes) ('%' :: high :: low :: rest)

/-- Each character stands for itself, unless it is `%`, or is escaped byte by byte. -/
inductive Spelling : List Char → List Char → Prop where
  | nil : Spelling [] []
  | literal {c : Char} {text spelt : List Char} (hc : c ≠ '%') (hrest : Spelling text spelt) :
    Spelling (c :: text) (c :: spelt)
  | escaped {c : Char} {text escapes spelt : List Char}
    (hc : Escapes (String.utf8EncodeChar c) escapes) (hrest : Spelling text spelt) :
    Spelling (c :: text) (escapes ++ spelt)

/-- The bytes that a text stands for. A `%` that is not followed by two digits stays. -/
inductive Decoded : List Char → List UInt8 → Prop where
  | nil : Decoded [] []
  | plain {c : Char} {rest : List Char} {bytes : List UInt8} (hc : c ≠ '%')
    (hrest : Decoded rest bytes) : Decoded (c :: rest) (String.utf8EncodeChar c ++ bytes)
  | escape {b : UInt8} {high low : Char} {rest : List Char} {bytes : List UInt8}
    (hdigits : IsHexByte b high low) (hrest : Decoded rest bytes) :
    Decoded ('%' :: high :: low :: rest) (b :: bytes)
  | stray {rest : List Char} {bytes : List UInt8}
    (hdigits : ∀ b high low more, rest = high :: low :: more → ¬ IsHexByte b high low)
    (hrest : Decoded rest bytes) : Decoded ('%' :: rest) (0x25 :: bytes)

/-! ## Digits -/

theorem hexValue?_of_isHexDigit {n : Nat} {digit : Char} (h : IsHexDigit n digit) :
    hexValue? digit = some n ∧ n < 16 := by
  have hn : n < 16 := by
    rcases h with h | h <;> exact (List.getElem?_eq_some_iff.mp h).1
  refine ⟨?_, hn⟩
  interval_cases n <;> (rcases h with h | h <;> (obtain rfl := Option.some.inj h; rfl))

theorem isHexDigit_of_hexValue? {n : Nat} {digit : Char} (h : hexValue? digit = some n) :
    IsHexDigit n digit := by
  have hbounds : ∀ low high : Char, low ≤ digit ∧ digit ≤ high →
      low.toNat ≤ digit.toNat ∧ digit.toNat ≤ high.toNat := fun _ _ h => h
  obtain ⟨m, hm⟩ : ∃ m, digit.toNat = m := ⟨_, rfl⟩
  obtain rfl : digit = Char.ofNat m := by rw [← hm, Char.ofNat_toNat]
  rw [hm] at hbounds
  unfold hexValue? at h
  split at h
  case isTrue hin =>
    obtain ⟨hlow, hhigh⟩ : 48 ≤ m ∧ m ≤ 57 := hbounds _ _ hin
    interval_cases m <;> (obtain rfl := Option.some.inj h; decide)
  case isFalse =>
    split at h
    case isTrue hin =>
      obtain ⟨hlow, hhigh⟩ : 97 ≤ m ∧ m ≤ 102 := hbounds _ _ hin
      interval_cases m <;> (obtain rfl := Option.some.inj h; decide)
    case isFalse =>
      split at h
      case isTrue hin =>
        obtain ⟨hlow, hhigh⟩ : 65 ≤ m ∧ m ≤ 70 := hbounds _ _ hin
        interval_cases m <;> (obtain rfl := Option.some.inj h; decide)
      case isFalse => simp at h

theorem hexValue?_eq_some_iff {n : Nat} {digit : Char} :
    hexValue? digit = some n ↔ IsHexDigit n digit :=
  ⟨isHexDigit_of_hexValue?, fun h => (hexValue?_of_isHexDigit h).1⟩

/-! ## The bytes of a text -/

theorem unescapeBytes_escape_digits {b : UInt8} {high low : Char} (h : IsHexByte b high low)
    (rest : List Char) :
    unescapeBytes ('%' :: high :: low :: rest) = b :: unescapeBytes rest := by
  have hsum : 16 * (b.toNat / 16) + b.toNat % 16 = b.toNat := by omega
  simp [unescapeBytes, hexValue?_eq_some_iff.mpr h.1, hexValue?_eq_some_iff.mpr h.2, hsum]

theorem isHexByte_of_hexValue? {high low : Char} {m n : Nat} (hhigh : hexValue? high = some m)
    (hlow : hexValue? low = some n) : IsHexByte (UInt8.ofNat (16 * m + n)) high low := by
  obtain ⟨-, hm⟩ := hexValue?_of_isHexDigit (isHexDigit_of_hexValue? hhigh)
  obtain ⟨-, hn⟩ := hexValue?_of_isHexDigit (isHexDigit_of_hexValue? hlow)
  have hsize : UInt8.size = 256 := rfl
  have hvalue : (UInt8.ofNat (16 * m + n)).toNat = 16 * m + n :=
    UInt8.toNat_ofNat_of_lt' (by omega)
  have hdiv : (16 * m + n) / 16 = m := by omega
  have hmod : (16 * m + n) % 16 = n := by omega
  rw [IsHexByte, hvalue, hdiv, hmod]
  exact ⟨isHexDigit_of_hexValue? hhigh, isHexDigit_of_hexValue? hlow⟩

theorem unescapeBytes_stray {rest : List Char}
    (h : ∀ b high low more, rest = high :: low :: more → ¬ IsHexByte b high low) :
    unescapeBytes ('%' :: rest) = 0x25 :: unescapeBytes rest := by
  match rest with
  | [] => rfl
  | [c] => rfl
  | high :: low :: more =>
    rw [unescapeBytes]
    split
    case h_1 m n hhigh hlow => exact absurd (isHexByte_of_hexValue? hhigh hlow) (h _ _ _ _ rfl)
    case h_2 => rfl

theorem decoded_unescapeBytes (text : List Char) : Decoded text (unescapeBytes text) := by
  fun_induction unescapeBytes text with
  | case1 high low rest m n hlow hhigh ih => exact .escape (isHexByte_of_hexValue? hhigh hlow) ih
  | case2 high low rest hno ih =>
    refine .stray ?_ ih
    rintro b _ _ _ heq ⟨hhigh, hlow⟩
    obtain ⟨rfl, rfl, rfl⟩ : high = _ ∧ low = _ ∧ rest = _ := by simpa using heq
    exact hno _ _ (hexValue?_eq_some_iff.mpr hhigh) (hexValue?_eq_some_iff.mpr hlow)
  | case3 c rest hno ih =>
    -- Fewer than two characters follow, so this may still be a stray mark.
    by_cases hc : c = '%'
    · subst hc
      exact .stray (fun b high low more heq => absurd heq (hno high low more rfl)) ih
    · exact .plain hc ih
  | case4 => exact .nil

theorem decoded_iff {text : List Char} {bytes : List UInt8} :
    Decoded text bytes ↔ unescapeBytes text = bytes := by
  constructor
  · intro h
    induction h with
    | nil => rfl
    | plain hc _ ih => rw [unescapeBytes_cons hc, ih]
    | escape hdigits _ ih => rw [unescapeBytes_escape_digits hdigits, ih]
    | stray hdigits _ ih => rw [unescapeBytes_stray hdigits, ih]
  · rintro rfl
    exact decoded_unescapeBytes text

/-! ## Spellings are undone -/

theorem decoded_append_escapes {bytes more : List UInt8} {escapes rest : List Char}
    (h : Escapes bytes escapes) (hrest : Decoded rest more) :
    Decoded (escapes ++ rest) (bytes ++ more) := by
  induction h with
  | nil => exact hrest
  | cons hdigits _ ih => exact .escape hdigits ih

theorem decoded_of_spelling {text spelt : List Char} (h : Spelling text spelt) :
    Decoded spelt (utf8 text) := by
  induction h with
  | nil => exact .nil
  | literal hc _ ih => exact .plain hc ih
  | escaped hc _ ih => exact decoded_append_escapes hc ih

theorem unescape?_of_spelling {text spelt : List Char} (h : Spelling text spelt) :
    unescape? spelt = some text := by
  rw [unescape?, decoded_iff.mp (decoded_of_spelling h), ofUtf8?_utf8]

theorem utf8_of_ofUtf8? {bytes : List UInt8} {text : List Char} (h : ofUtf8? bytes = some text) :
    utf8 text = bytes := by
  obtain ⟨chars, hchars, rfl⟩ := Option.map_eq_some_iff.mp h
  have hsome : bytes.toByteArray.utf8Decode?.isSome := by simp [hchars]
  have hencode := ByteArray.utf8Encode_get_utf8Decode? (h := hsome)
  simp only [hchars, Option.get_some] at hencode
  exact List.toByteArray_inj.mp hencode

theorem unescape?_eq_none {text : List Char} {bytes : List UInt8} (h : Decoded text bytes)
    (hno : ∀ other, utf8 other ≠ bytes) : unescape? text = none := by
  rw [unescape?, decoded_iff.mp h]
  cases hread : ofUtf8? bytes with
  | none => rfl
  | some other => exact absurd (utf8_of_ofUtf8? hread) (hno other)

end JinieServer.Text

namespace JinieServer.FileUri

open JinieServer.Text

/-! ## Paths -/

theorem path?_append (body : List Char) :
    path? (scheme ++ body) = (unescape? body).bind bodyPath? := by
  simp only [path?, after?_append, Option.bind_eq_bind, Option.bind_some]

theorem bodyPath?_of_not_slashedDrive {text : List Char} (hne : text ≠ [])
    (h : ∀ rest, text = '/' :: rest → ¬ OnDrive rest) : bodyPath? text = some text := by
  unfold bodyPath?
  split
  case h_1 => exact absurd rfl hne
  case h_2 rest => simp [drive?_eq_none_iff.mpr (h rest rfl)]
  case h_3 => rfl

theorem bodyPath?_slashedDrive {rest : List Char} (h : OnDrive rest) :
    bodyPath? ('/' :: rest) = some rest := by
  obtain ⟨letter, more, rfl, hletter⟩ := h
  simp [bodyPath?, drive?_cons more hletter]

/-- The path of a URI is told by the text that it spells: none for the empty text, a drive without
the slash before it, and otherwise the text itself. It has none if its bytes are those of no text,
and every URI stands for bytes. -/
theorem path?_independent_of_spelling :
    (∀ text spelt, Spelling text spelt →
      (text = [] → path? ("file://".toList ++ spelt) = none) ∧
      (∀ rest, text = '/' :: rest → OnDrive rest →
        path? ("file://".toList ++ spelt) = some rest) ∧
      (text ≠ [] → (∀ rest, text = '/' :: rest → ¬ OnDrive rest) →
        path? ("file://".toList ++ spelt) = some text)) ∧
    (∀ spelt bytes, Decoded spelt bytes → (∀ text, utf8 text ≠ bytes) →
      path? ("file://".toList ++ spelt) = none) ∧
    ∀ spelt, ∃! bytes, Decoded spelt bytes := by
  refine ⟨?_, ?_, ?_⟩
  · intro text spelt hspelt
    have hpath : path? (scheme ++ spelt) = bodyPath? text := by
      rw [path?_append, unescape?_of_spelling hspelt, Option.bind_some]
    refine ⟨?_, ?_, ?_⟩
    · rintro rfl
      exact hpath
    · rintro rest rfl hdrive
      exact hpath.trans (bodyPath?_slashedDrive hdrive)
    · intro hne hno
      exact hpath.trans (bodyPath?_of_not_slashedDrive hne hno)
  · intro spelt bytes hdecoded hno
    have hpath : path? (scheme ++ spelt) = none := by
      rw [path?_append, unescape?_eq_none hdecoded hno, Option.bind_none]
    exact hpath
  · intro spelt
    exact ⟨unescapeBytes spelt, decoded_unescapeBytes spelt, fun _ h => (decoded_iff.mp h).symm⟩

/-- The slash and the colon are escaped in small digits, and the `%` of the name is no escape. -/
theorem drive_behind_escapes :
    Spelling ['/', 'C', ':', 'ä', '%', '2', 'f']
      ['%', '2', 'f', 'C', '%', '3', 'a', '%', 'c', '3', '%', 'A', '4', '%', '2', '5', '2', 'f'] ∧
    OnDrive ['C', ':', 'ä', '%', '2', 'f'] ∧
    path? ("file://".toList ++
      ['%', '2', 'f', 'C', '%', '3', 'a', '%', 'c', '3', '%', 'A', '4', '%', '2', '5', '2', 'f']) =
      some ['C', ':', 'ä', '%', '2', 'f'] ∧
    Decoded ['%', '%', 'f', 'F'] [0x25, 0xff] ∧ (∀ text, utf8 text ≠ [0x25, 0xff]) ∧
    path? ("file://".toList ++ ['%', '%', 'f', 'F']) = none := by
  have hspelt : Spelling ['/', 'C', ':', 'ä', '%', '2', 'f']
      (['%', '2', 'f'] ++ 'C' :: (['%', '3', 'a'] ++ (['%', 'c', '3', '%', 'A', '4'] ++
        (['%', '2', '5'] ++ ['2', 'f'])))) :=
    .escaped (.cons (by decide) .nil) <| .literal (by decide) <|
      .escaped (.cons (by decide) .nil) <|
      .escaped (.cons (by decide) (.cons (by decide) .nil)) <|
      .escaped (.cons (by decide) .nil) <| .literal (by decide) <| .literal (by decide) .nil
  have hdrive : OnDrive ['C', ':', 'ä', '%', '2', 'f'] := ⟨_, _, rfl, by decide⟩
  have hdecoded : Decoded ['%', '%', 'f', 'F'] [0x25, 0xff] := decoded_unescapeBytes _
  have hno : ∀ text, utf8 text ≠ [0x25, 0xff] := by
    intro text htext
    have hread := ofUtf8?_utf8 text
    have hnone : ofUtf8? [0x25, 0xff] = none := by decide +kernel
    simp [htext, hnone] at hread
  obtain ⟨hpath, hnone, -⟩ := path?_independent_of_spelling
  exact ⟨hspelt, hdrive, (hpath _ _ hspelt).2.1 _ rfl hdrive, hdecoded, hno, hnone _ _ hdecoded hno⟩

end JinieServer.FileUri
