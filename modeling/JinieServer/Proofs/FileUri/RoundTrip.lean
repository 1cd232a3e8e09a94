import JinieServer.FileUri
import JinieServer.Proofs.Path
import JinieServer.Proofs.Text.Percent
import Mathlib.Data.List.Basic

/-!
# Paths that are written as URIs and read again

`ReadBack` says what becomes of a path. It comes back as it was if it starts at the root and not
on a drive, or on a drive with a small letter and without backslashes; all others change.
-/

namespace JinieServer.FileUri

open JinieServer.Text

/-! ## The rules -/

/-- The path starts with a drive letter and a colon. -/
def OnDrive (path : List Char) : Prop :=
  ∃ letter rest, path = letter :: ':' :: rest ∧ letter.isAlpha = true

/-- The path starts with a slash, and no drive follows it. -/
def Rooted (path : List Char) : Prop := ∃ rest, path = '/' :: rest ∧ ¬ OnDrive rest

/-- The path starts with a drive in a small letter, and has no backslash behind it. -/
def PlainDrive (path : List Char) : Prop :=
  ∃ letter rest, path = letter :: ':' :: rest ∧ letter.isLower = true ∧ '\\' ∉ rest

def withSlashes (path : List Char) : List Char := path.map fun c => if c = '\\' then '/' else c

/-- What a path is read as once it has been written as a URI. -/
inductive ReadBack : List Char → List Char → Prop where
  | drive {letter : Char} {rest : List Char} (h : letter.isAlpha = true) :
    ReadBack (letter :: ':' :: rest) (letter.toLower :: ':' :: withSlashes rest)
  | slashedDrive {letter : Char} {rest : List Char} (h : letter.isAlpha = true) :
    ReadBack ('/' :: letter :: ':' :: rest) (letter :: ':' :: rest)
  | rooted {path : List Char} (h : Rooted path) : ReadBack path path
  | relative {path : List Char} (hdrive : ¬ OnDrive path) (hroot : path.head? ≠ some '/') :
    ReadBack path ('/' :: path)

/-! ## Drives -/

theorem drive?_cons {letter : Char} (rest : List Char) (h : letter.isAlpha = true) :
    drive? (letter :: ':' :: rest) = some (letter, rest) := by
  simp [drive?, h]

theorem drive?_eq_none_iff {path : List Char} : drive? path = none ↔ ¬ OnDrive path := by
  constructor
  · rintro hnone ⟨letter, rest, rfl, hletter⟩
    simp [drive?_cons rest hletter] at hnone
  · intro hno
    unfold drive?
    split
    case h_1 letter rest =>
      have hletter : ¬ letter.isAlpha = true := fun h => hno ⟨letter, rest, rfl, h⟩
      rw [if_neg hletter]
    case h_2 => rfl

theorem not_onDrive_slash (rest : List Char) : ¬ OnDrive ('/' :: rest) := by
  rintro ⟨letter, more, heq, hletter⟩
  obtain ⟨rfl, -⟩ := List.cons.inj heq
  exact absurd hletter (by decide)

/-! ## Letters -/

theorem isUpper_iff {c : Char} : c.isUpper = true ↔ 65 ≤ c.toNat ∧ c.toNat ≤ 90 := by
  change decide (c.val ≥ 65 ∧ c.val ≤ 90) = true ↔ _
  simp [UInt32.le_iff_toNat_le, ← Char.toNat_val]

theorem isLower_iff {c : Char} : c.isLower = true ↔ 97 ≤ c.toNat ∧ c.toNat ≤ 122 := by
  change (decide (c.val ≥ 97) && decide (c.val ≤ 122)) = true ↔ _
  simp [UInt32.le_iff_toNat_le, ← Char.toNat_val]

theorem isAlpha_iff {c : Char} : c.isAlpha = true ↔ c.isUpper = true ∨ c.isLower = true :=
  Bool.or_eq_true _ _ ▸ Iff.rfl

theorem of_between {p : Char → Prop} {low high : Nat} {c : Char}
    (hall : ∀ n, low ≤ n → n ≤ high → p (Char.ofNat n)) (h : low ≤ c.toNat ∧ c.toNat ≤ high) :
    p c := by
  have hc := hall c.toNat h.1 h.2
  rwa [Char.ofNat_toNat] at hc

theorem isPlain_of_isLower {c : Char} (h : c.isLower = true) : isPlain c = true := by
  refine of_between (p := fun c => isPlain c = true) (fun n hlow hhigh => ?_) (isLower_iff.mp h)
  interval_cases n <;> decide

theorem toLower_of_isLower {c : Char} (h : c.isLower = true) : c.toLower = c := by
  refine of_between (p := fun c => c.toLower = c) (fun n hlow hhigh => ?_) (isLower_iff.mp h)
  interval_cases n <;> decide

theorem isLower_toLower {c : Char} (h : c.isAlpha = true) : c.toLower.isLower = true := by
  rcases isAlpha_iff.mp h with hupper | hlower
  · refine of_between (p := fun c => c.toLower.isLower = true) (fun n hlow hhigh => ?_)
      (isUpper_iff.mp hupper)
    interval_cases n <;> decide
  · rwa [toLower_of_isLower hlower]

theorem withSlashes_eq_self_iff {path : List Char} : withSlashes path = path ↔ '\\' ∉ path := by
  induction path with
  | nil => simp [withSlashes]
  | cons c path ih =>
    simp only [withSlashes, List.map_cons, List.cons.injEq, List.mem_cons, not_or] at ih ⊢
    rw [ih]
    by_cases hc : c = '\\'
    · simp [hc]
    · simp [hc, Ne.symm hc]

/-! ## Writing -/

/-- What the URI of a path says behind its scheme once the escapes are undone. -/
def writtenBody (path : List Char) : List Char :=
  match drive? path with
  | some (letter, rest) => '/' :: letter.toLower :: ':' :: withSlashes rest
  | none => if Path.isAbsolute path then path else '/' :: path

theorem isAlpha_of_drive? {path rest : List Char} {letter : Char}
    (h : drive? path = some (letter, rest)) : letter.isAlpha = true := by
  unfold drive? at h
  split at h
  case h_1 found more =>
    split at h
    case isTrue hfound =>
      obtain ⟨rfl, -⟩ : found = letter ∧ more = rest := by simpa using h
      exact hfound
    case isFalse => simp at h
  case h_2 => simp at h

theorem escape_drive {letter : Char} (rest : List Char) (h : letter.isAlpha = true) :
    escape isPlain ('/' :: letter.toLower :: ':' :: rest) =
      '/' :: letter.toLower :: "%3A".toList ++ escape isPlain rest := by
  have hslash : isPlain '/' = true := by decide
  have hletter := isPlain_of_isLower (isLower_toLower h)
  have hcolon : (if isPlain ':' then [':'] else (String.utf8EncodeChar ':').flatMap escapeByte) =
      "%3A".toList := by decide
  simp only [escape, List.flatMap_cons, hcolon, hslash, hletter, if_true]
  rfl

theorem ofPath_eq (path : List Char) :
    ofPath path = scheme ++ escape isPlain (writtenBody path) := by
  rw [ofPath, writtenBody]
  cases hdrive : drive? path with
  | some found =>
    obtain ⟨letter, rest⟩ := found
    simp only [escape_drive _ (isAlpha_of_drive? hdrive)]
    rfl
  | none =>
    simp only
    split
    · rfl
    · have hslash : isPlain '/' = true := by decide
      simp only [escape, List.flatMap_cons, hslash, if_true]
      rfl

theorem path?_ofPath (path : List Char) : path? (ofPath path) = bodyPath? (writtenBody path) := by
  have hread := unescape?_escape (by decide : isPlain '%' = false) (writtenBody path)
  rw [ofPath_eq, path?, after?_append]
  simp [hread]

/-! ## Reading again -/

theorem path?_ofPath_drive {letter : Char} (rest : List Char) (h : letter.isAlpha = true) :
    path? (ofPath (letter :: ':' :: rest)) =
      some (letter.toLower :: ':' :: withSlashes rest) := by
  have hlower : letter.toLower.isAlpha = true := isAlpha_iff.mpr (Or.inr (isLower_toLower h))
  simp [path?_ofPath, writtenBody, drive?_cons _ h, bodyPath?, drive?_cons _ hlower]

theorem bodyPath?_slash (rest : List Char) :
    bodyPath? ('/' :: rest) = if (drive? rest).isSome then some rest else some ('/' :: rest) := rfl

theorem writtenBody_of_not_onDrive {path : List Char} (h : ¬ OnDrive path) :
    writtenBody path = if Path.isAbsolute path then path else '/' :: path := by
  rw [writtenBody, drive?_eq_none_iff.mpr h]

theorem path?_ofPath_of_readBack {path read : List Char} (h : ReadBack path read) :
    path? (ofPath path) = some read := by
  cases h with
  | drive hletter => exact path?_ofPath_drive _ hletter
  | slashedDrive hletter =>
    rw [path?_ofPath, writtenBody_of_not_onDrive (not_onDrive_slash _)]
    simp [Path.isAbsolute, bodyPath?_slash, drive?_cons _ hletter]
  | rooted hrooted =>
    obtain ⟨rest, rfl, hrest⟩ := hrooted
    rw [path?_ofPath, writtenBody_of_not_onDrive (not_onDrive_slash _)]
    simp [Path.isAbsolute, bodyPath?_slash, drive?_eq_none_iff.mpr hrest]
  | relative hdrive hroot =>
    rw [path?_ofPath, writtenBody_of_not_onDrive hdrive]
    simp [Path.isAbsolute_iff, hroot, bodyPath?_slash, drive?_eq_none_iff.mpr hdrive]

theorem exists_readBack (path : List Char) : ∃ read, ReadBack path read := by
  by_cases hdrive : OnDrive path
  · obtain ⟨letter, rest, rfl, hletter⟩ := hdrive
    exact ⟨_, .drive hletter⟩
  · by_cases hroot : path.head? = some '/'
    · obtain ⟨rest, rfl⟩ := List.head?_eq_some_iff.mp hroot
      by_cases hrest : OnDrive rest
      · obtain ⟨letter, rest, rfl, hletter⟩ := hrest
        exact ⟨_, .slashedDrive hletter⟩
      · exact ⟨_, .rooted ⟨rest, rfl, hrest⟩⟩
    · exact ⟨_, .relative hdrive hroot⟩

theorem path?_ofPath_eq_some_iff {path read : List Char} :
    path? (ofPath path) = some read ↔ ReadBack path read := by
  constructor
  · intro h
    obtain ⟨other, hother⟩ := exists_readBack path
    obtain rfl : other = read := by simpa [path?_ofPath_of_readBack hother] using h
    exact hother
  · exact path?_ofPath_of_readBack

/-! ## Which paths come back -/

theorem stable_of_readBack {path read : List Char} (h : ReadBack path read) (heq : read = path) :
    Rooted path ∨ PlainDrive path := by
  cases h with
  | @drive letter rest hletter =>
    obtain ⟨hlower, -, hplain⟩ : letter.toLower = letter ∧ ':' = ':' ∧ withSlashes rest = rest := by
      simpa using heq
    right
    exact ⟨letter, rest, rfl, hlower ▸ isLower_toLower hletter, withSlashes_eq_self_iff.mp hplain⟩
  | slashedDrive hletter => exact absurd (congrArg List.length heq) (by simp)
  | rooted hrooted => exact Or.inl hrooted
  | relative hdrive hroot => exact absurd (congrArg List.length heq) (by simp)

theorem readBack_self {path : List Char} (h : Rooted path ∨ PlainDrive path) :
    ReadBack path path := by
  rcases h with hrooted | ⟨letter, rest, rfl, hlower, hplain⟩
  · exact .rooted hrooted
  · have hletter : letter.isAlpha = true := isAlpha_iff.mpr (Or.inr hlower)
    have hsame : letter.toLower = letter := toLower_of_isLower hlower
    have hdrive : ReadBack (letter :: ':' :: rest) _ := .drive hletter
    rwa [hsame, withSlashes_eq_self_iff.mpr hplain] at hdrive

/-- Every path is read back as the rules say, and unchanged exactly if it is rooted or on a plain
drive. -/
theorem path?_ofPath_iff_readBack (path : List Char) :
    (∃ read, path? (ofPath path) = some read) ∧
      (∀ read, path? (ofPath path) = some read ↔ ReadBack path read) ∧
      (path? (ofPath path) = some path ↔ Rooted path ∨ PlainDrive path) := by
  refine ⟨?_, fun read => path?_ofPath_eq_some_iff, ?_⟩
  · obtain ⟨read, hread⟩ := exists_readBack path
    exact ⟨read, path?_ofPath_of_readBack hread⟩
  · rw [path?_ofPath_eq_some_iff]
    exact ⟨fun h => stable_of_readBack h rfl, readBack_self⟩

example : path? (ofPath "Z:\\ä%2e\\b#c".toList) = some "z:/ä%2e/b#c".toList := by decide +kernel

end JinieServer.FileUri
