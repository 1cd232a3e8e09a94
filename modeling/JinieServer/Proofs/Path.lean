import JinieServer.Path
import JinieServer.Proofs.Text.Utf8
import Mathlib.Data.List.Infix

/-!
# Folders and the paths below them

The folder of a path is the start of its text, and does not end in a slash unless it is the root.
A path below a folder starts with the text of the folder, and the path of a name in it leads back
to that very text.
-/

namespace JinieServer.Path

open JinieServer.Text

/-! ## Pieces -/

section Pieces

variable {α : Type} {separator : α}

theorem not_mem_of_mem_splitOn [DecidableEq α] {s piece : List α}
    (h : piece ∈ s.splitOn separator) : separator ∉ piece := by
  induction s generalizing piece with
  | nil =>
    obtain rfl : piece = [] := by simpa using h
    simp
  | cons c rest ih =>
    rw [List.splitOn_cons_eq_if_modifyHead] at h
    split at h
    case isTrue =>
      rcases List.mem_cons.mp h with rfl | h
      · simp
      · exact ih h
    case isFalse hc =>
      cases hp : rest.splitOn separator with
      | nil => exact absurd hp (List.splitOn_ne_nil separator rest)
      | cons first more =>
        rw [hp] at h ih
        rcases List.mem_cons.mp h with rfl | h
        · have hne : separator ≠ c := fun heq => hc (by simp [heq])
          simpa [hne] using ih List.mem_cons_self
        · exact ih (List.mem_cons_of_mem _ h)

theorem flatMap_cons_eq_intercalate {list : List (List α)} (h : list ≠ []) :
    list.flatMap (separator :: ·) = separator :: [separator].intercalate list := by
  induction list with
  | nil => exact absurd rfl h
  | cons piece more ih =>
    by_cases hlast : more = []
    · simp [hlast]
    · rw [List.flatMap_cons, ih hlast, List.intercalate_cons_of_ne_nil hlast]
      simp

theorem intercalate_isPrefix (separator : α) {front list : List (List α)}
    (h : front <+: list) :
    [separator].intercalate front <+: [separator].intercalate list := by
  induction front generalizing list with
  | nil => simp
  | cons piece front ih =>
    obtain ⟨rest, rfl⟩ := h
    cases front with
    | nil =>
      cases rest with
      | nil => simp
      | cons second rest => simp [List.intercalate_cons_cons]
    | cons second front =>
      have hrest := ih (List.prefix_append (second :: front) rest)
      have hne : second :: front ++ rest ≠ [] := by simp
      rw [List.cons_append, List.intercalate_cons_of_ne_nil (List.cons_ne_nil second front),
        List.intercalate_cons_of_ne_nil hne, List.prefix_append_right_inj]
      exact hrest

theorem suffix_intercalate (separator : α) (front : List (List α)) (piece : List α) :
    piece <:+ [separator].intercalate (front ++ [piece]) := by
  induction front with
  | nil => simp
  | cons first front ih =>
    rw [List.cons_append, List.intercalate_cons_of_ne_nil (by simp)]
    exact ih.trans (List.suffix_append _ _)

end Pieces

theorem isAbsolute_iff {path : List Char} : isAbsolute path = true ↔ path.head? = some '/' :=
  decide_eq_true_iff

/-! ## The folder of a path -/

theorem dropBlank_isSuffix (absolute : Bool) (list : List (List Char)) :
    dropBlank absolute list <:+ list := by
  induction list with
  | nil => exact List.suffix_rfl
  | cons piece earlier ih =>
    rw [dropBlank]
    split
    · exact ih.trans (List.suffix_cons _ _)
    · exact List.suffix_rfl

theorem ne_nil_of_dropBlank {absolute : Bool} {list earlier : List (List Char)} {piece : List Char}
    (h : dropBlank absolute list = piece :: earlier) : piece ≠ [] := by
  induction list with
  | nil => simp [dropBlank] at h
  | cons first list ih =>
    rw [dropBlank] at h
    split at h
    case isTrue => exact ih h
    case isFalse hkept =>
      obtain ⟨rfl, -⟩ := List.cons.inj h
      exact fun hnil => hkept (Or.inl hnil)

theorem intercalate_dropBlank (absolute : Bool) {earlier : List (List Char)} {body : List Char}
    (h : earlier <:+ (body.splitOn '/').reverse) :
    ['/'].intercalate (dropBlank absolute earlier).reverse <+: body ∧
      (['/'].intercalate (dropBlank absolute earlier).reverse).getLast? ≠ some '/' := by
  have hsuffix := (dropBlank_isSuffix absolute earlier).trans h
  constructor
  · have hfront : (dropBlank absolute earlier).reverse <+: body.splitOn '/' := by
      rwa [← List.reverse_suffix, List.reverse_reverse]
    have hstarts := intercalate_isPrefix '/' hfront
    rwa [List.intercalate_splitOn] at hstarts
  · cases hlist : dropBlank absolute earlier with
    | nil => simp
    | cons piece before =>
      have hne := ne_nil_of_dropBlank hlist
      have hpiece : piece ∈ body.splitOn '/' := by
        rw [hlist] at hsuffix
        exact List.mem_reverse.mp (hsuffix.subset List.mem_cons_self)
      rw [List.reverse_cons]
      obtain ⟨front, hfront⟩ := suffix_intercalate '/' before.reverse piece
      rw [← hfront, List.getLast?_append_of_ne_nil _ hne]
      intro hlast
      exact not_mem_of_mem_splitOn hpiece (List.mem_of_getLast? hlast)

theorem suffix_of_dropBlank {absolute : Bool} {list earlier : List (List Char)}
    {piece : List Char} (h : dropBlank absolute list = piece :: earlier) : earlier <:+ list := by
  have hsuffix := dropBlank_isSuffix absolute list
  rw [h] at hsuffix
  exact (List.suffix_cons _ _).trans hsuffix

theorem parent?_eq_some {path dir : List Char} (h : parent? path = some dir) :
    dir <+: path ∧ (dir = ['/'] ∨ dir.getLast? ≠ some '/') := by
  unfold parent? at h
  simp only at h
  split at h
  case h_1 => simp at h
  case h_2 piece earlier hlist =>
    obtain ⟨hstarts, hlast⟩ := intercalate_dropBlank (isAbsolute path) (suffix_of_dropBlank hlist)
    obtain rfl := Option.some.inj h
    by_cases habsolute : isAbsolute path = true
    case neg =>
      simp only [habsolute] at hstarts hlast ⊢
      exact ⟨hstarts, Or.inr hlast⟩
    case pos =>
      obtain ⟨rest, rfl⟩ := List.head?_eq_some_iff.mp (isAbsolute_iff.mp habsolute)
      simp only [habsolute, if_true, List.drop_one, List.tail_cons] at hstarts hlast ⊢
      refine ⟨List.cons_prefix_cons.mpr ⟨rfl, hstarts⟩, ?_⟩
      cases hkept : ['/'].intercalate (dropBlank true earlier).reverse with
      | nil => exact Or.inl rfl
      | cons c kept =>
        right
        rw [hkept] at hlast
        simpa using hlast

/-! ## Paths below a folder -/

section Below

variable {α : Type} [DecidableEq α] {slash : α} {dir child : List α}

theorem isPrefix_withSlash : dir <+: withSlash slash dir := by
  unfold withSlash
  split
  · exact List.prefix_rfl
  · exact List.prefix_append _ _

theorem withSlash_eq_append (hne : dir ≠ []) (hlast : dir.getLast? ≠ some slash) :
    withSlash slash dir = dir ++ [slash] := by
  simp [withSlash, hne, hlast]

theorem joinWith_eq_append (h : child.head? ≠ some slash) :
    joinWith slash dir child = withSlash slash dir ++ child := if_neg h

end Below

theorem join_eq_append {dir child : List Char} (h : isAbsolute child = false) :
    join dir child = withSlash '/' dir ++ child :=
  joinWith_eq_append (of_decide_eq_false h)

theorem isPrefix_join {dir child : List Char} (h : isAbsolute child = false) :
    dir <+: join dir child := by
  rw [join_eq_append h]
  exact isPrefix_withSlash.trans (List.prefix_append _ _)

theorem isPrefix_join_slash {dir child : List Char} (h : isAbsolute child = false)
    (hne : dir ≠ []) (hlast : dir.getLast? ≠ some '/') : dir ++ ['/'] <+: join dir child := by
  rw [join_eq_append h, withSlash_eq_append hne hlast]
  exact List.prefix_append _ _

/-! ## Names that need not be texts -/

theorem getLast?_encodeChar (c : Char) :
    (String.utf8EncodeChar c).getLast? = some slash ↔ c = '/' := by
  have hc : c = '/' ↔ c.val.toNat = 47 := by
    rw [← Char.toNat_inj]
    rfl
  have hlong : ∀ n, UInt8.ofNat (n % 64 + 128) ≠ slash := by
    intro n heq
    have hbyte := toNat_byte (show n % 64 + 128 < 256 by omega)
    have hslash : slash.toNat = 47 := rfl
    rw [heq, hslash] at hbyte
    omega
  rw [hc]
  simp only [String.utf8EncodeChar]
  generalize c.val.toNat = v
  by_cases hone : v ≤ 127
  · rw [if_pos hone, List.getLast?_singleton, Option.some.injEq, ← UInt8.toNat_inj,
      toNat_byte (by omega)]
    rfl
  · -- A longer form ends in a byte that is no character by itself.
    have hne : v ≠ 47 := by omega
    rw [if_neg hone]
    split
    · simpa [hne] using hlong v
    split
    · simpa [hne] using hlong v
    · simpa [hne] using hlong v

theorem utf8_withSlash (dir : List Char) :
    withSlash slash (utf8 dir) = utf8 (withSlash '/' dir) := by
  rcases List.eq_nil_or_concat dir with rfl | ⟨front, c, rfl⟩
  · rfl
  · have hbytes : utf8 (front ++ [c]) = utf8 front ++ String.utf8EncodeChar c := by
      simp [utf8]
    have hne : String.utf8EncodeChar c ≠ [] := String.utf8EncodeChar_ne_nil
    have hlast : (utf8 (front ++ [c])).getLast? = some slash ↔ c = '/' := by
      rw [hbytes, List.getLast?_append_of_ne_nil _ hne, getLast?_encodeChar]
    by_cases hslash : c = '/'
    · subst hslash
      have hends := hlast.mpr rfl
      simp [withSlash, hends]
    · rw [withSlash_eq_append (by simp [hbytes, hne]) (by simpa [hlast] using hslash),
        withSlash_eq_append (by simp) (by simpa using hslash), utf8_append]
      rfl

theorem lossy_joinBytes {dir : List Char} {child : List UInt8} (h : child.head? ≠ some slash) :
    lossy (joinBytes (utf8 dir) child) = withSlash '/' dir ++ lossy child := by
  rw [joinBytes, joinWith_eq_append h, utf8_withSlash, lossy_utf8_append]

theorem isAbsolute_of_no_slash {child : List Char} (h : '/' ∉ child) :
    isAbsolute child = false := by
  rw [Bool.eq_false_iff, ne_eq, isAbsolute_iff]
  exact fun hhead => h (List.mem_of_head? hhead)

/-! ## Back to the folder -/

theorem dropBlank_dropBlank (absolute : Bool) (list : List (List Char)) :
    dropBlank absolute (dropBlank absolute list) = dropBlank absolute list := by
  induction list with
  | nil => rfl
  | cons piece earlier ih =>
    rw [dropBlank]
    split
    case isTrue => exact ih
    case isFalse hkept => rw [dropBlank, if_neg hkept]

/-- The text behind the first slash of a folder: nothing, or pieces of which the last one names
something. -/
def Tidy (rest : List Char) : Prop :=
  rest = [] ∨ dropBlank true (rest.splitOn '/').reverse = (rest.splitOn '/').reverse

theorem tidy_intercalate_dropBlank {earlier : List (List Char)} {body : List Char}
    (h : earlier <:+ (body.splitOn '/').reverse) :
    Tidy (['/'].intercalate (dropBlank true earlier).reverse) := by
  by_cases hnil : dropBlank true earlier = []
  · left
    rw [hnil]
    rfl
  · right
    have hsuffix := (dropBlank_isSuffix true earlier).trans h
    have hpieces : ∀ piece ∈ (dropBlank true earlier).reverse, '/' ∉ piece := by
      intro piece hpiece
      refine not_mem_of_mem_splitOn (s := body) (List.mem_reverse.mp (hsuffix.subset ?_))
      exact List.mem_reverse.mp hpiece
    rw [List.splitOn_intercalate '/' hpieces (by simpa using hnil), List.reverse_reverse,
      dropBlank_dropBlank]

theorem parent?_slash (rest : List Char) :
    parent? ('/' :: rest) =
      match dropBlank true (rest.splitOn '/').reverse with
      | [] => none
      | _ :: earlier => some ('/' :: ['/'].intercalate (dropBlank true earlier).reverse) := rfl

theorem tidy_of_parent? {path rest : List Char} (h : parent? path = some ('/' :: rest)) :
    Tidy rest := by
  obtain ⟨⟨more, rfl⟩, -⟩ := parent?_eq_some h
  rw [List.cons_append, parent?_slash] at h
  split at h
  case h_1 => simp at h
  case h_2 piece earlier hlist =>
    obtain rfl : ['/'].intercalate (dropBlank true earlier).reverse = rest := by simpa using h
    exact tidy_intercalate_dropBlank (suffix_of_dropBlank hlist)

theorem dropBlank_name {name : List Char} (earlier : List (List Char)) (hne : name ≠ [])
    (hdot : name ≠ ['.']) : dropBlank true (name :: earlier) = name :: earlier := by
  rw [dropBlank, if_neg (by simp [hne, hdot])]

theorem parent?_join {path dir name : List Char} (h : parent? path = some dir)
    (habsolute : isAbsolute dir = true) (hslash : '/' ∉ name) (hne : name ≠ [])
    (hdot : name ≠ ['.']) : parent? (join dir name) = some dir := by
  obtain ⟨rest, rfl⟩ := List.head?_eq_some_iff.mp (isAbsolute_iff.mp habsolute)
  have hname : isAbsolute name = false := isAbsolute_of_no_slash hslash
  rcases (parent?_eq_some h).2 with hroot | hlast
  · obtain rfl : rest = [] := by simpa using hroot
    have hjoin : join ['/'] name = '/' :: name := join_eq_append hname
    rw [hjoin, parent?_slash, List.splitOn_eq_singleton hslash, List.reverse_singleton,
      dropBlank_name [] hne hdot]
    rfl
  · have hjoin : join ('/' :: rest) name = '/' :: (rest ++ '/' :: name) := by
      rw [join_eq_append hname, withSlash_eq_append (List.cons_ne_nil _ _) hlast]
      simp
    have hlist : ((rest ++ '/' :: name).splitOn '/').reverse =
        name :: (rest.splitOn '/').reverse := by
      simp [List.splitOn_append_cons_self, List.splitOn_eq_singleton hslash]
    have htidy : dropBlank true (rest.splitOn '/').reverse = (rest.splitOn '/').reverse := by
      rcases tidy_of_parent? h with rfl | htidy
      · simp at hlast
      · exact htidy
    rw [hjoin, parent?_slash, hlist, dropBlank_name _ hne hdot]
    simp only [htidy, List.reverse_reverse, List.intercalate_splitOn]

end JinieServer.Path
