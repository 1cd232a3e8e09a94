import JinieServer.Proofs.FileUri.RoundTrip

/-!
# The folder of a document

A path that a URI names never starts with a slash and a drive, and neither does its folder. What
lies below such a folder is rooted again, unless the folder is the root itself. The URI of a name in
a folder has the same folder.
-/

namespace JinieServer.FileUri

open JinieServer.Text

/-! ## Starts of paths -/

theorem onDrive_of_isPrefix {front path : List Char} (h : OnDrive front) (hpre : front <+: path) :
    OnDrive path := by
  obtain ⟨letter, rest, rfl, hletter⟩ := h
  obtain ⟨more, rfl⟩ := hpre
  exact ⟨letter, rest ++ more, rfl, hletter⟩

theorem Rooted.of_isPrefix {front path : List Char} (h : Rooted path) (hpre : front <+: path)
    (hne : front ≠ []) : Rooted front := by
  obtain ⟨rest, rfl, hrest⟩ := h
  cases front with
  | nil => exact absurd rfl hne
  | cons c kept =>
    obtain ⟨rfl, hkept⟩ := List.cons_prefix_cons.mp hpre
    exact ⟨kept, rfl, fun hdrive => hrest (onDrive_of_isPrefix hdrive hkept)⟩

theorem Rooted.extend {front path : List Char} (h : Rooted front) (hpre : front <+: path)
    (hlen : 3 ≤ front.length) : Rooted path := by
  obtain ⟨kept, rfl, hkept⟩ := h
  obtain ⟨more, rfl⟩ := hpre
  refine ⟨kept ++ more, rfl, ?_⟩
  rintro ⟨letter, rest, heq, hletter⟩
  match kept, hlen with
  | c :: d :: kept, _ =>
    obtain ⟨rfl, rfl, -⟩ : c = letter ∧ d = ':' ∧ kept ++ more = rest := by simpa using heq
    exact hkept ⟨c, kept, rfl, hletter⟩

theorem Rooted.append_slash {dir : List Char} (h : Rooted dir) (hne : dir ≠ ['/']) :
    Rooted (dir ++ ['/']) := by
  obtain ⟨kept, rfl, hkept⟩ := h
  refine ⟨kept ++ ['/'], rfl, ?_⟩
  rintro ⟨letter, rest, heq, hletter⟩
  match kept with
  | [] => exact hne rfl
  | [c] => simp at heq
  | c :: d :: kept =>
    obtain ⟨rfl, rfl, -⟩ : c = letter ∧ d = ':' ∧ kept ++ ['/'] = rest := by simpa using heq
    exact hkept ⟨c, kept, rfl, hletter⟩

/-! ## What a URI names -/

theorem exists_bodyPath? {uri path : List Char} (h : path? uri = some path) :
    ∃ body, bodyPath? body = some path := by
  simp only [path?, Option.bind_eq_bind, Option.bind_eq_some_iff] at h
  obtain ⟨-, -, body, -, hbody⟩ := h
  exact ⟨body, hbody⟩

theorem rooted_of_path? {uri path : List Char} (h : path? uri = some path)
    (habsolute : Path.isAbsolute path = true) : Rooted path := by
  obtain ⟨body, hbody⟩ := exists_bodyPath? h
  obtain ⟨rest, rfl⟩ := List.head?_eq_some_iff.mp (Path.isAbsolute_iff.mp habsolute)
  unfold bodyPath? at hbody
  split at hbody
  case h_1 => simp at hbody
  case h_2 more =>
    split at hbody
    case isTrue hdrive =>
      -- The slash is dropped only before a drive, and no drive starts with a slash.
      obtain rfl := Option.some.inj hbody
      simp [drive?_eq_none_iff.mpr (not_onDrive_slash rest)] at hdrive
    case isFalse hdrive =>
      obtain rfl : more = rest := by simpa using hbody
      exact ⟨more, rfl, drive?_eq_none_iff.mp (by simpa using hdrive)⟩
  case h_3 hno =>
    obtain rfl := Option.some.inj hbody
    exact absurd rfl (hno rest)

/-! ## The folder and what lies below it -/

theorem rooted_folder? {uri dir : List Char} (h : folder? uri = some dir)
    (habsolute : Path.isAbsolute dir = true) : Rooted dir := by
  obtain ⟨path, hpath, hparent⟩ := Option.bind_eq_some_iff.mp h
  obtain ⟨hpre, -⟩ := Path.parent?_eq_some hparent
  obtain ⟨kept, rfl⟩ := List.head?_eq_some_iff.mp (Path.isAbsolute_iff.mp habsolute)
  have hhead : Path.isAbsolute path = true := by
    obtain ⟨more, rfl⟩ := hpre
    rfl
  exact (rooted_of_path? hpath hhead).of_isPrefix hpre (List.cons_ne_nil _ _)

theorem rooted_of_below {uri dir path : List Char} (h : folder? uri = some dir)
    (habsolute : Path.isAbsolute dir = true) (hne : dir ≠ ['/']) (hbelow : dir ++ ['/'] <+: path) :
    Rooted path := by
  have hdir := rooted_folder? h habsolute
  refine (hdir.append_slash hne).extend hbelow ?_
  obtain ⟨kept, rfl, -⟩ := hdir
  cases kept with
  | nil => exact absurd rfl hne
  | cons c kept => simp

theorem folder?_ofPath_join {uri dir name : List Char} (hdir : folder? uri = some dir)
    (habsolute : Path.isAbsolute dir = true) (hslash : '/' ∉ name) (hne : name ≠ [])
    (hdot : name ≠ ['.']) (hrooted : Rooted (Path.join dir name)) :
    folder? (ofPath (Path.join dir name)) = some dir := by
  obtain ⟨path, -, hparent⟩ := Option.bind_eq_some_iff.mp hdir
  rw [folder?, path?_ofPath_of_readBack (.rooted hrooted), Option.bind_some]
  exact Path.parent?_join hparent habsolute hslash hne hdot

end JinieServer.FileUri
