import JinieServer.Definition.Folder
import JinieServer.Proofs.Text.Search
import Mathlib.Data.List.Infix

/-!
# What a folder says about a name

A folder that cannot be listed says so before any of its files is read. Otherwise its definition
files are asked in the order of the listing, and the first one that is decisive speaks for all.
-/

namespace JinieServer.Definition

open JinieServer.Text JinieServer.Source

/-! ## The rules -/

/-- The definition files of a folder: the files whose names, as they are shown, end in the
extension, in the order of a listing in which every entry could be read. -/
def Lists (files : FileSystem) (folder : List Char) (extension : String)
    (paths : List (List UInt8)) : Prop :=
  ∃ names : List (List UInt8), files.list (utf8 folder) = .ok (names.map .ok) ∧
    paths = (names.filter fun name => files.isFile (entryPath folder name) ∧
      '.' :: extension.toList <:+ lossy name).map (entryPath folder)

/-- Why a folder has no listing: it cannot be opened, or one of its entries cannot be read. -/
inductive Unlisted (files : FileSystem) (folder : List Char) : LookupError → Prop where
  | folder {cause : FileError} (h : files.list (utf8 folder) = .error cause) :
    Unlisted files folder (.unreadableFolder folder cause)
  | entry {earlier : List (List UInt8)} {cause : FileError}
    {later : List (Except FileError (List UInt8))}
    (h : files.list (utf8 folder) = .ok (earlier.map .ok ++ .error cause :: later)) :
    Unlisted files folder (.unreadableEntry folder cause)

/-- The file can be read and does not hold the declaration text. -/
def Silent (files : FileSystem) (name : List Char) (path : List UInt8) : Prop :=
  ∃ text, files.read path = .ok text ∧ ¬ declarationText name <:+: text

/-- What a file says that ends the search: that it cannot be read, or where the declaration text
first stands in it. -/
inductive Decisive (files : FileSystem) (name : List Char) (path : List UInt8) :
    Except LookupError (Option Hit) → Prop where
  | unreadable {cause : FileError} (h : files.read path = .error cause) :
    Decisive files name path (.error (.unreadableFile path cause))
  | declares {text before : List Char} (h : files.read path = .ok text)
    (hfirst : FirstAt (declarationText name) text before) :
    Decisive files name path
      (.ok (some ⟨path, ⟨UInt32.ofNat (before.count '\n'), column (lastLine before)⟩⟩))

inductive FolderSays (files : FileSystem) (folder : List Char) (extension : String)
    (name : List Char) : Except LookupError (Option Hit) → Prop where
  | unlisted {e : LookupError} (h : Unlisted files folder e) :
    FolderSays files folder extension name (.error e)
  | decisive {earlier later : List (List UInt8)} {path : List UInt8}
    {answer : Except LookupError (Option Hit)}
    (hlists : Lists files folder extension (earlier ++ path :: later))
    (hsilent : ∀ other ∈ earlier, Silent files name other) (h : Decisive files name path answer) :
    FolderSays files folder extension name answer
  | silent {paths : List (List UInt8)} (hlists : Lists files folder extension paths)
    (h : ∀ path ∈ paths, Silent files name path) :
    FolderSays files folder extension name (.ok none)

/-! ## Listing -/

theorem entries_cases (entries : List (Except FileError (List UInt8))) :
    (∃ names : List (List UInt8), entries = names.map .ok) ∨
      ∃ (earlier : List (List UInt8)) (cause : FileError)
        (later : List (Except FileError (List UInt8))),
        entries = earlier.map .ok ++ .error cause :: later := by
  induction entries with
  | nil => exact Or.inl ⟨[], rfl⟩
  | cons entry entries ih =>
    cases entry with
    | error cause => exact Or.inr ⟨[], cause, entries, rfl⟩
    | ok name =>
      rcases ih with ⟨names, rfl⟩ | ⟨earlier, cause, later, rfl⟩
      · exact Or.inl ⟨name :: names, rfl⟩
      · exact Or.inr ⟨name :: earlier, cause, later, rfl⟩

theorem entryNames_names (folder : List Char) (names : List (List UInt8)) :
    entryNames folder (names.map .ok) = .ok names := by
  induction names with
  | nil => rfl
  | cons name names ih => simp [entryNames, ih, Except.map]

theorem entryNames_error (folder : List Char) (earlier : List (List UInt8)) (cause : FileError)
    (later : List (Except FileError (List UInt8))) :
    entryNames folder (earlier.map .ok ++ .error cause :: later) =
      .error (.unreadableEntry folder cause) := by
  induction earlier with
  | nil => rfl
  | cons name earlier ih => simp [entryNames, ih, Except.map]

theorem isDefinitionFile_eq (files : FileSystem) (folder : List Char) (extension : String) :
    isDefinitionFile files folder extension = fun name =>
      decide (files.isFile (entryPath folder name) ∧
        '.' :: extension.toList <:+ lossy name) := by
  funext name
  rw [Bool.eq_iff_iff, isDefinitionFile, Bool.and_eq_true, List.isSuffixOf_iff_suffix,
    decide_eq_true_eq]

theorem definitionFiles_of_lists {files : FileSystem} {folder : List Char} {extension : String}
    {paths : List (List UInt8)} (h : Lists files folder extension paths) :
    definitionFiles files folder extension = .ok paths := by
  obtain ⟨names, hlist, rfl⟩ := h
  rw [definitionFiles, hlist, isDefinitionFile_eq]
  simp only [Except.mapError, bind, Except.bind, entryNames_names]
  rfl

theorem definitionFiles_of_unlisted {files : FileSystem} {folder : List Char} {extension : String}
    {e : LookupError} (h : Unlisted files folder e) :
    definitionFiles files folder extension = .error e := by
  cases h with
  | folder h =>
    rw [definitionFiles, h]
    rfl
  | entry h =>
    rw [definitionFiles, h]
    simp only [Except.mapError, bind, Except.bind, entryNames_error]

theorem lists_or_unlisted (files : FileSystem) (folder : List Char) (extension : String) :
    (∃ paths, Lists files folder extension paths) ∨ ∃ e, Unlisted files folder e := by
  cases hlist : files.list (utf8 folder) with
  | error cause => exact Or.inr ⟨_, .folder hlist⟩
  | ok entries =>
    rcases entries_cases entries with ⟨names, rfl⟩ | ⟨earlier, cause, later, rfl⟩
    · exact Or.inl ⟨_, names, hlist, rfl⟩
    · exact Or.inr ⟨_, .entry hlist⟩

/-! ## Asking the files -/

theorem forall_or_first {α : Type} (p : α → Prop) (list : List α) :
    (∀ x ∈ list, p x) ∨
      ∃ earlier x later, list = earlier ++ x :: later ∧ (∀ y ∈ earlier, p y) ∧ ¬ p x := by
  induction list with
  | nil => left; simp
  | cons y list ih =>
    by_cases hy : p y
    · rcases ih with hall | ⟨earlier, x, later, rfl, hearlier, hx⟩
      · left
        simpa [hy] using hall
      · right
        exact ⟨y :: earlier, x, later, rfl, by simpa [hy] using hearlier, hx⟩
    · right
      exact ⟨[], y, list, rfl, by simp, hy⟩

theorem silent_or_decisive (files : FileSystem) (name : List Char) (path : List UInt8) :
    Silent files name path ∨ ∃ answer, Decisive files name path answer := by
  cases hread : files.read path with
  | error cause => exact Or.inr ⟨_, .unreadable hread⟩
  | ok text =>
    cases hb : before? (declarationText name) text with
    | none => exact Or.inl ⟨text, hread, before?_eq_none_iff.mp hb⟩
    | some before => exact Or.inr ⟨_, .declares hread (firstAt_of_before? hb)⟩

theorem firstHit_cons_of_silent {files : FileSystem} {name : List Char} {path : List UInt8}
    (rest : List (List UInt8)) (h : Silent files name path) :
    firstHit files name (path :: rest) = firstHit files name rest := by
  obtain ⟨text, hread, hno⟩ := h
  simp [firstHit, hread, declarationPosition?, before?_eq_none_iff.mpr hno]

theorem firstHit_append_of_silent {files : FileSystem} {name : List Char}
    {earlier : List (List UInt8)} (rest : List (List UInt8))
    (h : ∀ path ∈ earlier, Silent files name path) :
    firstHit files name (earlier ++ rest) = firstHit files name rest := by
  induction earlier with
  | nil => rfl
  | cons path earlier ih =>
    rw [List.cons_append, firstHit_cons_of_silent _ (h path List.mem_cons_self)]
    exact ih (fun other hother => h other (List.mem_cons_of_mem _ hother))

theorem firstHit_cons_of_decisive {files : FileSystem} {name : List Char} {path : List UInt8}
    {answer : Except LookupError (Option Hit)} (rest : List (List UInt8))
    (h : Decisive files name path answer) : firstHit files name (path :: rest) = answer := by
  cases h with
  | unreadable h => simp [firstHit, h]
  | declares h hfirst => simp [firstHit, h, declarationPosition?, before?_eq_some_iff.mpr hfirst]

/-! ## The search of a folder -/

theorem searchFolder_of_lists {files : FileSystem} {folder name : List Char} {extension : String}
    {paths : List (List UInt8)} (h : Lists files folder extension paths) :
    searchFolder files folder name extension = firstHit files name paths := by
  rw [searchFolder, definitionFiles_of_lists h]
  rfl

theorem searchFolder_of_folderSays {files : FileSystem} {folder name : List Char}
    {extension : String} {answer : Except LookupError (Option Hit)}
    (h : FolderSays files folder extension name answer) :
    searchFolder files folder name extension = answer := by
  cases h with
  | unlisted h =>
    rw [searchFolder, definitionFiles_of_unlisted h]
    rfl
  | decisive hlists hsilent h =>
    rw [searchFolder_of_lists hlists, firstHit_append_of_silent _ hsilent,
      firstHit_cons_of_decisive _ h]
  | silent hlists h =>
    have hall := firstHit_append_of_silent [] h
    rw [List.append_nil] at hall
    rw [searchFolder_of_lists hlists, hall]
    rfl

theorem exists_folderSays (files : FileSystem) (folder : List Char) (extension : String)
    (name : List Char) : ∃ answer, FolderSays files folder extension name answer := by
  rcases lists_or_unlisted files folder extension with ⟨paths, hlists⟩ | ⟨e, h⟩
  · rcases forall_or_first (Silent files name) paths with
      hsilent | ⟨earlier, path, later, rfl, hsilent, hnot⟩
    · exact ⟨_, .silent hlists hsilent⟩
    · obtain ⟨answer, h⟩ := (silent_or_decisive files name path).resolve_left hnot
      exact ⟨answer, .decisive hlists hsilent h⟩
  · exact ⟨_, .unlisted h⟩

theorem searchFolder_eq_iff {files : FileSystem} {folder name : List Char} {extension : String}
    {answer : Except LookupError (Option Hit)} :
    searchFolder files folder name extension = answer ↔
      FolderSays files folder extension name answer := by
  constructor
  · rintro rfl
    obtain ⟨answer, h⟩ := exists_folderSays files folder extension name
    rwa [searchFolder_of_folderSays h]
  · exact searchFolder_of_folderSays

end JinieServer.Definition
