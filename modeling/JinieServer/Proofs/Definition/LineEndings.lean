import JinieServer.Proofs.Definition.Enumeration

/-!
# Lookups do not depend on how lines end

A line may end in a feed alone, or in a return and a feed. The lines of a text are the same either
way, and all that is ever read of a text is told by its lines. So a disk and a document with
the other line ends give the same answers.
-/

namespace JinieServer.Text

/-- No feed of the text has a return before it. -/
def BareFeeds (text : List Char) : Prop := ¬ ['\r', '\n'] <:+: text

instance (text : List Char) : Decidable (BareFeeds text) :=
  inferInstanceAs (Decidable (¬ ['\r', '\n'] <:+: text))

/-- The text with a return before every feed. -/
def withReturns (text : List Char) : List Char :=
  text.flatMap fun c => if c = '\n' then ['\r', '\n'] else [c]

/-! ## The lines stay the same -/

theorem withReturns_eq_self {piece : List Char} (h : '\n' ∉ piece) : withReturns piece = piece := by
  induction piece with
  | nil => rfl
  | cons c piece ih =>
    rw [List.mem_cons, not_or] at h
    have hrest : withReturns (c :: piece) = c :: withReturns piece := by
      simp [withReturns, Ne.symm h.1]
    rw [hrest, ih h.2]

theorem withReturns_feed {piece : List Char} (rest : List Char) (h : '\n' ∉ piece) :
    withReturns (piece ++ '\n' :: rest) = (piece ++ ['\r']) ++ '\n' :: withReturns rest := by
  have happend : withReturns (piece ++ '\n' :: rest) =
      withReturns piece ++ '\r' :: '\n' :: withReturns rest := by simp [withReturns]
  rw [happend, withReturns_eq_self h]
  simp

theorem closeLine_of_bareFeeds {piece rest : List Char} (h : BareFeeds (piece ++ '\n' :: rest)) :
    closeLine piece.reverse = piece := by
  rcases piece_eq_closeLine piece with hsame | hreturn
  · exact hsame.symm
  · refine absurd ⟨closeLine piece.reverse, rest, ?_⟩ h
    conv_rhs => rw [hreturn]
    simp

theorem lines_withReturns {text : List Char} (h : BareFeeds text) :
    lines (withReturns text) = lines text := by
  induction text using lines_induction with
  | nil => rfl
  | last piece hp hne => rw [withReturns_eq_self hp]
  | feed piece rest hp ih =>
    have hp' : '\n' ∉ piece ++ ['\r'] := by simp [hp]
    have hrest : BareFeeds rest := fun hin =>
      h (hin.trans (List.IsSuffix.isInfix ⟨piece ++ ['\n'], by simp⟩))
    rw [withReturns_feed rest hp, lines_feed _ hp', lines_feed rest hp, ih hrest,
      closeLine_of_bareFeeds h]
    simp [closeLine]

end JinieServer.Text

namespace JinieServer.Source

open JinieServer.Text

/-! ## The lines tell all -/

variable {text other : List Char}

theorem symbols_congr (h : lines text = lines other) : symbols text = symbols other := by
  rw [symbols, symbols, h]

theorem callAt?_congr (h : lines text = lines other) (position : Position) :
    callAt? text position = callAt? other position := by
  rw [callAt?, callAt?, h]

theorem declarationLine?_congr (h : lines text = lines other) (name : List Char) :
    declarationLine? text name = declarationLine? other name := by
  rw [declarationLine?, declarationLine?, h]

theorem declarationPosition?_congr {name : List Char} (h : lines text = lines other)
    (hname : '\n' ∉ name) : declarationPosition? text name = declarationPosition? other name := by
  have hsame := declarationLine?_congr h name
  cases hline : declarationLine? text name with
  | none =>
    rw [(declarationPosition?_eq_none_iff hname).mpr hline,
      (declarationPosition?_eq_none_iff hname).mpr (hsame.symm.trans hline)]
  | some found =>
    obtain ⟨before, hfirst, hposition⟩ := declarationPosition?_of_line hname hline
    obtain ⟨before', hfirst', hposition'⟩ :=
      declarationPosition?_of_line hname (hsame.symm.trans hline)
    rw [hposition, hposition', hfirst.unique hfirst']

end JinieServer.Source

namespace JinieServer.Definition

open JinieServer.Text JinieServer.Source

/-! ## Disks with the other line ends -/

/-- Both disks show the folder alike, but the second has a return before every feed of the
definition files. The first has bare feeds in them. -/
structure Converted (first second : FileSystem) (folder : List Char) (extension : String) :
    Prop where
  list : second.list (utf8 folder) = first.list (utf8 folder)
  isFile : ∀ path, second.isFile path = first.isFile path
  bare : ∀ path text, DefinitionFile first folder extension path → first.read path = .ok text →
    BareFeeds text
  texts : ∀ path, DefinitionFile first folder extension path →
    second.read path = (first.read path).map withReturns

/-- The disk with a return before every feed of its texts. -/
def convertedDisk (files : FileSystem) : FileSystem :=
  { files with read := fun path => (files.read path).map withReturns }

theorem converted_convertedDisk {files : FileSystem} {folder : List Char} {extension : String}
    (h : ∀ path text, DefinitionFile files folder extension path → files.read path = .ok text →
      BareFeeds text) : Converted files (convertedDisk files) folder extension where
  list := rfl
  isFile _ := rfl
  bare := h
  texts _ _ := rfl

theorem definitionFiles_eq_of_converted {first second : FileSystem} {folder : List Char}
    {extension : String} (h : Converted first second folder extension) :
    definitionFiles second folder extension = definitionFiles first folder extension := by
  have hfilter : isDefinitionFile second folder extension =
      isDefinitionFile first folder extension := by
    funext name
    rw [isDefinitionFile, isDefinitionFile, h.isFile]
  rw [definitionFiles, definitionFiles, h.list, hfilter]

theorem firstHit_congr {first second : FileSystem} {name : List Char} {paths : List (List UInt8)}
    (h : ∀ path ∈ paths, (second.read path).map (declarationPosition? · name) =
      (first.read path).map (declarationPosition? · name)) :
    firstHit second name paths = firstHit first name paths := by
  induction paths with
  | nil => rfl
  | cons path paths ih =>
    have hrest := ih fun other hother => h other (List.mem_cons_of_mem _ hother)
    have hpath := h path List.mem_cons_self
    rw [firstHit, firstHit, hrest]
    cases hread : first.read path with
    | error cause =>
      cases hread' : second.read path with
      | error cause' => simpa [hread, hread', Except.map] using hpath
      | ok text' => simp [hread, hread', Except.map] at hpath
    | ok text =>
      cases hread' : second.read path with
      | error cause' => simp [hread, hread', Except.map] at hpath
      | ok text' =>
        have hsame : declarationPosition? text' name = declarationPosition? text name := by
          simpa [hread, hread', Except.map] using hpath
        simp only [hsame]

theorem searchFolder_eq_of_converted {first second : FileSystem} {folder name : List Char}
    {extension : String} (h : Converted first second folder extension) (hname : '\n' ∉ name) :
    searchFolder second folder name extension = searchFolder first folder name extension := by
  rcases lists_or_unlisted first folder extension with ⟨paths, hlists⟩ | ⟨e, hunlisted⟩
  case inr =>
    rw [searchFolder, searchFolder, definitionFiles_eq_of_converted h,
      definitionFiles_of_unlisted hunlisted]
    rfl
  case inl =>
    have hpaths := definitionFiles_of_lists hlists
    rw [searchFolder, searchFolder, definitionFiles_eq_of_converted h, hpaths]
    refine firstHit_congr fun path hpath => ?_
    have hfile := (mem_of_lists hlists path).mp hpath
    rw [h.texts path hfile]
    cases hread : first.read path with
    | error cause => rfl
    | ok text =>
      have hlines := lines_withReturns (h.bare path text hfile hread)
      simp only [Except.map, declarationPosition?_congr hlines hname]

/-! ## The lookup -/

theorem findDefinition_congr_lines {text other : List Char} (files : FileSystem)
    (settings : Settings) (uri : Url) (position : Position) (h : lines text = lines other) :
    findDefinition files settings uri text position =
      findDefinition files settings uri other position := by
  simp only [findDefinition, verdict, callAt?_congr h, declarationLine?_congr h]

/-- A text with a return before every feed has the same symbols, calls and declarations as the
text with bare feeds, and lookups on disks that differ in the same way end alike. -/
theorem lookup_independent_of_line_ends (text : List Char) (hbare : BareFeeds text) :
    symbols (withReturns text) = symbols text ∧
    (∀ position, callAt? (withReturns text) position = callAt? text position) ∧
    (∀ name, declarationLine? (withReturns text) name = declarationLine? text name) ∧
    (∀ name, '\n' ∉ name →
      declarationPosition? (withReturns text) name = declarationPosition? text name) ∧
    (∀ first second settings uri position,
      (∀ dir, FileUri.folder? uri.chars = some dir → ∀ folder ∈ folders settings dir,
        Converted first second folder settings.extension) →
      findDefinition second settings uri (withReturns text) position =
        findDefinition first settings uri text position) := by
  have hlines := lines_withReturns hbare
  refine ⟨symbols_congr hlines, callAt?_congr hlines, declarationLine?_congr hlines, ?_, ?_⟩
  · intro name hname
    exact declarationPosition?_congr hlines hname
  · intro first second settings uri position hconverted
    rw [findDefinition_congr_lines second settings uri position hlines]
    refine findDefinition_congr fun name dir hcall hdir folder hfolder => ?_
    exact searchFolder_eq_of_converted (hconverted dir hdir folder hfolder)
      (feed_not_mem_name (isName_of_callAt hcall))

/-- A disk on which every file declares `f` on its third line, behind two lone returns. -/
def feedDisk : FileSystem where
  list _ := .ok [.ok (utf8 "a.DEFINITION".toList)]
  isFile _ := true
  read _ := .ok "\rx\n\n\rJINIE f(\n".toList

theorem lookup_on_converted_disk :
    BareFeeds "g\rCALL f(\n\r".toList ∧ BareFeeds "g\rJINIE \r(\n\r".toList ∧
    withReturns "g\rCALL f(\n\r".toList = "g\rCALL f(\r\n\r".toList ∧
    declarationPosition? (withReturns "g\rJINIE \r(\n\r".toList) "\r".toList = some ⟨0, 2⟩ ∧
    findDefinition (convertedDisk feedDisk) Settings.default sharedDocument
        (withReturns "g\rCALL f(\n\r".toList) ⟨0, 99⟩ =
      .ok (some (.elsewhere ⟨sharedDocument, Range.at ⟨2, 1⟩⟩
        ⟨"file:///w/a.DEFINITION", ⟨2, 1⟩⟩)) := by
  have hfound : findDefinition feedDisk Settings.default sharedDocument
      "g\rCALL f(\n\r".toList ⟨0, 99⟩ =
      .ok (some (.elsewhere ⟨sharedDocument, Range.at ⟨2, 1⟩⟩
        ⟨"file:///w/a.DEFINITION", ⟨2, 1⟩⟩)) := by decide +kernel
  have hposition : declarationPosition? "g\rJINIE \r(\n\r".toList "\r".toList = some ⟨0, 2⟩ := by
    decide
  obtain ⟨-, -, -, hraw, -⟩ :=
    lookup_independent_of_line_ends "g\rJINIE \r(\n\r".toList (by decide)
  obtain ⟨-, -, -, -, hlookup⟩ :=
    lookup_independent_of_line_ends "g\rCALL f(\n\r".toList (by decide)
  refine ⟨by decide, by decide, by decide, (hraw _ (by decide)).trans hposition, ?_⟩
  refine (hlookup feedDisk _ _ _ _ fun dir _ folder _ => converted_convertedDisk ?_).trans hfound
  intro path text _ hread
  obtain rfl := Except.ok.inj hread
  decide

end JinieServer.Definition
