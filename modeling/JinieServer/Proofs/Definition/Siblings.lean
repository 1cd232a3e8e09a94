import JinieServer.Proofs.Definition.Target

/-!
# Lookups from the files beside a document

The URI of a file beside a document names a path in the folder of the document, in the same text.
So a lookup that is started in a definition file goes through the folders that a lookup from the
document goes through, and finds the same there.
-/

namespace JinieServer.Definition

open JinieServer.Text JinieServer.FileUri

theorem verdict_of_same_folder {uri other : Url} {dir : List Char} (files : FileSystem)
    (settings : Settings) (text : List Char) (position : Position)
    (h : folder? uri.chars = some dir) (h' : folder? other.chars = some dir) :
    verdict files settings other text position = verdict files settings uri text position := by
  unfold verdict
  rw [h, h']

theorem rooted_join {dir name : List Char} (habsolute : Path.isAbsolute dir = true)
    (hslash : '/' ∉ name)
    (hdrive : ∀ letter rest, letter.isAlpha = true →
      Path.join dir name ≠ '/' :: letter :: ':' :: rest) :
    Rooted (Path.join dir name) := by
  obtain ⟨kept, rfl⟩ := List.head?_eq_some_iff.mp (Path.isAbsolute_iff.mp habsolute)
  have hstarts : '/' :: kept <+: Path.join ('/' :: kept) name :=
    Path.isPrefix_join (Path.isAbsolute_of_no_slash hslash)
  obtain ⟨more, hjoin⟩ := hstarts
  refine ⟨kept ++ more, hjoin.symm, ?_⟩
  rintro ⟨letter, rest, heq, hletter⟩
  refine hdrive letter rest hletter ?_
  rw [← hjoin, List.cons_append, heq]

/-- The URI of a name in the folder of a document has that folder, in the same text, unless the
path of the name is taken for a drive. Lookups from the two go the same way. -/
theorem sibling_has_folder_of_document (uri dir name : List Char)
    (hdir : folder? uri = some dir) (habsolute : dir.head? = some '/') (hne : name ≠ [])
    (hslash : '/' ∉ name) (hdot : name ≠ ".".toList)
    (hdrive : ∀ letter rest, letter.isAlpha = true →
      Path.join dir name ≠ '/' :: letter :: ':' :: rest) :
    folder? (ofPath (Path.join dir name)) = some dir ∧
      ∀ document sibling : Url, document.chars = uri →
        sibling.chars = ofPath (Path.join dir name) →
        ∀ files settings text position,
          verdict files settings sibling text position =
            verdict files settings document text position := by
  have hstart := Path.isAbsolute_iff.mpr habsolute
  have hrooted := rooted_join hstart hslash hdrive
  have hsame := folder?_ofPath_join hdir hstart hslash hne hdot hrooted
  refine ⟨hsame, ?_⟩
  rintro document sibling rfl hsibling files settings text position
  rw [← hsibling] at hsame
  exact verdict_of_same_folder files settings text position hdir hsame

/-- The document `file:///a//b%20%23//m.jinie`, with slashes that its folder keeps and loses. -/
def slashedDocument : Url where
  scheme := "file".toList
  authority := some {}
  path := .segments ["a".toList, [], "b%20%23".toList, [], "m.jinie".toList]
  query := none
  fragment := none

/-- A file beside it, the name of which holds a drive mark, an escape and a backslash. -/
def slashedSibling : Url where
  scheme := "file".toList
  authority := some {}
  path := .segments ["a".toList, [], "b%20%23".toList, "c%3A%252e%5C.DEFINITION".toList]
  query := none
  fragment := none

theorem lookup_from_slashed_sibling :
    folder? slashedDocument.chars = some "/a//b #".toList ∧
    slashedSibling.chars = ofPath (Path.join "/a//b #".toList "c:%2e\\.DEFINITION".toList) ∧
    folder? slashedSibling.chars = some "/a//b #".toList ∧
    verdict (singleFileDisk "/a//b #".toList (utf8 "c:%2e\\.DEFINITION".toList))
        Settings.default slashedSibling "CALL f(".toList ⟨0, 0⟩ =
      .ok (.inFile "f" .siblings ⟨utf8 "/a//b #/c:%2e\\.DEFINITION".toList, ⟨0, 0⟩⟩) := by
  have hdir : folder? slashedDocument.chars = some "/a//b #".toList := by decide +kernel
  have hsibling : slashedSibling.chars =
      ofPath (Path.join "/a//b #".toList "c:%2e\\.DEFINITION".toList) := by decide +kernel
  have hfound : verdict (singleFileDisk "/a//b #".toList (utf8 "c:%2e\\.DEFINITION".toList))
      Settings.default slashedDocument "CALL f(".toList ⟨0, 0⟩ =
      .ok (.inFile "f" .siblings ⟨utf8 "/a//b #/c:%2e\\.DEFINITION".toList, ⟨0, 0⟩⟩) := by
    decide +kernel
  have hdrive : ∀ letter rest, letter.isAlpha = true →
      Path.join "/a//b #".toList "c:%2e\\.DEFINITION".toList ≠ '/' :: letter :: ':' :: rest := by
    intro letter rest _ heq
    have hsecond := congrArg (·[2]?) heq
    simp [Path.join, Path.joinWith, Path.withSlash] at hsecond
  obtain ⟨hfolder, hlookup⟩ := sibling_has_folder_of_document _ _ "c:%2e\\.DEFINITION".toList hdir
    (by decide) (by decide) (by decide) (by decide) hdrive
  rw [← hsibling] at hfolder
  exact ⟨hdir, hsibling, hfolder, (hlookup _ _ rfl hsibling _ _ _ _).trans hfound⟩

end JinieServer.Definition
