import JinieServer.Proofs.Definition.Lookup

/-!
# Lookups and outlines

A call leads to a file exactly as the outlines of the document and of the definition files say.
-/

namespace JinieServer.Definition

open JinieServer.Text JinieServer.Source

/-- The outline of the text has a symbol of this name. -/
def HasSymbol (text : List Char) (name : String) : Prop := ∃ s ∈ symbols text, s.name = name

/-- The outline of the text has a symbol of this name on the line, and none above it. -/
def FirstSymbolOn (text : List Char) (name : String) (line : UInt32) : Prop :=
  (∃ s ∈ symbols text, s.name = name ∧ s.range.start.line = line) ∧
    ∀ s ∈ symbols text, s.name = name → line ≤ s.range.start.line

/-- A regular file directly in the folder, with a name that is shown with the extension at its
end. -/
def DefinitionFile (files : FileSystem) (folder : List Char) (extension : String)
    (path : List UInt8) : Prop :=
  ∃ entries entry, files.list (utf8 folder) = .ok entries ∧ .ok entry ∈ entries ∧
    path = entryPath folder entry ∧ files.isFile path = true ∧
    '.' :: extension.toList <:+ lossy entry

/-- The folder can be listed, and each of its definition files can be read and has no symbol of
this name. -/
def Exhausted (files : FileSystem) (folder : List Char) (extension name : String) : Prop :=
  (∃ names : List (List UInt8), files.list (utf8 folder) = .ok (names.map .ok)) ∧
    ∀ path, DefinitionFile files folder extension path →
      ∃ text, files.read path = .ok text ∧ ¬ HasSymbol text name

/-! ## Symbols and declaration texts -/

theorem feed_not_mem_name {name : List Char} (h : IsName name) : '\n' ∉ name :=
  not_mem_name h (by decide)

theorem isName_of_callAt {text name : List Char} {position : Position}
    (h : CallAt text position name) : IsName name := by
  obtain ⟨line, -, before, ⟨hname, -⟩, -⟩ := h
  exact hname

theorem hasSymbol_iff {text name : List Char} (hname : IsName name) :
    HasSymbol text (String.ofList name) ↔ declarationText name <:+: text := by
  rw [HasSymbol, exists_symbol_iff hname, ← not_iff_not, Option.not_isSome_iff_eq_none,
    declarationLine?_eq_none_iff_text (feed_not_mem_name hname)]

theorem undeclared_iff {text name : List Char} (hname : IsName name) :
    Undeclared text name ↔ ¬ HasSymbol text (String.ofList name) := by
  rw [hasSymbol_iff hname, ← declarationLine?_eq_none_iff_text (feed_not_mem_name hname),
    declarationLine?_eq_none_iff]
  rfl

theorem firstSymbolOn_of_position {text name : List Char} {position : Position}
    (hname : IsName name) (hcount : (lines text).length < UInt32.size)
    (h : declarationPosition? text name = some position) :
    FirstSymbolOn text (String.ofList name) position.line := by
  have hfeed := feed_not_mem_name hname
  cases hline : declarationLine? text name with
  | none => simp [(declarationPosition?_eq_none_iff hfeed).mpr hline] at h
  | some found =>
    obtain ⟨i, line⟩ := found
    obtain ⟨before, -, hposition⟩ := declarationPosition?_of_line hfeed hline
    obtain rfl : position = ⟨i, column before⟩ := by simpa [h] using hposition
    have hfirst := find?_symbols text hname
    rw [hline, Option.map_some] at hfirst
    refine ⟨⟨_, List.mem_of_find?_eq_some hfirst, rfl, rfl⟩, ?_⟩
    intro s hs hs'
    exact declarationLine?_le_symbol hcount hline hs hs'

/-! ## Folders -/

theorem mem_of_lists {files : FileSystem} {folder : List Char} {extension : String}
    {paths : List (List UInt8)} (h : Lists files folder extension paths) (path : List UInt8) :
    path ∈ paths ↔ DefinitionFile files folder extension path := by
  obtain ⟨names, hlist, rfl⟩ := h
  simp only [List.mem_map, List.mem_filter, decide_eq_true_eq]
  constructor
  · rintro ⟨entry, ⟨hmem, hfile, hends⟩, rfl⟩
    exact ⟨_, entry, hlist, List.mem_map_of_mem hmem, rfl, hfile, hends⟩
  · rintro ⟨entries, entry, hlist', hmem, rfl, hfile, hends⟩
    obtain rfl : names.map .ok = entries := by simpa [hlist] using hlist'
    exact ⟨entry, ⟨by simpa using hmem, hfile, hends⟩, rfl⟩

theorem split_folders {settings : Settings} {dir folder : List Char}
    {earlier later : List (List Char)} (h : folders settings dir = earlier ++ folder :: later) :
    folder = dir ∨ folder = Path.join dir settings.sharedFolder.toList ∧ dir ∈ earlier := by
  cases earlier with
  | nil => exact Or.inl (List.cons.inj h).1.symm
  | cons first earlier =>
    obtain ⟨rfl, hrest⟩ := List.cons.inj h
    obtain ⟨-, hfolder, -⟩ : earlier = [] ∧
        folder = Path.join dir settings.sharedFolder.toList ∧ later = [] := by
      simpa [List.singleton_eq_append_iff] using hrest
    exact Or.inr ⟨hfolder, List.mem_cons_self⟩

theorem exhausted_of_folderSays {files : FileSystem} {folder name : List Char} {extension : String}
    (hname : IsName name) (h : FolderSays files folder extension name (.ok none)) :
    Exhausted files folder extension (String.ofList name) := by
  cases h with
  | decisive hlists hsilent h => cases h
  | silent hlists h =>
    refine ⟨hlists.imp fun _ h => h.1, ?_⟩
    intro path hpath
    obtain ⟨text, hread, hno⟩ := h path ((mem_of_lists hlists path).mpr hpath)
    exact ⟨text, hread, by rwa [hasSymbol_iff hname]⟩

theorem file_of_folderSays {files : FileSystem} {folder name : List Char} {extension : String}
    {hit : Hit} (h : FolderSays files folder extension name (.ok (some hit))) :
    DefinitionFile files folder extension hit.path ∧
      ∃ text, files.read hit.path = .ok text ∧
        declarationPosition? text name = some hit.position := by
  cases h with
  | decisive hlists hsilent h =>
    cases h with
    | declares hread hfirst =>
      refine ⟨(mem_of_lists hlists _).mp (by simp), _, hread, ?_⟩
      rw [declarationPosition?, before?_eq_some_iff.mpr hfirst]
      rfl

/-! ## The lookup -/

/-- The target of a lookup is a declaration that an outline shows, with none before it in the
order of the search; a lookup without an answer leaves none. -/
theorem findDefinition_agrees_with_outlines (files : FileSystem) (settings : Settings) (uri : Url)
    (text : List Char) (position : Position) (call : Symbol)
    (hcall : callAt? text position = some call)
    (hcounts : ∀ path content, files.read path = .ok content →
      (lines content).length < UInt32.size) :
    (∀ location target,
      findDefinition files settings uri text position = .ok (some (.elsewhere location target)) →
        location.uri = uri ∧ location.range = Range.at target.position ∧
        ¬ HasSymbol text call.name ∧
        ∃ dir folder path content, FileUri.folder? uri.chars = some dir ∧
          (folder = dir ∨ folder = Path.join dir settings.sharedFolder.toList ∧
            Exhausted files dir settings.extension call.name) ∧
          DefinitionFile files folder settings.extension path ∧
          target.uri = String.ofList (FileUri.ofBytes path) ∧ files.read path = .ok content ∧
          FirstSymbolOn content call.name target.position.line) ∧
    (findDefinition files settings uri text position = .ok none →
      ¬ HasSymbol text call.name ∧
      ∃ dir, FileUri.folder? uri.chars = some dir ∧
        Exhausted files dir settings.extension call.name ∧
        Exhausted files (Path.join dir settings.sharedFolder.toList) settings.extension
          call.name) := by
  have hcallAt := callAt?_eq_some_iff.mp ⟨call, hcall, rfl⟩
  have houtcome := outcome_findDefinition files settings uri text position
  constructor
  · intro location target hfound
    rw [hfound] at houtcome
    cases houtcome with
    | @elsewhere name dir folder earlier later hit hcallAt hno hdir horder hsilent h =>
      have hname := isName_of_callAt hcallAt
      rw [name_of_callAt hcall hcallAt]
      obtain ⟨hfile, content, hread, hposition⟩ := file_of_folderSays h
      have hsymbol := firstSymbolOn_of_position hname (hcounts _ _ hread) hposition
      refine ⟨rfl, rfl, (undeclared_iff hname).mp hno, dir, folder, hit.path, content, hdir, ?_,
        hfile, rfl, hread, hsymbol⟩
      exact (split_folders horder).imp_right
        (And.imp_right fun hdir => exhausted_of_folderSays hname (hsilent _ hdir))
  · intro hnone
    rw [hnone] at houtcome
    cases houtcome with
    | noCall h => exact absurd hcallAt (h _)
    | @nowhere name dir hcallAt hno hdir h =>
      have hname := isName_of_callAt hcallAt
      rw [name_of_callAt hcall hcallAt]
      exact ⟨(undeclared_iff hname).mp hno, dir, hdir,
        exhausted_of_folderSays hname (h _ (by simp [folders])),
        exhausted_of_folderSays hname (h _ (by simp [folders]))⟩

/-- A disk on which only a file of the shared folder declares `f`. -/
def sharedDisk : FileSystem where
  list folder := .ok [.ok (utf8 "notes".toList),
    .ok (utf8 (if folder = utf8 "/w".toList then "a.DEFINITION" else "b.DEFINITION").toList)]
  isFile _ := true
  read path := .ok (if path = utf8 "/w/CONFIG/b.DEFINITION".toList then "\r\nJINIE f(".toList
    else "JINIE g(".toList)

/-- The document `file:///w/m.jinie`. -/
def sharedDocument : Url :=
  ⟨"file".toList, some {}, .segments ["w".toList, "m.jinie".toList], none, none⟩

theorem findDefinition_in_shared_folder :
    findDefinition sharedDisk Settings.default sharedDocument "CALL f(".toList ⟨0, 0⟩ =
      .ok (some (.elsewhere ⟨sharedDocument, Range.at ⟨1, 0⟩⟩
        ⟨"file:///w/CONFIG/b.DEFINITION", ⟨1, 0⟩⟩)) ∧
    ¬ HasSymbol "CALL f(".toList "f" ∧
    ∃ folder path content, DefinitionFile sharedDisk folder "DEFINITION" path ∧
      sharedDisk.read path = .ok content ∧ FirstSymbolOn content "f" 1 := by
  have hcounts : ∀ path content, sharedDisk.read path = .ok content →
      (lines content).length < UInt32.size := by
    intro path content h
    obtain rfl := Except.ok.inj h
    split <;> decide
  have hfound : findDefinition sharedDisk Settings.default sharedDocument "CALL f(".toList ⟨0, 0⟩ =
      .ok (some (.elsewhere ⟨sharedDocument, Range.at ⟨1, 0⟩⟩
        ⟨"file:///w/CONFIG/b.DEFINITION", ⟨1, 0⟩⟩)) := by decide +kernel
  have hcall : callAt? "CALL f(".toList ⟨0, 0⟩ = some ⟨"f", ⟨⟨0, 5⟩, ⟨0, 6⟩⟩⟩ := by decide +kernel
  obtain ⟨-, -, hno, dir, folder, path, content, -, -, hfile, -, hread, hsymbol⟩ :=
    (findDefinition_agrees_with_outlines _ _ _ _ _ _ hcall hcounts).1 _ _ hfound
  exact ⟨hfound, hno, folder, path, content, hfile, hread, hsymbol⟩

end JinieServer.Definition
