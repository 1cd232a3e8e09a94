import JinieServer.Proofs.Definition.Outline

/-!
# Lookups do not depend on how a disk lists its folders

Where each folder has at most one definition file with the declaration, and all of them can be
read, a search finds that file whatever the order of the listing and whatever else is listed. So
two disks with the same definition files give the same answer to every lookup.
-/

namespace JinieServer.Definition

open JinieServer.Text JinieServer.Source

/-! ## The rules -/

/-- Every entry of the folder can be read. -/
def Listed (files : FileSystem) (folder : List Char) : Prop :=
  ∃ names : List (List UInt8), files.list (utf8 folder) = .ok (names.map .ok)

/-- The file can be read and holds the declaration text. -/
def Declares (files : FileSystem) (name : List Char) (path : List UInt8) : Prop :=
  ∃ text, files.read path = .ok text ∧ declarationText name <:+: text

/-- Both disks list the folder, and show the same definition files with the same texts in it. The
order of the two listings and their other entries are left open. -/
structure SameFiles (first second : FileSystem) (folder : List Char) (extension : String) :
    Prop where
  listed : Listed first folder
  listedToo : Listed second folder
  files : ∀ path,
    DefinitionFile first folder extension path ↔ DefinitionFile second folder extension path
  texts : ∀ path, DefinitionFile first folder extension path →
    first.read path = second.read path

/-- All definition files of the folder can be read, and at most one holds the declaration text. -/
structure Unambiguous (files : FileSystem) (folder : List Char) (extension : String)
    (name : List Char) : Prop where
  readable : ∀ path, DefinitionFile files folder extension path →
    ∃ text, files.read path = .ok text
  unique : ∀ path other, DefinitionFile files folder extension path →
    DefinitionFile files folder extension other → Declares files name path →
    Declares files name other → path = other

/-- What a folder holds for a name, said without an order: a definition file with the declaration,
or only files without it. -/
inductive Holds (files : FileSystem) (folder : List Char) (extension : String)
    (name : List Char) : Option Hit → Prop where
  | declared {path : List UInt8} {text before : List Char}
    (hfile : DefinitionFile files folder extension path)
    (hread : files.read path = .ok text) (hfirst : FirstAt (declarationText name) text before) :
    Holds files folder extension name
      (some ⟨path, ⟨UInt32.ofNat (before.count '\n'), column (lastLine before)⟩⟩)
  | undeclared (h : ∀ path, DefinitionFile files folder extension path →
      ¬ Declares files name path) :
    Holds files folder extension name none

/-! ## A folder -/

theorem not_unlisted {files : FileSystem} {folder : List Char} {e : LookupError}
    (hlisted : Listed files folder) : ¬ Unlisted files folder e := by
  obtain ⟨names, hnames⟩ := hlisted
  intro h
  cases h with
  | folder h => simp [hnames] at h
  | @entry earlier cause later h =>
    have hentries : names.map .ok = earlier.map .ok ++ .error cause :: later :=
      Except.ok.inj (hnames.symm.trans h)
    have hmem : .error cause ∈ earlier.map .ok ++ .error cause :: later := by simp
    rw [← hentries] at hmem
    simp at hmem

theorem not_declares_of_silent {files : FileSystem} {name : List Char} {path : List UInt8}
    (h : Silent files name path) : ¬ Declares files name path := by
  obtain ⟨text, hread, hno⟩ := h
  rintro ⟨other, hother, hholds⟩
  obtain rfl : text = other := by simpa [hread] using hother
  exact hno hholds

theorem searchFolder_holds {files : FileSystem} {folder : List Char} {extension : String}
    (name : List Char) (hlisted : Listed files folder)
    (hreadable : ∀ path, DefinitionFile files folder extension path →
      ∃ text, files.read path = .ok text) :
    ∃ found, searchFolder files folder name extension = .ok found ∧
      Holds files folder extension name found := by
  obtain ⟨answer, hsays⟩ := exists_folderSays files folder extension name
  rw [searchFolder_of_folderSays hsays]
  cases hsays with
  | unlisted h => exact absurd h (not_unlisted hlisted)
  | @decisive earlier later path _ hlists hsilent h =>
    have hfile := (mem_of_lists hlists path).mp (by simp)
    cases h with
    | unreadable hread =>
      obtain ⟨text, htext⟩ := hreadable path hfile
      simp [hread] at htext
    | declares hread hfirst => exact ⟨_, rfl, .declared hfile hread hfirst⟩
  | @silent paths hlists h =>
    refine ⟨none, rfl, .undeclared fun path hfile => ?_⟩
    exact not_declares_of_silent (h path ((mem_of_lists hlists path).mpr hfile))

theorem declares_of_firstAt {files : FileSystem} {name text before : List Char}
    {path : List UInt8} (hread : files.read path = .ok text)
    (hfirst : FirstAt (declarationText name) text before) :
    Declares files name path := ⟨text, hread, hfirst.occurs⟩

theorem Holds.unique {files : FileSystem} {folder name : List Char} {extension : String}
    {found other : Option Hit} (hsettled : Unambiguous files folder extension name)
    (h : Holds files folder extension name found) (h' : Holds files folder extension name other) :
    found = other := by
  cases h with
  | undeclared hno =>
    cases h' with
    | undeclared => rfl
    | declared hfile hread hfirst => exact absurd (declares_of_firstAt hread hfirst) (hno _ hfile)
  | @declared path text before hfile hread hfirst =>
    cases h' with
    | undeclared hno => exact absurd (declares_of_firstAt hread hfirst) (hno _ hfile)
    | @declared path' text' before' hfile' hread' hfirst' =>
      obtain rfl := hsettled.unique path path' hfile hfile' (declares_of_firstAt hread hfirst)
        (declares_of_firstAt hread' hfirst')
      obtain rfl : text = text' := by simpa [hread] using hread'
      obtain rfl := hfirst.unique hfirst'
      rfl

/-! ## Two disks -/

theorem Holds.transfer {first second : FileSystem} {folder name : List Char} {extension : String}
    {found : Option Hit} (hsame : SameFiles first second folder extension)
    (h : Holds second folder extension name found) : Holds first folder extension name found := by
  cases h with
  | declared hfile hread hfirst =>
    have hfile' := (hsame.files _).mpr hfile
    exact .declared hfile' ((hsame.texts _ hfile').trans hread) hfirst
  | undeclared hno =>
    refine .undeclared fun path hfile => ?_
    rintro ⟨text, hread, hholds⟩
    exact hno path ((hsame.files path).mp hfile)
      ⟨text, (hsame.texts path hfile).symm.trans hread, hholds⟩

theorem searchFolder_eq_of_sameFiles {first second : FileSystem} {folder name : List Char}
    {extension : String} (hsame : SameFiles first second folder extension)
    (hsettled : Unambiguous first folder extension name) :
    searchFolder first folder name extension = searchFolder second folder name extension := by
  have hreadable : ∀ path, DefinitionFile second folder extension path →
      ∃ text, second.read path = .ok text := by
    intro path hfile
    have hfile' := (hsame.files path).mpr hfile
    rw [← hsame.texts path hfile']
    exact hsettled.readable path hfile'
  obtain ⟨found, hfound, hholds⟩ := searchFolder_holds name hsame.listed hsettled.readable
  obtain ⟨other, hother, hholds'⟩ := searchFolder_holds name hsame.listedToo hreadable
  rw [hfound, hother, Holds.unique hsettled hholds (hholds'.transfer hsame)]

theorem sameFiles_of_perm {first second : FileSystem} {folder : List Char} {extension : String}
    {paths others : List (List UInt8)} (h : Lists first folder extension paths)
    (h' : Lists second folder extension others) (hperm : paths.Perm others)
    (htexts : ∀ path ∈ paths, first.read path = second.read path) :
    SameFiles first second folder extension where
  listed := h.imp fun _ h => h.1
  listedToo := h'.imp fun _ h => h.1
  files path := by rw [← mem_of_lists h, ← mem_of_lists h', hperm.mem_iff]
  texts path hfile := htexts path ((mem_of_lists h path).mpr hfile)

theorem searchTiers_congr {first second : FileSystem} {settings : Settings} {dir name : List Char}
    {tiers : List Tier}
    (h : ∀ tier ∈ tiers, searchFolder first (tier.folder dir settings) name settings.extension =
      searchFolder second (tier.folder dir settings) name settings.extension) :
    searchTiers first settings dir name tiers = searchTiers second settings dir name tiers := by
  induction tiers with
  | nil => rfl
  | cons tier tiers ih =>
    have hrest := ih fun other hother => h other (List.mem_cons_of_mem _ hother)
    rw [searchTiers, searchTiers, h tier List.mem_cons_self, hrest]

theorem findDefinition_congr {first second : FileSystem} {settings : Settings} {uri : Url}
    {text : List Char} {position : Position}
    (h : ∀ name dir, CallAt text position name → FileUri.folder? uri.chars = some dir →
      ∀ folder ∈ folders settings dir, searchFolder first folder name settings.extension =
        searchFolder second folder name settings.extension) :
    findDefinition first settings uri text position =
      findDefinition second settings uri text position := by
  have hverdict : verdict first settings uri text position =
      verdict second settings uri text position := by
    unfold verdict
    cases hcall : callAt? text position with
    | none => rfl
    | some call =>
      simp only
      cases declarationLine? text call.name.toList with
      | some found => rfl
      | none =>
        cases hdir : FileUri.folder? uri.chars with
        | none => rfl
        | some dir =>
          have hcallAt := callAt?_eq_some_iff.mp ⟨call, hcall, rfl⟩
          have htiers : searchTiers first settings dir call.name.toList Tier.order =
              searchTiers second settings dir call.name.toList Tier.order :=
            searchTiers_congr fun tier htier =>
              h _ dir hcallAt hdir _ (List.mem_map_of_mem htier)
          simp only [htiers]
  rw [findDefinition, findDefinition, hverdict]

/-! ## The lookup -/

/-- Two disks that show the same definition files give the same answer, if all those files can be
read and no folder declares the name in two of them. -/
theorem findDefinition_independent_of_listing (first second : FileSystem) (settings : Settings)
    (uri : Url) (text : List Char) (position : Position)
    (hsame : ∀ dir, FileUri.folder? uri.chars = some dir → ∀ folder ∈ folders settings dir,
      SameFiles first second folder settings.extension)
    (hsettled : ∀ name dir, CallAt text position name → FileUri.folder? uri.chars = some dir →
      ∀ folder ∈ folders settings dir, Unambiguous first folder settings.extension name) :
    findDefinition first settings uri text position =
      findDefinition second settings uri text position := by
  refine findDefinition_congr fun name dir hcall hdir folder hfolder => ?_
  exact searchFolder_eq_of_sameFiles (hsame dir hdir folder hfolder)
    (hsettled name dir hcall hdir folder hfolder)

/-- A disk that lists these names in every folder. Two files beside the document are definition
files, and one of them declares `f`. -/
def listingDisk (names : List String) : FileSystem where
  list _ := .ok (names.map fun name => .ok (utf8 name.toList))
  isFile path := ["/w/a.DEFINITION", "/w/b.DEFINITION", "/w/notes"].any (utf8 ·.toList = path)
  read path :=
    .ok (if path = utf8 "/w/b.DEFINITION".toList then "JINIE f(".toList else "JINIE g(".toList)

theorem lists_listingDisk {names : List String} {folder : List Char} {paths : List (List UInt8)}
    (h : ((names.map (utf8 ·.toList)).filter fun name =>
        (listingDisk names).isFile (entryPath folder name) ∧
          '.' :: "DEFINITION".toList <:+ lossy name).map (entryPath folder) = paths) :
    Lists (listingDisk names) folder "DEFINITION" paths := by
  refine ⟨names.map (utf8 ·.toList), ?_, h.symm⟩
  rw [List.map_map]
  rfl

theorem unambiguous_listingDisk {names : List String} {folder : List Char}
    {paths : List (List UInt8)} (h : Lists (listingDisk names) folder "DEFINITION" paths)
    (hpaths : ∀ path ∈ paths,
      path = utf8 "/w/a.DEFINITION".toList ∨ path = utf8 "/w/b.DEFINITION".toList) :
    Unambiguous (listingDisk names) folder "DEFINITION" "f".toList := by
  have hdeclaring : ∀ path, DefinitionFile (listingDisk names) folder "DEFINITION" path →
      Declares (listingDisk names) "f".toList path → path = utf8 "/w/b.DEFINITION".toList := by
    rintro path hfile ⟨text, hread, hholds⟩
    rcases hpaths path ((mem_of_lists h path).mpr hfile) with rfl | rfl
    · obtain rfl := Except.ok.inj hread
      revert hholds
      decide +kernel
    · rfl
  refine ⟨fun path _ => ⟨_, rfl⟩, fun path other hfile hfile' hholds hholds' => ?_⟩
  rw [hdeclaring path hfile hholds, hdeclaring other hfile' hholds']

theorem findDefinition_in_two_listings :
    findDefinition (listingDisk ["a.DEFINITION", "b.DEFINITION"]) Settings.default sharedDocument
        "CALL f(".toList ⟨0, 0⟩ =
      .ok (some (.elsewhere ⟨sharedDocument, Range.at ⟨0, 0⟩⟩ ⟨"file:///w/b.DEFINITION", ⟨0, 0⟩⟩)) ∧
    findDefinition (listingDisk ["notes", "b.DEFINITION", "sub.DEFINITION", "a.DEFINITION"])
        Settings.default sharedDocument "CALL f(".toList ⟨0, 0⟩ =
      .ok (some (.elsewhere ⟨sharedDocument, Range.at ⟨0, 0⟩⟩
        ⟨"file:///w/b.DEFINITION", ⟨0, 0⟩⟩)) := by
  have hfirst : findDefinition (listingDisk ["a.DEFINITION", "b.DEFINITION"]) Settings.default
      sharedDocument "CALL f(".toList ⟨0, 0⟩ =
      .ok (some (.elsewhere ⟨sharedDocument, Range.at ⟨0, 0⟩⟩
        ⟨"file:///w/b.DEFINITION", ⟨0, 0⟩⟩)) := by decide +kernel
  have hdir : FileUri.folder? sharedDocument.chars = some "/w".toList := by decide +kernel
  have horder : folders Settings.default "/w".toList = ["/w".toList, "/w/CONFIG".toList] := by
    decide +kernel
  have hcalled : callAt? "CALL f(".toList ⟨0, 0⟩ = some ⟨"f", ⟨⟨0, 5⟩, ⟨0, 6⟩⟩⟩ := by
    decide +kernel
  have hbeside : Lists (listingDisk ["a.DEFINITION", "b.DEFINITION"]) "/w".toList "DEFINITION"
      [utf8 "/w/a.DEFINITION".toList, utf8 "/w/b.DEFINITION".toList] :=
    lists_listingDisk (by decide +kernel)
  have hshared : Lists (listingDisk ["a.DEFINITION", "b.DEFINITION"]) "/w/CONFIG".toList
      "DEFINITION" [] := lists_listingDisk (by decide +kernel)
  refine ⟨hfirst, hfirst ▸ (findDefinition_independent_of_listing _ _ _ _ _ _ ?_ ?_).symm⟩
  · intro dir hdir' folder hfolder
    obtain rfl := Option.some.inj (hdir.symm.trans hdir')
    rw [horder, List.mem_pair] at hfolder
    rcases hfolder with rfl | rfl
    · exact sameFiles_of_perm hbeside (lists_listingDisk rfl) (by decide +kernel) fun _ _ => rfl
    · exact sameFiles_of_perm hshared (lists_listingDisk rfl) (by decide +kernel) fun _ _ => rfl
  · intro name dir hcall hdir' folder hfolder
    obtain rfl := Option.some.inj (hdir.symm.trans hdir')
    have hname : "f" = String.ofList name := name_of_callAt hcalled hcall
    obtain rfl : "f".toList = name := by rw [hname, String.toList_ofList]
    rw [horder, List.mem_pair] at hfolder
    rcases hfolder with rfl | rfl
    · exact unambiguous_listingDisk hbeside fun path hpath => List.mem_pair.mp hpath
    · exact unambiguous_listingDisk hshared nofun

end JinieServer.Definition
