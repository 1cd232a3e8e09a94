import JinieServer.Proofs.Definition.Outline
import JinieServer.Proofs.FileUri.Folder
import JinieServer.Url.Parser

/-!
# The file that an editor is told to open

A lookup that ends in another file gives the URI of the path where the search found the
declaration. Read again, it is that path in all its characters, as long as the path is a text and
is rooted or on a plain drive; a capital drive letter, backslashes on a drive, a slash before a
drive and bytes that are no text do not survive.
-/

namespace JinieServer.Definition

open JinieServer.Text JinieServer.Source JinieServer.FileUri

/-- The entries of every folder are names without slashes. -/
def NamesOnly (files : FileSystem) : Prop :=
  ∀ folder entries entry, files.list folder = .ok entries → .ok entry ∈ entries →
    Path.slash ∉ entry

/-! ## From the answer back to the search -/

theorem verdict_of_elsewhere {files : FileSystem} {settings : Settings} {uri : Url}
    {text : List Char} {position : Position} {location : Location} {target : Target}
    (h : findDefinition files settings uri text position =
      .ok (some (.elsewhere location target))) :
    ∃ name tier hit, verdict files settings uri text position = .ok (.inFile name tier hit) ∧
      location = ⟨uri, Range.at hit.position⟩ ∧ target = hit.target := by
  rw [findDefinition] at h
  cases hverdict : verdict files settings uri text position with
  | error e => simp [hverdict, Except.map] at h
  | ok found =>
    simp only [hverdict, Except.map, Except.ok.injEq] at h
    cases found with
    | noCall => simp [Verdict.resolution?] at h
    | inDocument name line range => simp [Verdict.resolution?] at h
    | inFile name tier hit =>
      simp only [Verdict.resolution?, Option.some.injEq, Resolution.elsewhere.injEq] at h
      exact ⟨name, tier, hit, rfl, h.1.symm, h.2.symm⟩
    | nowhere name => simp [Verdict.resolution?] at h

theorem searchFolder_of_searchTiers {files : FileSystem} {settings : Settings}
    {dir name : List Char} {tiers : List Tier} {tier : Tier} {hit : Hit}
    (h : searchTiers files settings dir name tiers = .ok (some (tier, hit))) :
    searchFolder files (tier.folder dir settings) name settings.extension = .ok (some hit) := by
  induction tiers with
  | nil => simp [searchTiers] at h
  | cons first tiers ih =>
    rw [searchTiers] at h
    split at h
    case h_1 => simp at h
    case h_2 found hfirst =>
      obtain ⟨rfl, rfl⟩ : first = tier ∧ found = hit := by simpa using h
      exact hfirst
    case h_3 => exact ih h

theorem searchFolder_of_verdict {files : FileSystem} {settings : Settings} {uri : Url}
    {text : List Char} {position : Position} {name : String} {tier : Tier} {hit : Hit}
    (h : verdict files settings uri text position = .ok (.inFile name tier hit)) :
    ∃ dir, FileUri.folder? uri.chars = some dir ∧
      searchFolder files (tier.folder dir settings) name.toList settings.extension =
        .ok (some hit) := by
  unfold verdict at h
  split at h
  case h_1 => simp at h
  case h_2 call _ =>
    split at h
    case h_1 => simp at h
    case h_2 =>
      split at h
      case h_1 => simp at h
      case h_2 dir hdir =>
        split at h
        case h_1 => simp at h
        case h_2 => simp at h
        case h_3 found other hsearch =>
          obtain ⟨rfl, rfl, rfl⟩ : call.name = name ∧ found = tier ∧ other = hit := by
            simpa using h
          exact ⟨dir, hdir, searchFolder_of_searchTiers hsearch⟩

theorem declares_of_verdict {files : FileSystem} {settings : Settings} {uri : Url}
    {text : List Char} {position : Position} {name : String} {tier : Tier} {hit : Hit}
    (h : verdict files settings uri text position = .ok (.inFile name tier hit)) :
    ∃ content, files.read hit.path = .ok content ∧
      declarationPosition? content name.toList = some hit.position := by
  obtain ⟨dir, -, hsearch⟩ := searchFolder_of_verdict h
  exact (file_of_folderSays (searchFolder_eq_iff.mp hsearch)).2

/-! ## The path of a hit -/

theorem hit_path_eq_entryPath {files : FileSystem} {folder name : List Char}
    {extension : String} {hit : Hit} (hnames : NamesOnly files)
    (h : searchFolder files folder name extension = .ok (some hit)) :
    ∃ entry, hit.path = entryPath folder entry ∧ entry.head? ≠ some Path.slash := by
  obtain ⟨⟨entries, entry, hlist, hmem, hpath, -⟩, -⟩ :=
    file_of_folderSays (searchFolder_eq_iff.mp h)
  have hslash := hnames _ entries entry hlist hmem
  exact ⟨entry, hpath, fun hhead => hslash (List.mem_of_head? hhead)⟩

theorem below_of_tier {dir : List Char} {entry : List UInt8} {settings : Settings} (tier : Tier)
    (hne : dir ≠ []) (hlast : dir.getLast? ≠ some '/')
    (hshared : Path.isAbsolute settings.sharedFolder.toList = false)
    (hentry : entry.head? ≠ some Path.slash) :
    dir ++ ['/'] <+: lossy (entryPath (tier.folder dir settings) entry) := by
  rw [entryPath, Path.lossy_joinBytes hentry]
  cases tier with
  | siblings =>
    rw [Tier.folder, Path.withSlash_eq_append hne hlast]
    exact List.prefix_append _ _
  | shared =>
    have hfolder := Path.isPrefix_join_slash hshared hne hlast
    exact hfolder.trans (Path.isPrefix_withSlash.trans (List.prefix_append _ _))

theorem rooted_hit {files : FileSystem} {settings : Settings} {uri name dir : List Char}
    {tier : Tier} {hit : Hit} (hnames : NamesOnly files) (hdir : FileUri.folder? uri = some dir)
    (habsolute : Path.isAbsolute dir = true) (hroot : dir ≠ ['/'])
    (hshared : Path.isAbsolute settings.sharedFolder.toList = false)
    (h : searchFolder files (tier.folder dir settings) name settings.extension =
      .ok (some hit)) : Rooted (lossy hit.path) := by
  obtain ⟨entry, hpath, hentry⟩ := hit_path_eq_entryPath hnames h
  obtain ⟨path, -, hparent⟩ := Option.bind_eq_some_iff.mp hdir
  have hlast := (Path.parent?_eq_some hparent).2.resolve_left hroot
  have hne : dir ≠ [] := by
    rintro rfl
    simp [Path.isAbsolute] at habsolute
  rw [hpath]
  exact rooted_of_below hdir habsolute hroot (below_of_tier tier hne hlast hshared hentry)

/-! ## The target -/

/-- The URI of a target is read as the path where the search found the declaration, if that path
is a text; only drives are spelt in one way. -/
theorem target_names_definition_file (files : FileSystem) (settings : Settings) (uri : Url)
    (text : List Char) (position : Position) (location : Location) (target : Target)
    (h : findDefinition files settings uri text position =
      .ok (some (.elsewhere location target))) :
    ∃ name tier hit dir, verdict files settings uri text position = .ok (.inFile name tier hit) ∧
      FileUri.folder? uri.chars = some dir ∧
      searchFolder files (tier.folder dir settings) name.toList settings.extension =
        .ok (some hit) ∧
      ∀ path, hit.path = utf8 path →
        (Rooted path ∨ PlainDrive path → path? target.uri.toList = some path) ∧
        (∀ letter rest, letter.isAlpha = true → path = letter :: ':' :: rest →
          path? target.uri.toList = some (letter.toLower :: ':' :: withSlashes rest)) ∧
        (∀ letter rest, letter.isAlpha = true → path = '/' :: letter :: ':' :: rest →
          path? target.uri.toList = some (letter :: ':' :: rest)) ∧
        (NamesOnly files → Path.isAbsolute dir = true → dir ≠ ['/'] →
          Path.isAbsolute settings.sharedFolder.toList = false →
          path? target.uri.toList = some path) := by
  obtain ⟨name, tier, hit, hverdict, -, rfl⟩ := verdict_of_elsewhere h
  obtain ⟨dir, hdir, hsearch⟩ := searchFolder_of_verdict hverdict
  refine ⟨name, tier, hit, dir, hverdict, hdir, hsearch, fun path htext => ?_⟩
  have hshown : lossy hit.path = path := by rw [htext, lossy_utf8]
  have htarget : hit.target.uri.toList = ofPath path := by simp [Hit.target, ofBytes, hshown]
  rw [htarget]
  refine ⟨?_, ?_, ?_, ?_⟩
  · intro hstable
    exact path?_ofPath_of_readBack (readBack_self hstable)
  · rintro letter rest hletter rfl
    exact path?_ofPath_of_readBack (.drive hletter)
  · rintro letter rest hletter rfl
    exact path?_ofPath_of_readBack (.slashedDrive hletter)
  · intro hnames habsolute hroot hshared
    have hrooted := rooted_hit hnames hdir habsolute hroot hshared hsearch
    rw [hshown] at hrooted
    exact path?_ofPath_of_readBack (.rooted hrooted)

/-- A disk with one folder that holds one definition file, which declares `f`. -/
def singleFileDisk (folder : List Char) (name : List UInt8) : FileSystem where
  list other := if other = utf8 folder then .ok [.ok name] else .error .notFound
  isFile path := path = entryPath folder name
  read path := if path = entryPath folder name then .ok "JINIE f(".toList else .error .notFound

/-- The document `file:///w%20%23/m.jinie`. -/
def spacedDocument : Url :=
  ⟨"file".toList, some {}, .segments ["w%20%23".toList, "m.jinie".toList], none, none⟩

theorem target_of_escaped_names :
    findDefinition (singleFileDisk "/w #".toList (utf8 "ä%2e\\.DEFINITION".toList))
        Settings.default spacedDocument "CALL f(".toList ⟨0, 0⟩ =
      .ok (some (.elsewhere ⟨spacedDocument, Range.at ⟨0, 0⟩⟩
        ⟨"file:///w%20%23/%C3%A4%252e%5C.DEFINITION", ⟨0, 0⟩⟩)) ∧
    path? "file:///w%20%23/%C3%A4%252e%5C.DEFINITION".toList =
      some "/w #/ä%2e\\.DEFINITION".toList := by
  have hfound : findDefinition (singleFileDisk "/w #".toList (utf8 "ä%2e\\.DEFINITION".toList))
      Settings.default spacedDocument "CALL f(".toList ⟨0, 0⟩ =
      .ok (some (.elsewhere ⟨spacedDocument, Range.at ⟨0, 0⟩⟩
        ⟨"file:///w%20%23/%C3%A4%252e%5C.DEFINITION", ⟨0, 0⟩⟩)) := by decide +kernel
  have hverdict : verdict (singleFileDisk "/w #".toList (utf8 "ä%2e\\.DEFINITION".toList))
      Settings.default spacedDocument "CALL f(".toList ⟨0, 0⟩ =
      .ok (.inFile "f" .siblings ⟨utf8 "/w #/ä%2e\\.DEFINITION".toList, ⟨0, 0⟩⟩) := by
    decide +kernel
  obtain ⟨name, tier, hit, dir, hverdict', -, -, htext⟩ :=
    target_names_definition_file _ _ _ _ _ _ _ hfound
  rw [hverdict] at hverdict'
  obtain ⟨-, -, rfl⟩ := Verdict.inFile.inj (Except.ok.inj hverdict')
  obtain ⟨hsame, -⟩ := htext _ rfl
  exact ⟨hfound, hsame (Or.inl ⟨_, rfl, drive?_eq_none_iff.mp (by decide)⟩)⟩

/-- The document `file:///C:/w/m.jinie`. -/
def capitalDriveDocument : Url :=
  ⟨"file".toList, some {}, .segments ["C:".toList, "w".toList, "m.jinie".toList], none, none⟩

/-- The name of a definition file that starts with a byte that is no text. -/
def nameWithoutText : List UInt8 := 0xff :: utf8 ".DEFINITION".toList

/-- The letter of a drive is made small, so the target of a document on `C:` is read as a path on
`c:`; and a byte that is no text is written as a replacement character. Neither is where the
search found the declaration. -/
theorem target_can_name_another_file :
    (Url.parse? "file:///C:/w/m.jinie".toList = some capitalDriveDocument ∧
      findDefinition (singleFileDisk "C:/w".toList (utf8 "a.DEFINITION".toList)) Settings.default
          capitalDriveDocument "CALL f(".toList ⟨0, 0⟩ =
        .ok (some (.elsewhere ⟨capitalDriveDocument, Range.at ⟨0, 0⟩⟩
          ⟨"file:///c%3A/w/a.DEFINITION", ⟨0, 0⟩⟩)) ∧
      verdict (singleFileDisk "C:/w".toList (utf8 "a.DEFINITION".toList)) Settings.default
          capitalDriveDocument "CALL f(".toList ⟨0, 0⟩ =
        .ok (.inFile "f" .siblings ⟨utf8 "C:/w/a.DEFINITION".toList, ⟨0, 0⟩⟩) ∧
      path? "file:///c%3A/w/a.DEFINITION".toList = some "c:/w/a.DEFINITION".toList ∧
      path? "file:///c%3A/w/a.DEFINITION".toList ≠ some "C:/w/a.DEFINITION".toList) ∧
    (Url.parse? "file:///w/m.jinie".toList = some sharedDocument ∧
      findDefinition (singleFileDisk "/w".toList nameWithoutText) Settings.default sharedDocument
          "CALL f(".toList ⟨0, 0⟩ =
        .ok (some (.elsewhere ⟨sharedDocument, Range.at ⟨0, 0⟩⟩
          ⟨"file:///w/%EF%BF%BD.DEFINITION", ⟨0, 0⟩⟩)) ∧
      verdict (singleFileDisk "/w".toList nameWithoutText) Settings.default sharedDocument
          "CALL f(".toList ⟨0, 0⟩ =
        .ok (.inFile "f" .siblings ⟨utf8 "/w/".toList ++ nameWithoutText, ⟨0, 0⟩⟩) ∧
      (path? "file:///w/%EF%BF%BD.DEFINITION".toList).map utf8 ≠
        some (utf8 "/w/".toList ++ nameWithoutText)) := by
  decide +kernel

end JinieServer.Definition
