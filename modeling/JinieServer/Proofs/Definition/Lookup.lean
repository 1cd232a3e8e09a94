import JinieServer.Definition.Lookup
import JinieServer.Proofs.Definition.Folder
import JinieServer.Proofs.Source.Declaration

/-!
# What decides a lookup

`Outcome` states the rules of a lookup, one constructor for each event that can end it. Exactly
one of them applies, and `findDefinition` gives its answer.
-/

namespace JinieServer.Definition

open JinieServer.Text JinieServer.Source

/-! ## The rules -/

/-- The call furthest left on the line of a position. -/
def CallAt (text : List Char) (position : Position) (name : List Char) : Prop :=
  ∃ line, (lines text)[position.line.toNat]? = some line ∧ LeftmostName callKeyword line name

/-- No line of the document holds the declaration text. -/
def Undeclared (text name : List Char) : Prop :=
  ∀ line ∈ lines text, ¬ declarationText name <:+: line

/-- The folders of a lookup, in the order of the search. -/
def folders (settings : Settings) (dir : List Char) : List (List Char) :=
  [dir, Path.join dir settings.sharedFolder.toList]

inductive Outcome (files : FileSystem) (settings : Settings) (uri : Url) (text : List Char)
    (position : Position) : Except LookupError (Option Resolution) → Prop where
  | noCall (h : ∀ name, ¬ CallAt text position name) :
    Outcome files settings uri text position (.ok none)
  | here {name line : List Char} {earlier : List (List Char)} (hcall : CallAt text position name)
    (h : FirstDeclaring text name earlier line) :
    Outcome files settings uri text position
      (.ok (some (.here ⟨uri, lineRange (UInt32.ofNat earlier.length) line⟩)))
  | unsupported {name : List Char} (hcall : CallAt text position name) (hno : Undeclared text name)
    (h : FileUri.folder? uri.chars = none) :
    Outcome files settings uri text position (.error (.unsupportedUri uri.text))
  /-- A folder fails, and those before it say nothing. -/
  | failure {name dir folder : List Char} {earlier later : List (List Char)} {e : LookupError}
    (hcall : CallAt text position name) (hno : Undeclared text name)
    (hdir : FileUri.folder? uri.chars = some dir)
    (horder : folders settings dir = earlier ++ folder :: later)
    (hsilent : ∀ other ∈ earlier, FolderSays files other settings.extension name (.ok none))
    (h : FolderSays files folder settings.extension name (.error e)) :
    Outcome files settings uri text position (.error e)
  /-- A folder has the declaration, and those before it say nothing. -/
  | elsewhere {name dir folder : List Char} {earlier later : List (List Char)} {hit : Hit}
    (hcall : CallAt text position name) (hno : Undeclared text name)
    (hdir : FileUri.folder? uri.chars = some dir)
    (horder : folders settings dir = earlier ++ folder :: later)
    (hsilent : ∀ other ∈ earlier, FolderSays files other settings.extension name (.ok none))
    (h : FolderSays files folder settings.extension name (.ok (some hit))) :
    Outcome files settings uri text position
      (.ok (some (.elsewhere ⟨uri, ⟨hit.position, hit.position⟩⟩
        ⟨String.ofList (FileUri.ofBytes hit.path), hit.position⟩)))
  | nowhere {name dir : List Char} (hcall : CallAt text position name)
    (hno : Undeclared text name) (hdir : FileUri.folder? uri.chars = some dir)
    (h : ∀ folder ∈ folders settings dir,
      FolderSays files folder settings.extension name (.ok none)) :
    Outcome files settings uri text position (.ok none)

/-! ## The call -/

theorem callAt?_eq_some_iff {text name : List Char} {position : Position} :
    (∃ call, callAt? text position = some call ∧ call.name.toList = name) ↔
      CallAt text position name := by
  cases hline : (lines text)[position.line.toNat]? with
  | none => simp [callAt?, CallAt, hline]
  | some line =>
    simp only [callAt?, CallAt, hline, Option.some.injEq, exists_eq_left',
      ← head?_names_eq_some_iff isName_callKeyword, calledName?]
    cases hhead : (names callKeyword line).head? with
    | none => simp [hhead]
    | some found => simp [hhead]

theorem name_of_callAt {text name : List Char} {position : Position} {call : Symbol}
    (hcall : callAt? text position = some call) (h : CallAt text position name) :
    call.name = String.ofList name := by
  obtain ⟨other, hother, rfl⟩ := callAt?_eq_some_iff.mpr h
  obtain rfl : call = other := by simpa [hcall] using hother
  simp

theorem callAt?_eq_none {text : List Char} {position : Position}
    (h : ∀ name, ¬ CallAt text position name) : callAt? text position = none := by
  cases hcall : callAt? text position with
  | none => rfl
  | some call => exact absurd (callAt?_eq_some_iff.mp ⟨call, hcall, rfl⟩) (h _)

/-! ## The folders -/

theorem searchTiers_append_of_silent {files : FileSystem} {settings : Settings}
    {dir name : List Char} {earlier : List Tier} (rest : List Tier)
    (h : ∀ tier ∈ earlier,
      FolderSays files (tier.folder dir settings) settings.extension name (.ok none)) :
    searchTiers files settings dir name (earlier ++ rest) =
      searchTiers files settings dir name rest := by
  induction earlier with
  | nil => rfl
  | cons tier earlier ih =>
    have hfirst := searchFolder_of_folderSays (h tier List.mem_cons_self)
    have hrest := ih (fun other hother => h other (List.mem_cons_of_mem _ hother))
    rw [List.cons_append, searchTiers, hfirst, hrest]

theorem tiers_of_folders {settings : Settings} {dir folder : List Char}
    {earlier later : List (List Char)} (h : folders settings dir = earlier ++ folder :: later) :
    ∃ before tier after, Tier.order = before ++ tier :: after ∧
      before.map (Tier.folder dir settings) = earlier ∧ tier.folder dir settings = folder := by
  have hmap : Tier.order.map (Tier.folder dir settings) = earlier ++ folder :: later := h
  obtain ⟨before, rest, horder, hbefore, hrest⟩ := List.map_eq_append_iff.mp hmap
  obtain ⟨tier, after, rfl, htier, -⟩ := List.map_eq_cons_iff.mp hrest
  exact ⟨before, tier, after, horder, hbefore, htier⟩

theorem searchTiers_of_split {files : FileSystem} {settings : Settings}
    {dir name folder : List Char} {earlier later : List (List Char)}
    {answer : Except LookupError (Option Hit)}
    (horder : folders settings dir = earlier ++ folder :: later)
    (hsilent : ∀ other ∈ earlier, FolderSays files other settings.extension name (.ok none))
    (h : FolderSays files folder settings.extension name answer) (hsome : answer ≠ .ok none) :
    (searchTiers files settings dir name Tier.order).map (·.map (·.2)) = answer := by
  obtain ⟨before, tier, after, htiers, rfl, rfl⟩ := tiers_of_folders horder
  have hbefore : ∀ other ∈ before,
      FolderSays files (other.folder dir settings) settings.extension name (.ok none) :=
    fun other hother => hsilent _ (List.mem_map_of_mem hother)
  rw [htiers, searchTiers_append_of_silent _ hbefore, searchTiers, searchFolder_of_folderSays h]
  match answer with
  | .error e => rfl
  | .ok (some hit) => rfl
  | .ok none => exact absurd rfl hsome

/-! ## The lookup -/

theorem findDefinition_of_undeclared {files : FileSystem} {settings : Settings} {uri : Url}
    {text name dir : List Char} {position : Position} (hcall : CallAt text position name)
    (hno : Undeclared text name) (hdir : FileUri.folder? uri.chars = some dir) :
    findDefinition files settings uri text position =
      ((searchTiers files settings dir name Tier.order).map (·.map (·.2))).map (·.map fun hit =>
        .elsewhere ⟨uri, ⟨hit.position, hit.position⟩⟩
          ⟨String.ofList (FileUri.ofBytes hit.path), hit.position⟩) := by
  obtain ⟨call, hsome, rfl⟩ := callAt?_eq_some_iff.mpr hcall
  rw [findDefinition, verdict, hsome]
  simp only [declarationLine?_eq_none_iff.mpr hno, hdir]
  match searchTiers files settings dir call.name.toList Tier.order with
  | .error e => rfl
  | .ok none => rfl
  | .ok (some (tier, hit)) => rfl

theorem findDefinition_of_outcome {files : FileSystem} {settings : Settings} {uri : Url}
    {text : List Char} {position : Position} {outcome : Except LookupError (Option Resolution)}
    (h : Outcome files settings uri text position outcome) :
    findDefinition files settings uri text position = outcome := by
  cases h with
  | noCall h =>
    rw [findDefinition, verdict, callAt?_eq_none h]
    rfl
  | here hcall h =>
    obtain ⟨call, hsome, rfl⟩ := callAt?_eq_some_iff.mpr hcall
    rw [findDefinition, verdict, hsome]
    simp only [declarationLine?_eq_some_iff.mpr ⟨_, h, rfl⟩]
    rfl
  | unsupported hcall hno h =>
    obtain ⟨call, hsome, rfl⟩ := callAt?_eq_some_iff.mpr hcall
    rw [findDefinition, verdict, hsome]
    simp only [declarationLine?_eq_none_iff.mpr hno, h]
    rfl
  | failure hcall hno hdir horder hsilent h =>
    rw [findDefinition_of_undeclared hcall hno hdir,
      searchTiers_of_split horder hsilent h (by simp)]
    rfl
  | elsewhere hcall hno hdir horder hsilent h =>
    rw [findDefinition_of_undeclared hcall hno hdir,
      searchTiers_of_split horder hsilent h (by simp)]
    rfl
  | @nowhere name dir hcall hno hdir h =>
    have hsilent : ∀ tier ∈ Tier.order,
        FolderSays files (tier.folder dir settings) settings.extension name (.ok none) :=
      fun tier htier => h _ (List.mem_map_of_mem htier)
    rw [findDefinition_of_undeclared hcall hno hdir, ← List.append_nil Tier.order,
      searchTiers_append_of_silent _ hsilent]
    rfl

theorem exists_outcome (files : FileSystem) (settings : Settings) (uri : Url) (text : List Char)
    (position : Position) : ∃ outcome, Outcome files settings uri text position outcome := by
  by_cases hcall : ∃ name, CallAt text position name
  case neg => exact ⟨_, .noCall (fun name h => hcall ⟨name, h⟩)⟩
  obtain ⟨name, hcall⟩ := hcall
  cases hline : declarationLine? text name with
  | some found =>
    obtain ⟨earlier, h, -⟩ := declarationLine?_eq_some_iff.mp hline
    exact ⟨_, .here hcall h⟩
  | none =>
    have hno : Undeclared text name := declarationLine?_eq_none_iff.mp hline
    cases hdir : FileUri.folder? uri.chars with
    | none => exact ⟨_, .unsupported hcall hno hdir⟩
    | some dir =>
      rcases forall_or_first
          (fun folder => FolderSays files folder settings.extension name (.ok none))
          (folders settings dir) with h | ⟨earlier, folder, later, horder, hsilent, hnot⟩
      · exact ⟨_, .nowhere hcall hno hdir h⟩
      · obtain ⟨answer, h⟩ := exists_folderSays files folder settings.extension name
        match answer, h with
        | .error e, h => exact ⟨_, .failure hcall hno hdir horder hsilent h⟩
        | .ok (some hit), h => exact ⟨_, .elsewhere hcall hno hdir horder hsilent h⟩
        | .ok none, h => exact absurd h hnot

theorem outcome_findDefinition (files : FileSystem) (settings : Settings) (uri : Url)
    (text : List Char) (position : Position) :
    Outcome files settings uri text position
      (findDefinition files settings uri text position) := by
  obtain ⟨outcome, h⟩ := exists_outcome files settings uri text position
  rwa [findDefinition_of_outcome h]

/-- The first event that decides a lookup gives its result. -/
theorem findDefinition_eq_iff_outcome (files : FileSystem) (settings : Settings) (uri : Url)
    (text : List Char) (position : Position) (outcome : Except LookupError (Option Resolution)) :
    findDefinition files settings uri text position = outcome ↔
      Outcome files settings uri text position outcome := by
  constructor
  · rintro rfl
    exact outcome_findDefinition files settings uri text position
  · exact findDefinition_of_outcome

end JinieServer.Definition
