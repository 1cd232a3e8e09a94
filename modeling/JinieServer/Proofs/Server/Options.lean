import JinieServer.Proofs.Json.Members
import JinieServer.Proofs.Server.Connect

/-!
# The options that a client may give

`Fits` is the grammar of the options: an object in which each setting stands at most once, under
either of its names, or an array with a place for each setting; a setting is a string or null.
Options that do not fit are refused as a whole, and leave the settings to the layers below.
-/

namespace JinieServer.Layer

open JinieServer.Json

/-! ## The grammar -/

def extensionNames : List String := ["definition_extension", "definitionExtension"]

def folderNames : List String := ["shared_folder", "sharedFolder"]

/-- What the values for a setting say about it. Two values for one setting say nothing. -/
inductive SetBy : List Json → Option String → Prop where
  | missing : SetBy [] none
  | null : SetBy [.null] none
  | text (s : String) : SetBy [.str s] (some s)

inductive Fits : Json → Layer → Prop where
  | object {members : List (String × Json)} {extension sharedFolder : Option String}
    (h : SetBy (under extensionNames members) extension)
    (h' : SetBy (under folderNames members) sharedFolder) :
    Fits (.obj members) ⟨extension, sharedFolder⟩
  /-- The first item is for the extension, and all that follows for the shared folder. -/
  | array {items : List Json} {extension sharedFolder : Option String}
    (h : SetBy (items.take 1) extension) (h' : SetBy (items.drop 1) sharedFolder) :
    Fits (.arr items) ⟨extension, sharedFolder⟩

/-- The members of an object that are named for a setting. -/
def settingMembers (members : List (String × Json)) : List (String × Json) :=
  members.filter fun (name, _) => name ∈ extensionNames ++ folderNames

/-! ## Reading a setting -/

theorem asOptionalString_eq_ok_iff {value : Json} {read : Option String} :
    value.asOptionalString = .ok read ↔ SetBy [value] read := by
  constructor
  · intro h
    cases value with
    | null => exact Except.ok.inj h ▸ .null
    | str s => exact Except.ok.inj h ▸ .text s
    | bool b => cases h
    | int n => cases h
    | real negative size => cases h
    | arr items => cases h
    | obj members => cases h
  · rintro (_ | _ | s)
    · rfl
    · rfl

def extensionSlot : Slot (Option String) :=
  ⟨"definition_extension", extensionNames, asOptionalString⟩

def folderSlot : Slot (Option String) := ⟨"shared_folder", folderNames, asOptionalString⟩

theorem given_join_iff (slot : Slot (Option String)) {values : List Json}
    {setting : Option String} (hread : slot.read = asOptionalString) :
    (∃ seen, slot.Given values seen ∧ seen.join = setting) ↔ SetBy values setting := by
  constructor
  · rintro ⟨seen, hgiven, rfl⟩
    cases hgiven with
    | missing => exact .missing
    | once h =>
      rw [hread] at h
      exact asOptionalString_eq_ok_iff.mp h
  · intro h
    cases values with
    | nil =>
      cases h
      exact ⟨none, .missing, rfl⟩
    | cons value values =>
      -- Null sets the field to none, which is not the same as leaving it unset.
      obtain rfl : values = [] := by cases h <;> rfl
      refine ⟨some setting, .once ?_, rfl⟩
      rw [hread]
      exact asOptionalString_eq_ok_iff.mpr h

/-! ## Reading the options -/

theorem readsTwo_add : Slot.ReadsTwo Seen.add Seen.mk extensionSlot folderSlot where
  first a b name value h := by
    have hkey : isExtensionKey name = true := by
      simpa [isExtensionKey, extensionSlot, extensionNames] using h
    simp only [Seen.add, hkey, if_true]
    rfl
  second a b name value h := by
    have hkey : isFolderKey name = true := by
      simpa [isFolderKey, folderSlot, folderNames] using h
    have hother : isExtensionKey name = false := by
      simp only [folderSlot, folderNames, List.mem_cons, List.not_mem_nil, or_false] at h
      rcases h with rfl | rfl <;> decide
    simp only [Seen.add, hkey, hother, if_true, Bool.false_eq_true, if_false]
    rfl
  other seen name value h h' := by
    have hextension : isExtensionKey name = false := by
      simpa [isExtensionKey, extensionSlot, extensionNames] using h
    have hfolder : isFolderKey name = false := by
      simpa [isFolderKey, folderSlot, folderNames] using h'
    simp only [Seen.add, hextension, hfolder, Bool.false_eq_true, if_false]
    rfl
  apart := by decide

theorem ofJson_obj_eq_ok_iff {members : List (String × Json)} {layer : Layer} :
    ofJson (.obj members) = .ok layer ↔ Fits (.obj members) layer := by
  have hread : ofJson (.obj members) = .ok layer ↔
      ∃ seen, members.foldlM Seen.add {} = .ok seen ∧ seen.layer = layer := by
    simp only [ofJson, bind_eq_ok_iff]
    simp only [pure, Except.pure, Except.ok.injEq]
  rw [hread]
  constructor
  · rintro ⟨seen, hseen, rfl⟩
    obtain ⟨a, b, rfl, hone, htwo⟩ := readsTwo_add.foldlM_eq_ok_iff.mp hseen
    have hextension := (given_join_iff extensionSlot rfl).mp ⟨a, hone, rfl⟩
    have hfolder := (given_join_iff folderSlot rfl).mp ⟨b, htwo, rfl⟩
    exact .object hextension hfolder
  · rintro ⟨hone, htwo⟩
    obtain ⟨a, ha, rfl⟩ := (given_join_iff extensionSlot rfl).mpr hone
    obtain ⟨b, hb, rfl⟩ := (given_join_iff folderSlot rfl).mpr htwo
    exact ⟨⟨a, b⟩, readsTwo_add.foldlM_eq_ok_iff.mpr ⟨a, b, rfl, ha, hb⟩, rfl⟩

theorem fits_arr_iff {items : List Json} {layer : Layer} :
    Fits (.arr items) layer ↔
      SetBy (items.take 1) layer.extension ∧ SetBy (items.drop 1) layer.sharedFolder := by
  constructor
  · rintro ⟨⟩
    exact ⟨‹_›, ‹_›⟩
  · rintro ⟨h, h'⟩
    exact .array h h'

theorem setBy_nil_iff {setting : Option String} : SetBy [] setting ↔ setting = none := by
  constructor
  · rintro ⟨⟩
    rfl
  · rintro rfl
    exact .missing

theorem ofJson_arr_eq_ok_iff {items : List Json} {layer : Layer} :
    ofJson (.arr items) = .ok layer ↔ Fits (.arr items) layer := by
  obtain ⟨extension, sharedFolder⟩ := layer
  rw [fits_arr_iff]
  match items with
  | [] => simp [ofJson, pure, Except.pure, setBy_nil_iff, eq_comm]
  | [one] =>
    simp only [ofJson, bind_eq_ok_iff, asOptionalString_eq_ok_iff]
    simp [pure, Except.pure, setBy_nil_iff, eq_comm]
  | [one, two] =>
    simp only [ofJson, noMore, bind_eq_ok_iff, asOptionalString_eq_ok_iff]
    simp [pure, Except.pure]
  | one :: two :: three :: more =>
    have hno : ¬ SetBy (two :: three :: more) sharedFolder := nofun
    simp only [ofJson, noMore, bind_eq_ok_iff]
    simp [hno]

theorem ofJson_eq_ok_iff {value : Json} {layer : Layer} :
    ofJson value = .ok layer ↔ Fits value layer := by
  cases value with
  | obj members => exact ofJson_obj_eq_ok_iff
  | arr items => exact ofJson_arr_eq_ok_iff
  | null => exact ⟨nofun, nofun⟩
  | bool b => exact ⟨nofun, nofun⟩
  | int n => exact ⟨nofun, nofun⟩
  | real negative size => exact ⟨nofun, nofun⟩
  | str s => exact ⟨nofun, nofun⟩

theorem ofOptions_eq_ok_iff {options : Json} {layer : Layer} :
    ofOptions options = .ok layer ↔ Fits options layer := by
  rw [← ofJson_eq_ok_iff, ofOptions]
  cases ofJson options with
  | error cause => simp [Except.mapError]
  | ok read => simp [Except.mapError]

theorem ofOptions_of_not_fits {options : Json} (h : ∀ layer, ¬ Fits options layer) :
    ∃ cause, ofOptions options = .error (.options cause) := by
  cases hread : ofJson options with
  | error cause => exact ⟨cause, by rw [ofOptions, hread]; rfl⟩
  | ok layer => exact absurd (ofJson_eq_ok_iff.mp hread) (h layer)

theorem ofOptions_settingMembers (members : List (String × Json)) :
    ofOptions (.obj (settingMembers members)) = ofOptions (.obj members) := by
  have hsame : (settingMembers members).foldlM Seen.add {} = members.foldlM Seen.add {} :=
    readsTwo_add.foldlM_filter {} members
  simp only [ofOptions, ofJson, hsame]

end JinieServer.Layer

namespace JinieServer.Server

open JinieServer.Protocol JinieServer.Settings JinieServer.Layer

/-! ## The options of an `initialize` -/

/-- The settings below the client's options. -/
def lowerSettings (base : Settings) (world : World) (message : Message) : Settings :=
  base.applyAll (workspaceLayer? world (givenRoot message)).toList

theorem applyAll_of_fits {options : Json} {layer : Layer} (settings : Settings)
    (h : Fits options layer) :
    settings.applyAll (optionsLayer? (some options)).toList = settings.apply layer := by
  have hlayer : optionsLayer? (some options) = some (.ok layer) := by
    rw [← ofOptions_eq_ok_iff.mpr h]
    cases h <;> rfl
  rw [hlayer]
  rfl

theorem applyAll_of_not_fits {options : Json} (settings : Settings)
    (h : ∀ layer, ¬ Fits options layer) :
    settings.applyAll (optionsLayer? (some options)).toList = settings := by
  obtain ⟨cause, hcause⟩ := ofOptions_of_not_fits h
  cases options with
  | null => rfl
  | _ =>
    rw [optionsLayer?, hcause]
    · rfl
    · nofun

theorem settings_connect {message : Message} {given : ClientSetup} (world : World)
    (server : Server) (h : connects? message = some given) :
    (server.connect world given).server.settings =
      (lowerSettings server.base world message).applyAll
        (optionsLayer? (givenOptions message)).toList := by
  rw [lowerSettings, ← applyAll_append, ← connectLayers_eq world h]
  rfl

/-! ## The theorem -/

/-- Options are read exactly if they fit the grammar, as the layer that the grammar says, and all
others are refused. Members of other names never matter. Options that fit go on top of the lower
layers, and all others leave the settings to them; every value can be given as the options. -/
theorem options_read_by_grammar :
    (∀ options layer, Layer.ofOptions options = .ok layer ↔ Fits options layer) ∧
    (∀ options, (∀ layer, ¬ Fits options layer) →
      ∃ cause, Layer.ofOptions options = .error (.options cause)) ∧
    (∀ members others, settingMembers members = settingMembers others →
      Layer.ofOptions (.obj members) = Layer.ofOptions (.obj others)) ∧
    (∀ client base before world message options,
      ((Server.start client base).after before).phase = .fresh → (connects? message).isSome →
      givenOptions message = some options →
      ∃ outcome, ((Server.start client base).after before).receive? world message =
          some outcome ∧
        (∀ layer, Fits options layer →
          outcome.server.settings = (lowerSettings base world message).apply layer) ∧
        ((∀ layer, ¬ Fits options layer) →
          outcome.server.settings = lowerSettings base world message)) ∧
    (∀ options, ∃ message, (connects? message).isSome ∧ givenOptions message = some options) := by
  refine ⟨?_, ?_, ?_, ?_, ?_⟩
  · intro options layer
    exact ofOptions_eq_ok_iff
  · intro options
    exact ofOptions_of_not_fits
  · intro members others hsame
    rw [← ofOptions_settingMembers members, hsame, ofOptions_settingMembers]
  · intro client base before world message options hwaits hconnects hoptions
    obtain ⟨given, hgiven⟩ := Option.isSome_iff_exists.mp hconnects
    have hstart := after_eq_self_of_fresh hwaits
    rw [hstart] at hwaits ⊢
    have hsettings := settings_connect world (Server.start client base) hgiven
    rw [hoptions] at hsettings
    refine ⟨_, receive?_of_connects? world hwaits hgiven, ?_, ?_⟩
    · intro layer hfits
      exact hsettings.trans (applyAll_of_fits _ hfits)
    · intro hno
      exact hsettings.trans (applyAll_of_not_fits _ hno)
  · intro options
    have hroot : ∀ text ∈ (none : Option String), (Url.parse? text.toList).isSome := nofun
    exact ⟨connectMessage none (some options), connects?_connectMessage (some options) hroot,
      (given_connectMessage none (some options)).2⟩

/-- The workspace's file sets the shared folder, and nothing is refused. -/
def sharedFolderWorld : World := worldOf [("/w/.jinie.toml", "shared_folder = \"LOCAL\"")] ""

/-- The extension stands under both of its names, once as null. -/
def twiceGiven : Json := .obj [("definitionExtension", .null), ("definition_extension", .str "x")]

theorem options_given_twice_and_in_place :
    (∃ cause, Layer.ofOptions twiceGiven = .error (.options cause)) ∧
    Layer.ofOptions (.obj [("a", .int 1), ("sharedFolder", .str "G")]) =
      Layer.ofOptions (.obj [("sharedFolder", .str "G"), ("z", .null)]) ∧
    (∃ outcome, (Server.start none Settings.default).receive? sharedFolderWorld
        (connectMessage (some "file:///w") (some twiceGiven)) = some outcome ∧
      outcome.server.settings = ⟨"DEFINITION", "LOCAL"⟩) ∧
    (∃ outcome, (Server.start none Settings.default).receive? sharedFolderWorld
        (connectMessage (some "file:///w") (some (.arr [.str ".x", .null]))) = some outcome ∧
      outcome.server.settings = ⟨"x", "LOCAL"⟩) := by
  obtain ⟨-, hrefused, hothers, hsession, -⟩ := options_read_by_grammar
  have htwice : ∀ layer, ¬ Fits twiceGiven layer := by
    rintro layer ⟨h, -⟩
    have hboth : SetBy [.null, .str "x"] _ := h
    cases hboth
  have hplaces : Fits (.arr [.str ".x", .null]) ⟨some ".x", none⟩ := .array (.text ".x") .null
  have hlower : ∀ options, lowerSettings Settings.default sharedFolderWorld
      (connectMessage (some "file:///w") (some options)) = ⟨"DEFINITION", "LOCAL"⟩ := by
    intro options
    rw [lowerSettings, (given_connectMessage _ _).1]
    decide +kernel
  have hroot : ∀ text ∈ some "file:///w", (Url.parse? text.toList).isSome := by
    rintro text ⟨⟩
    decide +kernel
  refine ⟨hrefused _ htwice, hothers _ _ rfl, ?_, ?_⟩
  · obtain ⟨outcome, hreceived, -, hkept⟩ := hsession none Settings.default [] sharedFolderWorld
      _ _ rfl (connects?_connectMessage (some twiceGiven) hroot) (given_connectMessage _ _).2
    exact ⟨outcome, hreceived, (hkept htwice).trans (hlower _)⟩
  · obtain ⟨outcome, hreceived, htaken, -⟩ := hsession none Settings.default [] sharedFolderWorld
      _ _ rfl (connects?_connectMessage (some (.arr [.str ".x", .null])) hroot)
      (given_connectMessage _ _).2
    refine ⟨outcome, hreceived, (htaken _ hplaces).trans ?_⟩
    rw [hlower]
    decide +kernel

end JinieServer.Server
