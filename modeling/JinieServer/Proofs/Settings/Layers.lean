import JinieServer.Settings.Layer
import Mathlib.Data.List.Forall2
import Mathlib.Data.List.Induction
import Mathlib.Data.List.TakeWhile

/-!
# The last layer that gives a setting decides it

`LastWins` says what becomes of settings under layers, for each setting on its own. A layer gives
an extension if something is left of it behind its dots, and a folder if it is not empty; a layer
that could not be read gives neither.
-/

namespace JinieServer.Settings

/-! ## The rules -/

/-- The layer could be read, and sets the extension to this value behind any number of dots. -/
def GivesExtension (layer : Except SettingsError Layer) (value : String) : Prop :=
  ∃ read written dots, layer = .ok read ∧ read.extension = some written ∧
    written.toList = List.replicate dots '.' ++ value.toList ∧
    value.toList.head? ≠ some '.' ∧ value ≠ ""

/-- The layer could be read, and sets the shared folder to this value. -/
def GivesFolder (layer : Except SettingsError Layer) (value : String) : Prop :=
  ∃ read, layer = .ok read ∧ read.sharedFolder = some value ∧ value ≠ ""

/-- What a setting is after the layers: the last value that one of them gives, or the old one if
none does. -/
inductive LastGiven (gives : Except SettingsError Layer → String → Prop) (old : String) :
    List (Except SettingsError Layer) → String → Prop where
  | given {earlier later : List (Except SettingsError Layer)}
    {layer : Except SettingsError Layer} {value : String} (h : gives layer value)
    (hlater : ∀ other ∈ later, ∀ value, ¬ gives other value) :
    LastGiven gives old (earlier ++ layer :: later) value
  | kept {layers : List (Except SettingsError Layer)}
    (h : ∀ layer ∈ layers, ∀ value, ¬ gives layer value) : LastGiven gives old layers old

structure LastWins (old : Settings) (layers : List (Except SettingsError Layer))
    (new : Settings) : Prop where
  extension : LastGiven GivesExtension old.extension layers new.extension
  sharedFolder : LastGiven GivesFolder old.sharedFolder layers new.sharedFolder

/-- An extension that can stand behind a dot, and a folder with a name. -/
structure WellFormed (settings : Settings) : Prop where
  extension : settings.extension ≠ ""
  undotted : settings.extension.toList.head? ≠ some '.'
  sharedFolder : settings.sharedFolder ≠ ""

/-! ## What a layer gives -/

theorem withoutDots_eq_iff {written value : String} :
    withoutDots written = value ↔
      (∃ dots, written.toList = List.replicate dots '.' ++ value.toList) ∧
        value.toList.head? ≠ some '.' := by
  have hdropped : (withoutDots written).toList = written.toList.dropWhile (· = '.') := by
    simp [withoutDots]
  constructor
  · rintro rfl
    rw [hdropped]
    constructor
    · refine ⟨(written.toList.takeWhile (· = '.')).length, ?_⟩
      have hdots : written.toList.takeWhile (· = '.') =
          List.replicate (written.toList.takeWhile (· = '.')).length '.' := by
        rw [List.eq_replicate_iff]
        exact ⟨rfl, fun c hc => by simpa using List.mem_takeWhile_imp hc⟩
      rw [← hdots, List.takeWhile_append_dropWhile]
    · intro hhead
      have hdot := List.head?_dropWhile_not (· = '.') written.toList
      rw [hhead] at hdot
      simp at hdot
  · rintro ⟨⟨dots, hwritten⟩, hhead⟩
    rw [← String.toList_inj, hdropped, hwritten, List.dropWhile_append_of_pos (by simp)]
    cases hvalue : value.toList with
    | nil => rfl
    | cons c rest =>
      have hc : c ≠ '.' := by simpa [hvalue] using hhead
      simp [hc]

theorem givesExtension_ok_iff {layer : Layer} {value : String} :
    GivesExtension (.ok layer) value ↔
      ∃ written, layer.extension = some written ∧ withoutDots written = value ∧ value ≠ "" := by
  constructor
  · rintro ⟨read, written, dots, hread, hset, hwritten, hhead, hne⟩
    obtain rfl := Except.ok.inj hread
    exact ⟨written, hset, withoutDots_eq_iff.mpr ⟨⟨dots, hwritten⟩, hhead⟩, hne⟩
  · rintro ⟨written, hset, hvalue, hne⟩
    obtain ⟨⟨dots, hwritten⟩, hhead⟩ := withoutDots_eq_iff.mp hvalue
    exact ⟨layer, written, dots, rfl, hset, hwritten, hhead, hne⟩

theorem givesFolder_ok_iff {layer : Layer} {value : String} :
    GivesFolder (.ok layer) value ↔ layer.sharedFolder = some value ∧ value ≠ "" := by
  constructor
  · rintro ⟨read, hread, hset, hne⟩
    obtain rfl := Except.ok.inj hread
    exact ⟨hset, hne⟩
  · rintro ⟨hset, hne⟩
    exact ⟨layer, rfl, hset, hne⟩

theorem not_givesExtension_error (e : SettingsError) (value : String) :
    ¬ GivesExtension (.error e) value := by
  rintro ⟨read, -, -, hread, -⟩
  cases hread

theorem not_givesFolder_error (e : SettingsError) (value : String) :
    ¬ GivesFolder (.error e) value := by
  rintro ⟨read, hread, -⟩
  cases hread

/-! ## One layer -/

/-- Applies a layer if it could be read. -/
def applyRead (settings : Settings) : Except SettingsError Layer → Settings
  | .ok layer => settings.apply layer
  | .error _ => settings

/-- A setting that follows its own layers: it takes what a layer gives, and stays as it is under a
layer that gives nothing. -/
structure Follows (setting : Settings → String)
    (gives : Except SettingsError Layer → String → Prop) : Prop where
  takes : ∀ (settings : Settings) {layer : Except SettingsError Layer} {value : String},
    gives layer value → setting (settings.applyRead layer) = value
  keeps : ∀ (settings : Settings) {layer : Except SettingsError Layer},
    (∀ value, ¬ gives layer value) → setting (settings.applyRead layer) = setting settings

theorem follows_extension : Follows Settings.extension GivesExtension where
  takes settings layer value h := by
    cases layer with
    | error e => exact absurd h (not_givesExtension_error e value)
    | ok layer =>
      obtain ⟨written, hset, rfl, hne⟩ := givesExtension_ok_iff.mp h
      simp [applyRead, apply, hset, unlessEmpty, hne]
  keeps settings layer h := by
    cases layer with
    | error e => rfl
    | ok layer =>
      cases hset : layer.extension with
      | none => simp [applyRead, apply, hset]
      | some written =>
        have hempty : withoutDots written = "" := by
          by_contra hne
          exact h _ (givesExtension_ok_iff.mpr ⟨written, hset, rfl, hne⟩)
        simp [applyRead, apply, hset, unlessEmpty, hempty]

theorem follows_sharedFolder : Follows Settings.sharedFolder GivesFolder where
  takes settings layer value h := by
    cases layer with
    | error e => exact absurd h (not_givesFolder_error e value)
    | ok layer =>
      obtain ⟨hset, hne⟩ := givesFolder_ok_iff.mp h
      simp [applyRead, apply, hset, unlessEmpty, hne]
  keeps settings layer h := by
    cases layer with
    | error e => rfl
    | ok layer =>
      cases hset : layer.sharedFolder with
      | none => simp [applyRead, apply, hset]
      | some folder =>
        have hempty : folder = "" := by
          by_contra hne
          exact h _ (givesFolder_ok_iff.mpr ⟨hset, hne⟩)
        simp [applyRead, apply, hset, unlessEmpty, hempty]

/-! ## All layers -/

theorem applyAll_eq_foldl (base : Settings) (layers : List (Except SettingsError Layer)) :
    base.applyAll layers = layers.foldl applyRead base := by
  unfold applyAll
  congr 1

theorem applyAll_append (base : Settings) (lower upper : List (Except SettingsError Layer)) :
    base.applyAll (lower ++ upper) = (base.applyAll lower).applyAll upper := by
  simp only [applyAll, List.foldl_append]

theorem applyAll_concat (base : Settings) (layers : List (Except SettingsError Layer))
    (layer : Except SettingsError Layer) :
    base.applyAll (layers ++ [layer]) = (base.applyAll layers).applyRead layer := by
  rw [applyAll_append, applyAll_eq_foldl (base.applyAll layers)]
  rfl

theorem lastGiven_concat_iff {gives : Except SettingsError Layer → String → Prop}
    {old value : String} {layers : List (Except SettingsError Layer)}
    {layer : Except SettingsError Layer} :
    LastGiven gives old (layers ++ [layer]) value ↔
      gives layer value ∨ (∀ other, ¬ gives layer other) ∧ LastGiven gives old layers value := by
  constructor
  · intro h
    generalize hall : layers ++ [layer] = all at h
    cases h with
    | @given earlier later given _ hgives hlater =>
      rcases List.eq_nil_or_concat' later with rfl | ⟨front, last, rfl⟩
      · obtain ⟨-, hlast⟩ := List.append_inj' hall rfl
        obtain rfl := List.singleton_inj.mp hlast
        exact Or.inl hgives
      · rw [← List.cons_append, ← List.append_assoc] at hall
        obtain ⟨rfl, hlast⟩ := List.append_inj' hall rfl
        obtain rfl := List.singleton_inj.mp hlast
        right
        refine ⟨hlater layer (by simp), .given hgives fun other hother => ?_⟩
        exact hlater other (List.mem_append_left _ hother)
    | kept h =>
      subst hall
      exact Or.inr ⟨h layer (by simp), .kept fun other hother => h other (by simp [hother])⟩
  · rintro (hgives | ⟨hnone, h⟩)
    · exact .given hgives (by simp)
    · cases h with
      | @given earlier later given _ hgives hlater =>
        rw [List.append_assoc, List.cons_append]
        refine .given hgives fun other hother => ?_
        rcases List.mem_append.mp hother with hother | hother
        · exact hlater other hother
        · rwa [List.mem_singleton.mp hother]
      | kept h =>
        refine .kept fun other hother => ?_
        rcases List.mem_append.mp hother with hother | hother
        · exact h other hother
        · rwa [List.mem_singleton.mp hother]

theorem setting_applyAll_eq_iff {setting : Settings → String}
    {gives : Except SettingsError Layer → String → Prop} (hfollows : Follows setting gives)
    (base : Settings) (layers : List (Except SettingsError Layer)) (value : String) :
    setting (base.applyAll layers) = value ↔ LastGiven gives (setting base) layers value := by
  induction layers using List.reverseRecOn generalizing value with
  | nil =>
    constructor
    · rintro rfl
      exact .kept (by simp)
    · intro h
      generalize hall : ([] : List (Except SettingsError Layer)) = all at h
      cases h with
      | given => simp at hall
      | kept =>
        rw [← hall]
        rfl
  | append_singleton layers layer ih =>
    rw [applyAll_concat, lastGiven_concat_iff]
    by_cases hgives : ∃ given, gives layer given
    · obtain ⟨given, hgiven⟩ := hgives
      rw [hfollows.takes _ hgiven]
      constructor
      · rintro rfl
        exact Or.inl hgiven
      · rintro (h | ⟨hnone, -⟩)
        · rw [← hfollows.takes base hgiven, hfollows.takes base h]
        · exact absurd hgiven (hnone given)
    · rw [not_exists] at hgives
      rw [hfollows.keeps _ hgives, ih]
      simp [hgives]

theorem applyAll_eq_iff {base settings : Settings} {layers : List (Except SettingsError Layer)} :
    base.applyAll layers = settings ↔ LastWins base layers settings := by
  have hextension := setting_applyAll_eq_iff follows_extension base layers settings.extension
  have hfolder := setting_applyAll_eq_iff follows_sharedFolder base layers settings.sharedFolder
  constructor
  · rintro rfl
    exact ⟨hextension.mp rfl, hfolder.mp rfl⟩
  · rintro ⟨h, h'⟩
    have hboth := And.intro (hextension.mpr h) (hfolder.mpr h')
    cases hall : base.applyAll layers
    cases settings
    simpa [hall] using hboth

/-! ## One setting apart from the other -/

/-- A setting has the same old value, and the layers give the same for it. Whatever they say about
other settings is left open. -/
structure SameFor (setting : Settings → String)
    (gives : Except SettingsError Layer → String → Prop) (base : Settings)
    (layers : List (Except SettingsError Layer)) (other : Settings)
    (others : List (Except SettingsError Layer)) : Prop where
  old : setting base = setting other
  given : List.Forall₂ (fun a b => ∀ value, gives a value ↔ gives b value) layers others

theorem setting_applyAll_congr {setting : Settings → String}
    {gives : Except SettingsError Layer → String → Prop} (hfollows : Follows setting gives)
    {base other : Settings} {layers others : List (Except SettingsError Layer)}
    (h : SameFor setting gives base layers other others) :
    setting (base.applyAll layers) = setting (other.applyAll others) := by
  obtain ⟨hbase, h⟩ := h
  rw [applyAll_eq_foldl, applyAll_eq_foldl]
  induction h generalizing base other with
  | nil => exact hbase
  | @cons layer layer' layers others hsame _ ih =>
    refine ih ?_
    by_cases hgives : ∃ value, gives layer value
    · obtain ⟨value, hvalue⟩ := hgives
      rw [hfollows.takes base hvalue, hfollows.takes other ((hsame value).mp hvalue)]
    · rw [not_exists] at hgives
      have hgives' : ∀ value, ¬ gives layer' value := fun value => by
        rw [← hsame]
        exact hgives value
      rw [hfollows.keeps base hgives, hfollows.keeps other hgives', hbase]

/-! ## Settings that can be used -/

theorem wellFormed_default : WellFormed default := ⟨by decide, by decide, by decide⟩

theorem WellFormed.applyAll {base : Settings} (h : WellFormed base)
    (layers : List (Except SettingsError Layer)) : WellFormed (base.applyAll layers) := by
  have hwins : LastWins base layers (base.applyAll layers) := applyAll_eq_iff.mp rfl
  generalize base.applyAll layers = settings at hwins ⊢
  obtain ⟨hextension, hfolder⟩ := hwins
  obtain ⟨extension, sharedFolder⟩ := settings
  have hleft : extension ≠ "" ∧ extension.toList.head? ≠ some '.' := by
    cases hextension with
    | given hgives =>
      obtain ⟨read, written, dots, -, -, -, hhead, hne⟩ := hgives
      exact ⟨hne, hhead⟩
    | kept => exact ⟨h.extension, h.undotted⟩
  have hright : sharedFolder ≠ "" := by
    cases hfolder with
    | given hgives =>
      obtain ⟨read, -, -, hne⟩ := hgives
      exact hne
    | kept => exact h.sharedFolder
  exact ⟨hleft.1, hleft.2, hright⟩

end JinieServer.Settings

namespace JinieServer.Layer

/-! ## Files that are not there -/

/-- A layer that changes no setting. -/
def GivesNothing (layer : Except SettingsError Layer) : Prop :=
  ∀ value, ¬ Settings.GivesExtension layer value ∧ ¬ Settings.GivesFolder layer value

theorem givesNothing_error (e : SettingsError) : GivesNothing (.error e) := fun value =>
  ⟨Settings.not_givesExtension_error e value, Settings.not_givesFolder_error e value⟩

theorem givesNothing_empty : GivesNothing (.ok {}) := by
  intro value
  rw [Settings.givesExtension_ok_iff, Settings.givesFolder_ok_iff]
  simp

theorem givesNothing_of_missing {world : World} {path : List UInt8}
    (h : world.disk.read path = .error .notFound) : GivesNothing (load world path) := by
  rw [load, h]
  exact givesNothing_empty

end JinieServer.Layer
