import JinieServer.Proofs.Json.Members
import JinieServer.Proofs.Relay.Notification

/-!
# The messages that the relay takes

`TargetForm` is the grammar of a target: an object or an array, with a position in it that is an
object or an array too, and whole numbers that fit into a word. The relay takes a message exactly
if it has the right method and a target of this form, and then does what following the target does.
-/

namespace JinieServer.Relay

open JinieServer.Definition JinieServer.Json

/-! ## The grammar -/

/-- The forms of a record of two fields: an object with one value under each of the names, whatever
else it holds, or an array of the two values. -/
inductive PairForm (first second : String) : Json → Json → Json → Prop where
  | object {members : List (String × Json)} {one two : Json} (h : under [first] members = [one])
    (h' : under [second] members = [two]) : PairForm first second (.obj members) one two
  | array {one two : Json} : PairForm first second (.arr [one, two]) one two

/-- A whole number that is a word as it stands. -/
inductive WordForm : Json → UInt32 → Prop where
  | int {n : Int} {word : UInt32} (hlow : 0 ≤ n) (hhigh : n < 2 ^ 32) (h : word.toNat = n) :
    WordForm (.int n) word

def PositionForm (value : Json) (position : Position) : Prop :=
  ∃ line character, PairForm "line" "character" value line character ∧
    WordForm line position.line ∧ WordForm character position.character

def TargetForm (value : Json) (target : Target) : Prop :=
  ∃ place, PairForm "uri" "position" value (.str target.uri) place ∧
    PositionForm place target.position

/-! ## Reading by the grammar -/

section Pair

variable {α β : Type} {label first second : String} {asFirst : Json → Except DecodeError α}
  {asSecond : Json → Except DecodeError β} {a : α} {b : β}

theorem readsTwo_addMember (hne : first ≠ second) :
    Slot.ReadsTwo (addMember first second asFirst asSecond) Prod.mk
      ⟨first, [first], asFirst⟩ ⟨second, [second], asSecond⟩ where
  first a b name value h := by
    simp only [addMember, List.mem_singleton.mp h, if_true]
    rfl
  second a b name value h := by
    simp only [addMember, List.mem_singleton.mp h, hne.symm, if_false, if_true]
    rfl
  other seen name value h h' := by
    rw [List.mem_singleton] at h h'
    simp only [addMember, h, h', if_false]
    rfl
  apart := by simpa using hne

theorem required_eq_ok_iff {name : String} {seen : Option α} :
    required name seen = .ok a ↔ seen = some a := by
  cases seen <;> simp [required]

theorem given_some_iff (slot : Slot α) {values : List Json} :
    slot.Given values (some a) ↔ ∃ value, values = [value] ∧ slot.read value = .ok a := by
  constructor
  · rintro (_ | h)
    exact ⟨_, rfl, h⟩
  · rintro ⟨value, rfl, h⟩
    exact .once h

theorem readPair_obj_eq_ok_iff (hne : first ≠ second) {members : List (String × Json)} :
    readPair label first second asFirst asSecond (.obj members) = .ok (a, b) ↔
      ∃ one two, PairForm first second (.obj members) one two ∧ asFirst one = .ok a ∧
        asSecond two = .ok b := by
  simp only [readPair, bind_eq_ok_iff, (readsTwo_addMember hne).foldlM_eq_ok_iff]
  constructor
  · rintro ⟨-, ⟨a', b', rfl, hone, htwo⟩, a₁, ha, b₁, hb, hpair⟩
    obtain ⟨rfl, rfl⟩ : a₁ = a ∧ b₁ = b := by simpa using Except.ok.inj hpair
    obtain rfl := required_eq_ok_iff.mp ha
    obtain rfl := required_eq_ok_iff.mp hb
    obtain ⟨one, hfirst, hread⟩ := (given_some_iff _).mp hone
    obtain ⟨two, hsecond, hread'⟩ := (given_some_iff _).mp htwo
    exact ⟨one, two, .object hfirst hsecond, hread, hread'⟩
  · rintro ⟨one, two, ⟨hfirst, hsecond⟩, hread, hread'⟩
    have hone := (given_some_iff ⟨first, [first], asFirst⟩).mpr ⟨one, hfirst, hread⟩
    have htwo := (given_some_iff ⟨second, [second], asSecond⟩).mpr ⟨two, hsecond, hread'⟩
    exact ⟨_, ⟨some a, some b, rfl, hone, htwo⟩, a, rfl, b, rfl, rfl⟩

theorem pairForm_arr_iff {items : List Json} {one two : Json} :
    PairForm first second (.arr items) one two ↔ items = [one, two] := by
  constructor
  · rintro ⟨⟩
    rfl
  · rintro rfl
    exact .array

theorem readPair_arr_eq_ok_iff {items : List Json} :
    readPair label first second asFirst asSecond (.arr items) = .ok (a, b) ↔
      ∃ one two, PairForm first second (.arr items) one two ∧ asFirst one = .ok a ∧
        asSecond two = .ok b := by
  simp only [pairForm_arr_iff]
  rcases items with _ | ⟨one, _ | ⟨two, _ | ⟨three, more⟩⟩⟩
  · simp [readPair]
  · simp [readPair, bind_eq_ok_iff]
  · simp [readPair, noMore, bind_eq_ok_iff, pure, Except.pure, and_assoc]
  · simp [readPair, noMore, bind_eq_ok_iff]

theorem readPair_eq_ok_iff (hne : first ≠ second) {value : Json} :
    readPair label first second asFirst asSecond value = .ok (a, b) ↔
      ∃ one two, PairForm first second value one two ∧ asFirst one = .ok a ∧
        asSecond two = .ok b := by
  cases value with
  | obj members => exact readPair_obj_eq_ok_iff hne
  | arr items => exact readPair_arr_eq_ok_iff
  | null => exact ⟨nofun, nofun⟩
  | bool b => exact ⟨nofun, nofun⟩
  | int n => exact ⟨nofun, nofun⟩
  | real negative size => exact ⟨nofun, nofun⟩
  | str s => exact ⟨nofun, nofun⟩

end Pair

theorem asString_eq_ok_iff {value : Json} {s : String} :
    value.asString = .ok s ↔ value = .str s := by
  cases value <;> simp [asString]

theorem asWord_eq_ok_iff {value : Json} {word : UInt32} :
    value.asWord = .ok word ↔ WordForm value word := by
  constructor
  · intro h
    cases value with
    | int n =>
      simp only [asWord] at h
      split at h
      case isTrue hrange =>
        obtain rfl := Except.ok.inj h
        refine .int hrange.1 hrange.2 ?_
        rw [UInt32.toNat_ofNat']
        omega
      case isFalse => cases h
    | null => cases h
    | bool b => cases h
    | real negative size => cases h
    | str s => cases h
    | arr items => cases h
    | obj members => cases h
  · rintro ⟨-, -, rfl⟩
    exact asWord_toNat word

theorem positionOf_eq_ok_iff {value : Json} {position : Position} :
    positionOf value = .ok position ↔ PositionForm value position := by
  have hpair : positionOf value = .ok position ↔
      readPair "struct Position" "line" "character" asWord asWord value =
        .ok (position.line, position.character) := by
    simp only [positionOf, bind_eq_ok_iff]
    constructor
    · rintro ⟨⟨line, character⟩, hread, hmade⟩
      obtain rfl := Except.ok.inj hmade
      exact hread
    · intro hread
      exact ⟨_, hread, rfl⟩
  rw [hpair, readPair_eq_ok_iff (by decide)]
  simp only [asWord_eq_ok_iff]
  rfl

theorem targetOf_eq_ok_iff {value : Json} {target : Target} :
    targetOf value = .ok target ↔ TargetForm value target := by
  have hpair : targetOf value = .ok target ↔
      readPair "struct GotoOtherFileParams" "uri" "position" asString positionOf value =
        .ok (target.uri, target.position) := by
    simp only [targetOf, bind_eq_ok_iff]
    constructor
    · rintro ⟨⟨uri, position⟩, hread, hmade⟩
      obtain rfl := Except.ok.inj hmade
      exact hread
    · intro hread
      exact ⟨_, hread, rfl⟩
  rw [hpair, readPair_eq_ok_iff (by decide), TargetForm]
  simp only [asString_eq_ok_iff, positionOf_eq_ok_iff]
  constructor
  · rintro ⟨one, place, hform, rfl, hplace⟩
    exact ⟨place, hform, hplace⟩
  · rintro ⟨place, hform, hplace⟩
    exact ⟨_, place, hform, rfl, hplace⟩

/-! ## What the relay answers -/

theorem result_handle {target : Target} {url : Url} (editor : Editor) (opened : List Url)
    (hurl : Url.parse? target.uri.toList = some url) :
    ∃ failure, (handle editor opened target).handled.result = selectionResult failure := by
  have hends := ends ⟨editor, opened, .follow target⟩
  have hresult : Turn.outcome ⟨editor, opened, .follow target⟩ =
      (handle editor opened target).handled := rfl
  rw [hresult] at hends
  generalize (handle editor opened target).handled.result = result at hends ⊢
  generalize (handle editor opened target).handled.opened = after at hends
  generalize Turn.events ⟨editor, opened, .follow target⟩ = events at hends
  cases hends with
  -- Only a target without a URL is refused.
  | refused hno => exact absurd ⟨target, rfl, hurl, rfl⟩ (hno url target.position)
  | @unopened _ _ text => exact ⟨some text, rfl⟩
  | selected => exact ⟨_, rfl⟩
  | openedFirst => exact ⟨_, rfl⟩

theorem result_handle_ne (editor : Editor) (opened : List Url) (target : Target) :
    (handle editor opened target).handled.result ≠ .ok false ∧
      ∀ cause, (handle editor opened target).handled.result ≠ .error (.malformedParams cause) := by
  cases hurl : Url.parse? target.uri.toList with
  | none =>
    have hinvalid : (handle editor opened target).handled.result =
        .error (.invalidUri target.uri) := by
      rw [handle, hurl]
      rfl
    simp [hinvalid]
  | some url =>
    obtain ⟨failure, hresult⟩ := result_handle editor opened hurl
    have hno := not_refusal_selectionResult failure
    rw [hresult]
    constructor
    · intro hfalse
      exact hno (hfalse ▸ .unknown)
    · intro cause hmalformed
      exact hno (hmalformed ▸ .malformed cause)

theorem result_of_malformed {params : Json} (editor : Editor) (opened : List Url)
    (h : ∀ target, ¬ TargetForm params target) :
    ∃ cause, handleNotification editor opened "textDocument/definition" params =
      ⟨opened, [], .error (.malformedParams cause)⟩ := by
  cases hread : targetOf params with
  | error cause => exact ⟨cause, by simp [handleNotification, Protocol.openFileMethod, hread]⟩
  | ok target => exact absurd (targetOf_eq_ok_iff.mp hread) (h target)

theorem handleNotification_of_targetForm {params : Json} {target : Target} (editor : Editor)
    (opened : List Url) (h : TargetForm params target) :
    handleNotification editor opened "textDocument/definition" params =
      (handle editor opened target).handled :=
  handleNotification_of_targetOf editor opened (targetOf_eq_ok_iff.mpr h)

/-! ## The theorem -/

/-- The relay leaves alone exactly the messages of other methods, and refuses exactly those without
a target of the right form. All others are handled as the target in them is followed, and every
target that is written is read again. -/
theorem notification_read_by_grammar (editor : Editor) (opened : List Url) :
    (∀ method params, (handleNotification editor opened method params).result = .ok false ↔
      method ≠ "textDocument/definition") ∧
    (∀ params, (∃ cause,
        (handleNotification editor opened "textDocument/definition" params).result =
          .error (.malformedParams cause)) ↔
      ∀ target, ¬ TargetForm params target) ∧
    (∀ params target, TargetForm params target →
      handleNotification editor opened "textDocument/definition" params =
        (handle editor opened target).handled) ∧
    (∀ params target, targetOf params = .ok target ↔ TargetForm params target) ∧
    (∀ target, targetOf target.toJson = .ok target) := by
  refine ⟨?_, ?_, ?_, ?_, ?_⟩
  · intro method params
    constructor
    · rintro hfalse rfl
      by_cases hform : ∃ target, TargetForm params target
      · obtain ⟨target, htarget⟩ := hform
        rw [handleNotification_of_targetForm editor opened htarget] at hfalse
        exact (result_handle_ne editor opened target).1 hfalse
      · obtain ⟨cause, hmalformed⟩ := result_of_malformed editor opened (not_exists.mp hform)
        rw [hmalformed] at hfalse
        cases hfalse
    · intro hother
      simp [handleNotification, Protocol.openFileMethod, hother]
  · intro params
    constructor
    · rintro ⟨cause, hmalformed⟩ target htarget
      rw [handleNotification_of_targetForm editor opened htarget] at hmalformed
      exact (result_handle_ne editor opened target).2 cause hmalformed
    · intro hno
      obtain ⟨cause, hmalformed⟩ := result_of_malformed editor opened hno
      exact ⟨cause, congrArg Outcome.result hmalformed⟩
  · intro params target
    exact handleNotification_of_targetForm editor opened
  · intro params target
    exact targetOf_eq_ok_iff
  · exact targetOf_toJson

/-- An array with a URI and a position, which is an object with a member too many. -/
def mixedParams (line : Int) : Json :=
  .arr [.str "file:///a", .obj [("character", .int 7), ("kind", .null), ("line", .int line)]]

theorem mixedParams_up_to_last_word :
    handleNotification ⟨fun _ => none, fun _ _ => none⟩ [] "textDocument/definition"
        (mixedParams 4294967295) =
      (handle ⟨fun _ => none, fun _ _ => none⟩ [] ⟨"file:///a", ⟨4294967295, 7⟩⟩).handled ∧
    ∃ cause, (handleNotification ⟨fun _ => none, fun _ _ => none⟩ [] "textDocument/definition"
      (mixedParams 4294967296)).result = .error (.malformedParams cause) := by
  obtain ⟨-, hrefused, htaken, -, -⟩ :=
    notification_read_by_grammar ⟨fun _ => none, fun _ _ => none⟩ []
  constructor
  · refine htaken _ _ ⟨_, .array, _, _, .object rfl rfl, ?_, ?_⟩
    · exact .int (by decide) (by decide) rfl
    · exact .int (by decide) (by decide) rfl
  · refine (hrefused _).mpr ?_
    rintro ⟨uri, position⟩ ⟨place, hform, line, character, hpair, ⟨-, hhigh, -⟩, -⟩
    cases hform
    cases hpair with
    | object hline =>
      obtain rfl : 4294967296 = _ := Json.int.inj (List.singleton_inj.mp hline)
      exact absurd hhigh (by decide)

end JinieServer.Relay
