import JinieServer.Relay.Navigation
import Mathlib.Data.List.Nodup

/-!
# Runs of the relay

A run is a list of calls, and for each of them the answers that the editor gives at that time.
`Ends` lists the ways in which one call can end. It follows that a whole run opens no file that is
open already and selects in open files only.
-/

namespace JinieServer.Relay

open JinieServer.Definition

/-! ## Calls -/

inductive Call where
  | follow (target : Target)
  | notification (method : String) (params : Json)

def Call.target? : Call → Option Target
  | .follow target => some target
  | .notification method params =>
    if method = Protocol.openFileMethod then (targetOf params).toOption else none

/-- The call asks for a place in a file. -/
def Call.Seeks (call : Call) (url : Url) (position : Position) : Prop :=
  ∃ target, call.target? = some target ∧ Url.parse? target.uri.toList = some url ∧
    target.position = position

def Outcome.handled (outcome : Outcome Unit) : Outcome Bool :=
  ⟨outcome.opened, outcome.actions, outcome.result.map fun () => true⟩

/-- Does what a call asks for. A target that was followed counts as a message that was handled. -/
def Call.perform (editor : Editor) (opened : List Url) : Call → Outcome Bool
  | .follow target => (handle editor opened target).handled
  | .notification method params => handleNotification editor opened method params

/-! ## Events -/

/-- Something that was asked of the editor, and the text of the failure if it failed. -/
structure Event where
  action : Action
  failure : Option String
deriving DecidableEq, Repr

def Editor.answer (editor : Editor) : Action → Option String
  | .openFile url => editor.opening url
  | .select url range => editor.selecting url range

/-- The files that were opened. -/
def openings (events : List Event) : List Url :=
  events.filterMap fun
    | ⟨.openFile url, none⟩ => some url
    | _ => none

/-- The selections that were attempted. -/
def selections (events : List Event) : List (Url × Range) :=
  events.filterMap fun
    | ⟨.select url range, _⟩ => some (url, range)
    | _ => none

theorem openings_append (first second : List Event) :
    openings (first ++ second) = openings first ++ openings second := List.filterMap_append

/-! ## Runs -/

/-- A call of a run: the editor's answers to it, and the files that are open before it. -/
structure Turn where
  editor : Editor
  opened : List Url
  call : Call

def Turn.outcome (turn : Turn) : Outcome Bool := turn.call.perform turn.editor turn.opened

def Turn.events (turn : Turn) : List Event :=
  turn.outcome.actions.map fun action => ⟨action, turn.editor.answer action⟩

def turns (opened : List Url) : List (Editor × Call) → List Turn
  | [] => []
  | (editor, call) :: rest =>
    let turn : Turn := ⟨editor, opened, call⟩
    turn :: turns turn.outcome.opened rest

def trace (opened : List Url) (calls : List (Editor × Call)) : List Event :=
  (turns opened calls).flatMap Turn.events

/-! ## One call -/

/-- Results that say that a call was not for the editor. -/
inductive Refusal : Except RelayError Bool → Prop where
  | unknown : Refusal (.ok false)
  | malformed (cause : DecodeError) : Refusal (.error (.malformedParams cause))
  | invalid (uri : String) : Refusal (.error (.invalidUri uri))

def selectionResult : (failure : Option String) → Except RelayError Bool
  | none => .ok true
  | some text => .error (.editor text)

/-- How a call can end: the files that are open then, what happened, and the result. -/
inductive Ends (turn : Turn) : List Url → List Event → Except RelayError Bool → Prop where
  | refused {result : Except RelayError Bool} (hno : ∀ url position, ¬ turn.call.Seeks url position)
    (h : Refusal result) : Ends turn turn.opened [] result
  | unopened {url : Url} {position : Position} {text : String}
    (hseeks : turn.call.Seeks url position) (hnew : url ∉ turn.opened) :
    Ends turn turn.opened [⟨.openFile url, some text⟩] (.error (.editor text))
  | selected {url : Url} {position : Position} {failure : Option String}
    (hseeks : turn.call.Seeks url position) (hopen : url ∈ turn.opened) :
    Ends turn turn.opened [⟨.select url ⟨position, position⟩, failure⟩] (selectionResult failure)
  | openedFirst {url : Url} {position : Position} {failure : Option String}
    (hseeks : turn.call.Seeks url position) (hnew : url ∉ turn.opened) :
    Ends turn (url :: turn.opened)
      [⟨.openFile url, none⟩, ⟨.select url ⟨position, position⟩, failure⟩]
      (selectionResult failure)

theorem handleNotification_of_targetOf {params : Json} {target : Target} (editor : Editor)
    (opened : List Url) (h : targetOf params = .ok target) :
    handleNotification editor opened Protocol.openFileMethod params =
      (handle editor opened target).handled := by
  simp [handleNotification, h, Outcome.handled]

/-- A call brings no target and is refused, or does the same as following its target. -/
theorem perform_cases (editor : Editor) (opened : List Url) (call : Call) :
    (call.target? = none ∧ ∃ result, Refusal result ∧
        call.perform editor opened = ⟨opened, [], result⟩) ∨
      ∃ target, call.target? = some target ∧
        call.perform editor opened = (handle editor opened target).handled := by
  cases call with
  | follow target => exact Or.inr ⟨target, rfl, rfl⟩
  | notification method params =>
    by_cases hmethod : method = Protocol.openFileMethod
    case neg =>
      left
      refine ⟨by simp [Call.target?, hmethod], _, .unknown, ?_⟩
      simp [Call.perform, handleNotification, hmethod]
    subst hmethod
    cases htarget : targetOf params with
    | error cause =>
      left
      refine ⟨by simp [Call.target?, htarget, Except.toOption], _, .malformed cause, ?_⟩
      simp [Call.perform, handleNotification, htarget]
    | ok target =>
      right
      refine ⟨target, by simp [Call.target?, htarget, Except.toOption], ?_⟩
      exact handleNotification_of_targetOf editor opened htarget

/-! ### Following a target -/

theorem result_select (editor : Editor) (opened : List Url) (url : Url) (position : Position) :
    (select editor opened url position).handled.result =
      selectionResult (editor.selecting url ⟨position, position⟩) := by
  unfold select Outcome.handled Range.at
  cases editor.selecting url ⟨position, position⟩ <;> rfl

theorem follow_of_mem {editor : Editor} {opened : List Url} {url : Url} (position : Position)
    (h : url ∈ opened) :
    follow editor opened url position = select editor opened url position := by
  simp [follow, h]

theorem follow_of_not_mem {editor : Editor} {opened : List Url} {url : Url} (position : Position)
    (h : url ∉ opened) (hopening : editor.opening url = none) :
    follow editor opened url position =
      ⟨url :: opened, [.openFile url, .select url ⟨position, position⟩],
        (select editor (url :: opened) url position).result⟩ := by
  simp [follow, h, hopening, select, Range.at]

theorem follow_of_unopened {editor : Editor} {opened : List Url} {url : Url} {text : String}
    (position : Position) (h : url ∉ opened) (hopening : editor.opening url = some text) :
    follow editor opened url position = ⟨opened, [.openFile url], .error (.editor text)⟩ := by
  simp [follow, h, hopening]

theorem ends_of_follow {turn : Turn} {url : Url} {position : Position}
    (hseeks : turn.call.Seeks url position)
    (h : turn.outcome = (follow turn.editor turn.opened url position).handled) :
    Ends turn turn.outcome.opened turn.events turn.outcome.result := by
  rw [Turn.events, h]
  by_cases hopen : url ∈ turn.opened
  case pos =>
    rw [follow_of_mem position hopen, result_select]
    exact .selected hseeks hopen
  case neg =>
    cases hopening : turn.editor.opening url with
    | some text =>
      rw [follow_of_unopened position hopen hopening]
      simp only [Outcome.handled, List.map_cons, List.map_nil, Editor.answer, hopening]
      exact .unopened hseeks hopen
    | none =>
      have hresult := result_select turn.editor (url :: turn.opened) url position
      rw [follow_of_not_mem position hopen hopening]
      simp only [Outcome.handled, List.map_cons, List.map_nil, Editor.answer, hopening] at hresult ⊢
      rw [hresult]
      exact .openedFirst hseeks hopen

/-! ### All calls -/

theorem ends (turn : Turn) : Ends turn turn.outcome.opened turn.events turn.outcome.result := by
  rcases perform_cases turn.editor turn.opened turn.call with
    ⟨hnone, result, hrefusal, hperform⟩ | ⟨target, htarget, hperform⟩
  · have hno : ∀ url position, ¬ turn.call.Seeks url position := by
      rintro url position ⟨target, htarget, -⟩
      simp [hnone] at htarget
    rw [Turn.events, Turn.outcome, hperform]
    exact .refused hno hrefusal
  · cases hurl : Url.parse? target.uri.toList with
    | none =>
      have hno : ∀ url position, ¬ turn.call.Seeks url position := by
        rintro url position ⟨other, hother, hparsed, -⟩
        obtain rfl : target = other := by simpa [htarget] using hother
        simp [hurl] at hparsed
      rw [Turn.events, Turn.outcome, hperform, handle, hurl]
      exact .refused hno (.invalid target.uri)
    | some url =>
      have hfollow : turn.outcome =
          (follow turn.editor turn.opened url target.position).handled := by
        rw [Turn.outcome, hperform, handle, hurl]
      exact ends_of_follow ⟨target, htarget, hurl, rfl⟩ hfollow

/-! ## The rules of one call -/

structure Orderly (call : Call) (events : List Event) (result : Except RelayError Bool) :
    Prop where
  /-- At most one selection is attempted. -/
  once : (selections events).length ≤ 1
  /-- It is an empty range at the place that the call asks for. -/
  atTarget : ∀ url range, (url, range) ∈ selections events →
    ∃ target, call.target? = some target ∧ Url.parse? target.uri.toList = some url ∧
      range = ⟨target.position, target.position⟩
  /-- The call succeeds exactly if the selection does. -/
  succeeds : result = .ok true ↔ ∃ url range, ⟨.select url range, none⟩ ∈ events
  /-- Nothing is selected in a file that could not be opened. -/
  unopened : ∀ url text, ⟨.openFile url, some text⟩ ∈ events → selections events = []
  /-- A call that is refused asks nothing of the editor. -/
  refused : Refusal result → events = []
  /-- A call that asks nothing of the editor has no place to go to. -/
  idle : events = [] → ∀ url position, ¬ call.Seeks url position
  /-- The editor is blamed for a failure of its own. -/
  blames : ∀ text, result = .error (.editor text) → ∃ action, ⟨action, some text⟩ ∈ events

theorem selectionResult_eq_ok_iff {failure : Option String} :
    selectionResult failure = .ok true ↔ failure = none := by
  cases failure <;> simp [selectionResult]

theorem selectionResult_eq_error_iff {failure : Option String} {text : String} :
    selectionResult failure = .error (.editor text) ↔ failure = some text := by
  cases failure <;> simp [selectionResult]

theorem not_refusal_selectionResult (failure : Option String) :
    ¬ Refusal (selectionResult failure) := by
  cases failure <;> rintro ⟨⟩

theorem orderly_of_selection {call : Call} {url : Url} {position : Position} (files : List Url)
    (failure : Option String) (hseeks : call.Seeks url position) :
    Orderly call
      (files.map (⟨.openFile ·, none⟩) ++ [⟨.select url ⟨position, position⟩, failure⟩])
      (selectionResult failure) := by
  constructor
  case once => simp [selections]
  case atTarget =>
    intro other range hmem
    obtain ⟨rfl, rfl⟩ : other = url ∧ range = ⟨position, position⟩ := by
      simpa [selections] using hmem
    obtain ⟨target, htarget, hurl, rfl⟩ := hseeks
    exact ⟨target, htarget, hurl, rfl⟩
  case succeeds => simp [selectionResult_eq_ok_iff, @eq_comm _ none]
  case unopened => simp
  case refused => exact fun h => absurd h (not_refusal_selectionResult failure)
  case idle => simp
  case blames =>
    intro text h
    exact ⟨.select url ⟨position, position⟩, by simp [selectionResult_eq_error_iff.mp h]⟩

theorem orderly_of_ends {turn : Turn} {opened : List Url} {events : List Event}
    {result : Except RelayError Bool} (h : Ends turn opened events result) :
    Orderly turn.call events result := by
  cases h with
  | refused hno h =>
    constructor
    case once => simp [selections]
    case atTarget => simp [selections]
    case succeeds => cases h <;> simp
    case unopened => simp
    case refused => exact fun _ => rfl
    case idle => exact fun _ => hno
    case blames => cases h <;> simp
  | unopened hseeks hnew =>
    constructor
    case once => simp [selections]
    case atTarget => simp [selections]
    case succeeds => simp
    case unopened => simp [selections]
    case refused => rintro ⟨⟩
    case idle => simp
    case blames => simp
  | selected hseeks hopen => exact orderly_of_selection [] _ hseeks
  | openedFirst hseeks hnew => exact orderly_of_selection [_] _ hseeks

/-! ## The rules of a run -/

/-- What holds of a whole run from the files that are open at its start. -/
structure Safe (opened : List Url) (events : List Event) : Prop where
  /-- No file is opened twice. -/
  once : (openings events).Nodup
  /-- No file is opened that was open at the start. -/
  fresh : ∀ url ∈ openings events, url ∉ opened
  /-- A selection is attempted in files only that are open by then. -/
  inOpen : ∀ before url range failure after,
    events = before ++ ⟨.select url range, failure⟩ :: after →
    url ∈ opened ∨ url ∈ openings before

theorem safe_nil (opened : List Url) : Safe opened [] := by
  constructor <;> simp [openings]

theorem safe_opening {opened : List Url} {url : Url} (failure : Option String)
    (h : url ∉ opened) : Safe opened [⟨.openFile url, failure⟩] := by
  cases failure <;> constructor <;> simp [openings, h, List.cons_eq_append_iff]

theorem safe_selection {opened : List Url} {url : Url} (range : Range) (failure : Option String)
    (h : url ∈ opened) : Safe opened [⟨.select url range, failure⟩] := by
  constructor <;> simp +contextual [openings, h, List.cons_eq_append_iff]

theorem Safe.append {opened : List Url} {first second : List Event} (hfirst : Safe opened first)
    (hsecond : Safe (openings first ++ opened) second) : Safe opened (first ++ second) := by
  constructor
  case once =>
    rw [openings_append, List.nodup_append']
    refine ⟨hfirst.once, hsecond.once, ?_⟩
    intro url hmem hagain
    exact hsecond.fresh url hagain (List.mem_append_left _ hmem)
  case fresh =>
    intro url hmem
    rw [openings_append, List.mem_append] at hmem
    rcases hmem with hmem | hmem
    · exact hfirst.fresh url hmem
    · exact fun hopen => hsecond.fresh url hmem (List.mem_append_right _ hopen)
  case inOpen =>
    intro before url range failure after heq
    -- The selection stands in the second part, or in the first.
    rcases List.append_eq_append_iff.mp heq with ⟨middle, rfl, hrest⟩ | ⟨middle, rfl, hrest⟩
    · have hopen := hsecond.inOpen middle url range failure after hrest
      rw [openings_append]
      simp only [List.mem_append] at hopen ⊢
      tauto
    · cases middle with
      | nil =>
        have hopen := hsecond.inOpen [] url range failure after hrest.symm
        simpa [openings, or_comm] using hopen
      | cons event middle =>
        obtain ⟨rfl, -⟩ := List.cons.inj hrest
        exact hfirst.inOpen before url range failure middle rfl

theorem safe_of_ends {turn : Turn} {opened : List Url} {events : List Event}
    {result : Except RelayError Bool} (h : Ends turn opened events result) :
    Safe turn.opened events ∧ opened = openings events ++ turn.opened := by
  cases h with
  | refused hno h => exact ⟨safe_nil _, rfl⟩
  | unopened hseeks hnew => exact ⟨safe_opening _ hnew, rfl⟩
  | selected hseeks hopen => exact ⟨safe_selection _ _ hopen, rfl⟩
  | openedFirst hseeks hnew =>
    exact ⟨(safe_opening none hnew).append (safe_selection _ _ List.mem_cons_self), rfl⟩

theorem turns_cons (opened : List Url) (editor : Editor) (call : Call)
    (rest : List (Editor × Call)) :
    turns opened ((editor, call) :: rest) =
      ⟨editor, opened, call⟩ ::
        turns (openings (Turn.events ⟨editor, opened, call⟩) ++ opened) rest := by
  have hopened := (safe_of_ends (ends ⟨editor, opened, call⟩)).2
  rw [turns, hopened]

theorem safe_trace (opened : List Url) (calls : List (Editor × Call)) :
    Safe opened (trace opened calls) := by
  induction calls generalizing opened with
  | nil => exact safe_nil opened
  | cons pair calls ih =>
    obtain ⟨editor, call⟩ := pair
    rw [trace, turns_cons, List.flatMap_cons]
    exact (safe_of_ends (ends ⟨editor, opened, call⟩)).1.append (ih _)

theorem mem_opened_iff {opened : List Url} {calls : List (Editor × Call)} {before after : List Turn}
    {turn : Turn} (h : turns opened calls = before ++ turn :: after) (url : Url) :
    url ∈ turn.opened ↔ url ∈ opened ∨ url ∈ openings (before.flatMap Turn.events) := by
  induction calls generalizing opened before with
  | nil => simp [turns] at h
  | cons pair calls ih =>
    obtain ⟨editor, call⟩ := pair
    rw [turns_cons] at h
    cases before with
    | nil =>
      obtain ⟨rfl, -⟩ := List.cons.inj h
      simp [openings]
    | cons first before =>
      obtain ⟨rfl, hrest⟩ := List.cons.inj h
      rw [ih hrest, List.flatMap_cons, openings_append, List.mem_append, List.mem_append]
      tauto

/-! ## The theorem -/

/-- Over every run, no file is opened that is open already, a selection is attempted in open files
only, and each call keeps its rules. -/
theorem relay_run_keeps_rules (opened : List Url) (calls : List (Editor × Call)) :
    Safe opened (trace opened calls) ∧
      ∀ before turn after, turns opened calls = before ++ turn :: after →
        (∀ url, url ∈ turn.opened ↔
          url ∈ opened ∨ url ∈ openings (before.flatMap Turn.events)) ∧
        Orderly turn.call turn.events turn.outcome.result := by
  refine ⟨safe_trace opened calls, ?_⟩
  intro before turn after h
  exact ⟨mem_opened_iff h, orderly_of_ends (ends turn)⟩

def spacedFile : Url := ⟨"file".toList, some {}, .segments ["a%20b".toList], none, none⟩

/-- A file is sought under three spellings, by an editor that first fails to open it and then fails
to select in it. Messages without a target stand between. -/
def retriedCalls : List (Editor × Call) :=
  [(⟨fun _ => some "busy", fun _ _ => none⟩, .follow ⟨"FILE:///w/../a b", ⟨2, 5⟩⟩),
    (⟨fun _ => none, fun _ _ => none⟩, .notification "window/logMessage" .null),
    (⟨fun _ => none, fun _ _ => some "gone"⟩, .follow ⟨"file:///a%20b", ⟨2, 5⟩⟩),
    (⟨fun _ => none, fun _ _ => none⟩, .notification "textDocument/definition" .null),
    (⟨fun _ => none, fun _ _ => none⟩, .follow ⟨"a b", ⟨2, 5⟩⟩),
    (⟨fun _ => none, fun _ _ => none⟩, .notification "textDocument/definition" (.obj [
      ("position", .obj [("character", .int 5), ("line", .int 2)]),
      ("uri", .str "file:\\\\\\a b")]))]

theorem retriedCalls_open_once :
    trace [] retriedCalls =
      [⟨.openFile spacedFile, some "busy"⟩, ⟨.openFile spacedFile, none⟩,
        ⟨.select spacedFile ⟨⟨2, 5⟩, ⟨2, 5⟩⟩, some "gone"⟩,
        ⟨.select spacedFile ⟨⟨2, 5⟩, ⟨2, 5⟩⟩, none⟩] ∧
      Safe [] (trace [] retriedCalls) := by
  refine ⟨by decide +kernel, ?_⟩
  exact (relay_run_keeps_rules [] retriedCalls).1

end JinieServer.Relay
