import JinieServer.Json.Decode
import Mathlib.Data.List.Basic

/-!
# Records read from the members of an object

A reader goes through the members of an object: one that is named for a field sets it, unless the
field has been set before, and every other member is passed over. So a record is read exactly if
each of its fields stands under its names at most once, with a value that can be read.
-/

namespace JinieServer.Json

/-- The values that stand under one of the names. -/
def under (names : List String) (members : List (String × Json)) : List Json :=
  members.filterMap fun (name, value) => if name ∈ names then some value else none

theorem under_cons_of_mem {names : List String} {name : String} (value : Json)
    (members : List (String × Json)) (h : name ∈ names) :
    under names ((name, value) :: members) = value :: under names members := by
  simp [under, h]

theorem under_cons_of_not_mem {names : List String} {name : String} (value : Json)
    (members : List (String × Json)) (h : name ∉ names) :
    under names ((name, value) :: members) = under names members := by
  simp [under, h]

theorem bind_eq_ok_iff {α β : Type} {x : Except DecodeError α} {f : α → Except DecodeError β}
    {b : β} : x >>= f = .ok b ↔ ∃ a, x = .ok a ∧ f a = .ok b := by
  cases x with
  | error e => simp [bind, Except.bind]
  | ok a => simp [bind, Except.bind]

theorem map_eq_ok_iff {α β : Type} {x : Except DecodeError α} {f : α → β} {b : β} :
    x.map f = .ok b ↔ ∃ a, x = .ok a ∧ f a = b := by
  cases x with
  | error e => simp [Except.map]
  | ok a => simp [Except.map]

/-! ## One field -/

/-- A field of a record: its name in errors, the names under which it may stand, and how its value
is read. -/
structure Slot (α : Type) where
  label : String
  names : List String
  read : Json → Except DecodeError α

namespace Slot

variable {α β σ : Type}

/-- Sets a field to each of the values in turn. -/
def fill (slot : Slot α) (seen : Option α) (values : List Json) :
    Except DecodeError (Option α) :=
  values.foldlM (fun seen value => once slot.label seen (slot.read value)) seen

/-- What the values for a field make of it: there is none, or the only one can be read. -/
inductive Given (slot : Slot α) : List Json → Option α → Prop where
  | missing : Given slot [] none
  | once {value : Json} {a : α} (h : slot.read value = .ok a) : Given slot [value] (some a)

theorem fill_cons (slot : Slot α) (seen : Option α) (value : Json) (values : List Json) :
    slot.fill seen (value :: values) =
      once slot.label seen (slot.read value) >>= fun seen => slot.fill seen values := by
  simp only [fill, List.foldlM_cons]

theorem fill_some_eq_ok_iff {slot : Slot α} {a : α} {values : List Json} {found : Option α} :
    slot.fill (some a) values = .ok found ↔ values = [] ∧ found = some a := by
  cases values with
  | nil => simp [fill, pure, Except.pure, eq_comm]
  | cons value values => simp [fill_cons, Json.once, bind, Except.bind]

theorem fill_none_eq_ok_iff {slot : Slot α} {values : List Json} {found : Option α} :
    slot.fill none values = .ok found ↔ slot.Given values found := by
  cases values with
  | nil =>
    constructor
    · intro h
      obtain rfl : none = found := Except.ok.inj h
      exact .missing
    · rintro ⟨⟩
      rfl
  | cons value values =>
    rw [fill_cons, bind_eq_ok_iff]
    simp only [Json.once, map_eq_ok_iff]
    constructor
    · rintro ⟨-, ⟨a, hread, rfl⟩, hrest⟩
      obtain ⟨rfl, rfl⟩ := fill_some_eq_ok_iff.mp hrest
      exact .once hread
    · rintro (⟨⟩ | hread)
      exact ⟨_, ⟨_, hread, rfl⟩, fill_some_eq_ok_iff.mpr ⟨rfl, rfl⟩⟩

/-! ## Two fields -/

/-- A reader that goes through the members of an object and keeps two fields: each member sets the
field that it is named for. -/
structure ReadsTwo (step : σ → String × Json → Except DecodeError σ)
    (keep : Option α → Option β → σ) (one : Slot α) (two : Slot β) : Prop where
  first : ∀ a b {name} value, name ∈ one.names →
    step (keep a b) (name, value) = (Json.once one.label a (one.read value)).map (keep · b)
  second : ∀ a b {name} value, name ∈ two.names →
    step (keep a b) (name, value) = (Json.once two.label b (two.read value)).map (keep a)
  other : ∀ seen {name} value, name ∉ one.names → name ∉ two.names →
    step seen (name, value) = .ok seen
  apart : ∀ name ∈ one.names, name ∉ two.names

variable {step : σ → String × Json → Except DecodeError σ} {keep : Option α → Option β → σ}
  {one : Slot α} {two : Slot β}

theorem ReadsTwo.foldlM_eq_ok_iff_fill (h : ReadsTwo step keep one two) {a : Option α}
    {b : Option β} {members : List (String × Json)} {seen : σ} :
    members.foldlM step (keep a b) = .ok seen ↔
      ∃ a' b', seen = keep a' b' ∧ one.fill a (under one.names members) = .ok a' ∧
        two.fill b (under two.names members) = .ok b' := by
  -- Only what is read is compared: the first error may come from either field.
  induction members generalizing a b with
  | nil =>
    constructor
    · intro hend
      exact ⟨a, b, (Except.ok.inj hend).symm, rfl, rfl⟩
    · rintro ⟨a', b', rfl, hone, htwo⟩
      obtain rfl : a = a' := Except.ok.inj hone
      obtain rfl : b = b' := Except.ok.inj htwo
      rfl
  | cons member members ih =>
    obtain ⟨name, value⟩ := member
    rw [List.foldlM_cons, bind_eq_ok_iff]
    by_cases hone : name ∈ one.names
    · rw [under_cons_of_mem value members hone,
        under_cons_of_not_mem value members (h.apart name hone), h.first a b value hone]
      simp only [map_eq_ok_iff, fill_cons, bind_eq_ok_iff]
      constructor
      · rintro ⟨-, ⟨a₁, hset, rfl⟩, hrest⟩
        obtain ⟨a', b', hseen, hfirst, hsecond⟩ := ih.mp hrest
        exact ⟨a', b', hseen, ⟨a₁, hset, hfirst⟩, hsecond⟩
      · rintro ⟨a', b', hseen, ⟨a₁, hset, hfirst⟩, hsecond⟩
        exact ⟨_, ⟨a₁, hset, rfl⟩, ih.mpr ⟨a', b', hseen, hfirst, hsecond⟩⟩
    by_cases htwo : name ∈ two.names
    · rw [under_cons_of_mem value members htwo, under_cons_of_not_mem value members hone,
        h.second a b value htwo]
      simp only [map_eq_ok_iff, fill_cons, bind_eq_ok_iff]
      constructor
      · rintro ⟨-, ⟨b₁, hset, rfl⟩, hrest⟩
        obtain ⟨a', b', hseen, hfirst, hsecond⟩ := ih.mp hrest
        exact ⟨a', b', hseen, hfirst, ⟨b₁, hset, hsecond⟩⟩
      · rintro ⟨a', b', hseen, hfirst, ⟨b₁, hset, hsecond⟩⟩
        exact ⟨_, ⟨b₁, hset, rfl⟩, ih.mpr ⟨a', b', hseen, hfirst, hsecond⟩⟩
    · rw [under_cons_of_not_mem value members hone, under_cons_of_not_mem value members htwo,
        h.other _ value hone htwo]
      simp [ih]

theorem ReadsTwo.foldlM_eq_ok_iff (h : ReadsTwo step keep one two)
    {members : List (String × Json)} {seen : σ} :
    members.foldlM step (keep none none) = .ok seen ↔
      ∃ a b, seen = keep a b ∧ one.Given (under one.names members) a ∧
        two.Given (under two.names members) b := by
  simp only [h.foldlM_eq_ok_iff_fill, fill_none_eq_ok_iff]

theorem ReadsTwo.foldlM_filter (h : ReadsTwo step keep one two) (seen : σ)
    (members : List (String × Json)) :
    (members.filter fun (name, _) => name ∈ one.names ++ two.names).foldlM step seen =
      members.foldlM step seen := by
  induction members generalizing seen with
  | nil => rfl
  | cons member members ih =>
    obtain ⟨name, value⟩ := member
    by_cases hname : name ∈ one.names ++ two.names
    · rw [List.filter_cons_of_pos (by simpa using hname), List.foldlM_cons, List.foldlM_cons]
      simp only [ih]
    · rw [List.filter_cons_of_neg (by simpa using hname), List.foldlM_cons, ih]
      rw [List.mem_append, not_or] at hname
      rw [h.other seen value hname.1 hname.2]
      rfl

end Slot

end JinieServer.Json
