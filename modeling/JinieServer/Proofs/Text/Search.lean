import JinieServer.Text.Basic

/-!
# Where a text first stands in a text

`before?` finds the first place, `occursIn` only says that there is one.
-/

namespace JinieServer.Text

/-- `needle` stands in `hay` right behind `before`, and at no earlier place. -/
def FirstAt (needle hay before : List Char) : Prop :=
  before ++ needle <+: hay ∧
    ∀ earlier, earlier ++ needle <+: hay → before.length ≤ earlier.length

theorem FirstAt.occurs {needle hay before : List Char} (h : FirstAt needle hay before) :
    needle <:+: hay := by
  obtain ⟨⟨after, rfl⟩, -⟩ := h
  exact ⟨before, after, rfl⟩

theorem FirstAt.unique {needle hay before other : List Char} (h : FirstAt needle hay before)
    (h' : FirstAt needle hay other) : before = other := by
  have hlen : before.length = other.length := Nat.le_antisymm (h.2 _ h'.1) (h'.2 _ h.1)
  have hpre : before <+: hay := (List.prefix_append _ _).trans h.1
  have hpre' : other <+: hay := (List.prefix_append _ _).trans h'.1
  exact (List.prefix_of_prefix_length_le hpre hpre' (by omega)).eq_of_length hlen

/-! ## The search -/

theorem firstAt_nil {needle hay : List Char} (h : needle <+: hay) : FirstAt needle hay [] :=
  ⟨by simpa using h, by simp⟩

theorem firstAt_cons {needle hay before : List Char} (c : Char) (hno : ¬ needle <+: c :: hay)
    (h : FirstAt needle hay before) : FirstAt needle (c :: hay) (c :: before) := by
  refine ⟨by simpa using h.1, ?_⟩
  intro earlier hearlier
  cases earlier with
  | nil => exact absurd hearlier hno
  | cons d earlier =>
    simp only [List.cons_append, List.cons_prefix_cons] at hearlier
    simpa using h.2 earlier hearlier.2

theorem firstAt_of_before? {needle hay before : List Char} (h : before? needle hay = some before) :
    FirstAt needle hay before := by
  induction hay generalizing before with
  | nil =>
    simp only [before?, List.isEmpty_iff] at h
    split at h
    case isTrue hn =>
      obtain rfl : [] = before := by simpa using h
      exact firstAt_nil (by simp [hn])
    case isFalse => simp at h
  | cons c hay ih =>
    simp only [before?, List.isPrefixOf_iff_prefix] at h
    split at h
    case isTrue hpre =>
      obtain rfl : [] = before := by simpa using h
      exact firstAt_nil hpre
    case isFalse hno =>
      obtain ⟨before, hb, rfl⟩ := Option.map_eq_some_iff.mp h
      exact firstAt_cons c hno (ih hb)

theorem before?_eq_none_iff {needle hay : List Char} :
    before? needle hay = none ↔ ¬ needle <:+: hay := by
  induction hay with
  | nil => simp [before?]
  | cons c hay ih =>
    simp only [before?, List.isPrefixOf_iff_prefix, List.infix_cons_iff, not_or]
    split
    case isTrue hpre => simp [hpre]
    case isFalse hno => simp [hno, ih]

theorem before?_eq_some_iff {needle hay before : List Char} :
    before? needle hay = some before ↔ FirstAt needle hay before := by
  constructor
  · exact firstAt_of_before?
  · intro h
    cases hb : before? needle hay with
    | none => exact absurd h.occurs (before?_eq_none_iff.mp hb)
    | some other => rw [(firstAt_of_before? hb).unique h]

theorem occursIn_iff {needle hay : List Char} : occursIn needle hay = true ↔ needle <:+: hay := by
  cases hb : before? needle hay with
  | none => simpa [occursIn, hb] using before?_eq_none_iff.mp hb
  | some before => simpa [occursIn, hb] using (firstAt_of_before? hb).occurs

/-! ## Searching a text in two parts -/

theorem before?_append_of_occurs {needle front : List Char} (rest : List Char)
    (h : needle <:+: front) : before? needle (front ++ rest) = before? needle front := by
  cases hb : before? needle front with
  | none => exact absurd h (before?_eq_none_iff.mp hb)
  | some before =>
    obtain ⟨hpre, hleast⟩ := firstAt_of_before? hb
    refine before?_eq_some_iff.mpr ⟨List.prefix_append_of_prefix hpre, ?_⟩
    intro earlier hearlier
    apply Nat.le_of_not_lt
    intro hlt
    -- A place further left ends further left too, so it lies within the first part.
    have hlen : (earlier ++ needle).length ≤ front.length := by
      have := hpre.length_le
      simp at this ⊢
      omega
    have := hleast earlier
      (List.prefix_of_prefix_length_le hearlier (List.prefix_append _ _) hlen)
    omega

theorem prefix_of_prefix_append_cons {needle front rest : List Char} {mark : Char}
    (hmark : mark ∉ needle) (h : needle <+: front ++ mark :: rest) : needle <+: front := by
  induction front generalizing needle with
  | nil =>
    cases needle with
    | nil => simp
    | cons c needle =>
      simp only [List.nil_append, List.cons_prefix_cons] at h
      exact absurd (by simp [h.1]) hmark
  | cons d front ih =>
    cases needle with
    | nil => simp
    | cons c needle =>
      simp only [List.cons_append, List.cons_prefix_cons] at h ⊢
      exact ⟨h.1, ih (fun hm => hmark (List.mem_cons_of_mem _ hm)) h.2⟩

theorem before?_append_mark {needle front : List Char} {mark : Char} (rest : List Char)
    (hmark : mark ∉ needle) (hne : needle ≠ []) (h : ¬ needle <:+: front) :
    before? needle (front ++ mark :: rest) =
      (before? needle rest).map (front ++ mark :: ·) := by
  induction front with
  | nil =>
    have hno : ¬ needle <+: mark :: rest := by
      intro hpre
      have hnil : needle <+: [] := prefix_of_prefix_append_cons hmark hpre
      exact hne (by simpa using hnil)
    simp [before?, hno]
  | cons c front ih =>
    rw [List.infix_cons_iff, not_or] at h
    have hno : ¬ needle <+: c :: front ++ mark :: rest :=
      fun hpre => h.1 (prefix_of_prefix_append_cons hmark hpre)
    simp only [List.cons_append] at hno ⊢
    simp [before?, hno, ih h.2, Function.comp_def]

end JinieServer.Text
