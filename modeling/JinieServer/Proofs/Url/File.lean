import JinieServer.Proofs.FileUri.RoundTrip
import JinieServer.Url.Parser
import Mathlib.Data.List.TakeWhile

/-!
# File URIs are URLs

A text of visible characters without `?` and `#` behind `file:///` is read as a URL without a host,
a query and a fragment. All URIs that are written for paths are of this kind.
-/

namespace JinieServer.Url

open JinieServer.Text

/-- A character that a URL parser neither drops nor takes for the start of a query or fragment. -/
def Steady (c : Char) : Prop := 0x20 < c.toNat ∧ c ≠ '#' ∧ c ≠ '?'

instance (c : Char) : Decidable (Steady c) := inferInstanceAs (Decidable (_ ∧ _))

/-! ## Nothing is dropped -/

theorem not_isIgnored_of_steady {c : Char} (h : Steady c) : isIgnored c = false := by
  have hne : ∀ d : Char, d.toNat ≤ 0x20 → c ≠ d := by
    rintro d hd rfl
    exact absurd h.1 (by omega)
  have htab := hne '\t' (by decide)
  have hfeed := hne '\n' (by decide)
  have hreturn := hne '\r' (by decide)
  simp [isIgnored, htab, hfeed, hreturn]

theorem dropWhile_of_forall_not {p : Char → Bool} {text : List Char}
    (h : ∀ c ∈ text, p c = false) : text.dropWhile p = text := by
  cases text with
  | nil => rfl
  | cons c rest => exact List.dropWhile_cons_of_neg (by simp [h c List.mem_cons_self])

theorem trimmed_of_steady {text : List Char} (h : ∀ c ∈ text, Steady c) : trimmed text = text := by
  have hinside : ∀ c ∈ text, decide (c.toNat ≤ 0x20) = false := by
    intro c hc
    have hlow := (h c hc).1
    simp
    omega
  have hback : ∀ c ∈ text.reverse, decide (c.toNat ≤ 0x20) = false := by
    simpa using hinside
  simp only [trimmed]
  rw [dropWhile_of_forall_not hinside, dropWhile_of_forall_not hback, List.reverse_reverse]

theorem counted_of_steady {text : List Char} (h : ∀ c ∈ text, Steady c) : counted text = text := by
  rw [counted, List.filter_eq_self]
  intro c hc
  simp [not_isIgnored_of_steady (h c hc)]

theorem dropCounted_append {front : List Char} (rest : List Char)
    (h : ∀ c ∈ front, Steady c) : dropCounted front.length (front ++ rest) = rest := by
  induction front with
  | nil => simp [dropCounted]
  | cons c front ih =>
    rw [List.forall_mem_cons] at h
    simp [dropCounted, not_isIgnored_of_steady h.1, ih h.2]

/-! ## The parts of a file URL -/

/-- A URL without host, query and fragment. -/
def ofSegments (segments : List (List Char)) : Url :=
  ⟨fileScheme, some {}, .segments segments, none, none⟩

/-- The segments of a path that starts at the root. -/
def rootSegments (path : List Char) : List (List Char) :=
  dropLeadingEmpty (OpenPath.root.read true (segmentsOf true path)).segments

theorem fileFront?_rooted {path : List Char} (h : ∀ c ∈ path, Steady c) :
    fileFront? ('/' :: '/' :: '/' :: path) =
      some (some {}, .segments (rootSegments ('/' :: path))) := by
  have hslash : Steady '/' := by decide
  have hcounted : counted ('/' :: '/' :: '/' :: path) = '/' :: '/' :: '/' :: path :=
    counted_of_steady (by simpa [hslash] using h)
  have hbehind : dropCounted 2 ('/' :: '/' :: '/' :: path) = '/' :: path :=
    dropCounted_append ('/' :: path) (by simp [hslash] : ∀ c ∈ ['/', '/'], Steady c)
  have hmark : isSlash true '/' = true := by decide
  rw [fileFront?, hcounted]
  simp [hmark, hbehind, fileFront, rootSegments]

/-! ## Whole URLs -/

theorem scheme?_file (text : List Char) :
    scheme? (fileScheme ++ ':' :: text) = some (fileScheme, text) := by
  simp [scheme?, isSchemeChar, fileScheme]

theorem parse?_fileScheme {text : List Char} (h : ∀ c ∈ text, Steady c) :
    parse? (fileScheme ++ ':' :: text) =
      (fileFront? text).map fun front => ⟨fileScheme, front.1, front.2, none, none⟩ := by
  have hname : ∀ c ∈ fileScheme ++ [':'], Steady c := by simp [fileScheme, Steady]
  have hwhole : fileScheme ++ ':' :: text = (fileScheme ++ [':']) ++ text := by simp
  have hall : ∀ c ∈ fileScheme ++ ':' :: text, Steady c := by
    rw [hwhole]
    exact List.forall_mem_append.mpr ⟨hname, h⟩
  have hbehind : dropCounted (fileScheme.length + 1) (fileScheme ++ ':' :: text) = text := by
    rw [hwhole]
    exact dropCounted_append text hname
  have hfragment : text.takeWhile (· ≠ '#') = text :=
    List.takeWhile_eq_self_iff.mpr fun c hc => by simpa using (h c hc).2.1
  have hquery : text.takeWhile (· ≠ '?') = text :=
    List.takeWhile_eq_self_iff.mpr fun c hc => by simpa using (h c hc).2.2
  have hboth : text.takeWhile (fun c => c ≠ '#' ∧ c ≠ '?') = text :=
    List.takeWhile_eq_self_iff.mpr fun c hc => by simpa using (h c hc).2
  have hkind : schemeKind fileScheme = .file := by decide
  rw [parse?, trimmed_of_steady hall, counted_of_steady hall, scheme?_file]
  simp only [Option.bind_eq_bind, Option.bind_some, hkind, hfragment, hquery, hbehind, hboth]
  cases fileFront? text <;> simp

theorem parse?_rooted {path : List Char} (h : ∀ c ∈ path, Steady c) :
    parse? (FileUri.scheme ++ '/' :: path) = some (ofSegments (rootSegments ('/' :: path))) := by
  have hslash : Steady '/' := by decide
  have hbehind : ∀ c ∈ '/' :: '/' :: '/' :: path, Steady c := by simpa [hslash] using h
  have hscheme : FileUri.scheme = fileScheme ++ [':', '/', '/'] := by decide +kernel
  have htext : FileUri.scheme ++ '/' :: path = fileScheme ++ ':' :: '/' :: '/' :: '/' :: path := by
    rw [hscheme, List.append_assoc]
    rfl
  rw [htext, parse?_fileScheme hbehind, fileFront?_rooted h]
  rfl

/-! ## URIs of paths -/

theorem steady_of_isPlain {c : Char} (h : FileUri.isPlain c = true) : Steady c := by
  have hne : ∀ d : Char, FileUri.isPlain d = false → c ≠ d := by
    rintro d hd rfl
    simp [hd] at h
  have hcontrol : 0x20 ≤ c.toNat := by
    simp only [FileUri.isPlain, isControl, Bool.and_eq_true, Bool.not_eq_true',
      Bool.or_eq_false_iff, decide_eq_false_iff_not] at h
    omega
  have hblank : c.toNat ≠ 0x20 := fun heq => hne ' ' (by decide) (Char.toNat_inj.mp heq)
  exact ⟨by omega, hne '#' (by decide), hne '?' (by decide)⟩

theorem steady_escape (text : List Char) : ∀ c ∈ escape FileUri.isPlain text, Steady c := by
  refine forall_mem_escape (fun c => steady_of_isPlain) (by decide) ?_ text
  intro n hn
  interval_cases n <;> decide

theorem exists_writtenBody_eq_cons (path : List Char) :
    ∃ rest, FileUri.writtenBody path = '/' :: rest := by
  unfold FileUri.writtenBody
  split
  case h_1 => exact ⟨_, rfl⟩
  case h_2 =>
    split
    case isTrue habsolute =>
      rw [Path.isAbsolute_iff] at habsolute
      exact List.head?_eq_some_iff.mp habsolute
    case isFalse => exact ⟨_, rfl⟩

/-- The URI of a path is a URL, whatever characters the path holds. -/
theorem parse?_ofPath (path : List Char) :
    parse? (FileUri.ofPath path) =
      some (ofSegments (rootSegments (escape FileUri.isPlain (FileUri.writtenBody path)))) := by
  obtain ⟨rest, hrest⟩ := exists_writtenBody_eq_cons path
  have hslash : escape FileUri.isPlain ('/' :: rest) = '/' :: escape FileUri.isPlain rest := rfl
  rw [FileUri.ofPath_eq, hrest, hslash, parse?_rooted (steady_escape rest)]

end JinieServer.Url
