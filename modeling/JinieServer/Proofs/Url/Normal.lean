import JinieServer.Proofs.Url.File
import JinieServer.Relay.Navigation
import JinieServer.Server.Handle

/-!
# URIs of paths are in normal form

A URL parser keeps the characters of such a URI, divides it at the same slashes, and sees a drive
nowhere in it. Only dots and a second slash at the start could change it. An escape is no dot,
since a dot is never escaped.
-/

namespace JinieServer.Text

/-! ## Escapes -/

theorem slash_not_mem_escapes (bytes : List UInt8) : '/' ∉ bytes.flatMap escapeByte := by
  intro h
  obtain ⟨b, -, hb⟩ := List.mem_flatMap.mp h
  refine forall_mem_escapeByte (p := (· ≠ '/')) (by decide) ?_ b _ hb rfl
  intro n hn
  interval_cases n <;> decide

theorem escape_cons (keep : Char → Bool) (c : Char) (s : List Char) :
    escape keep (c :: s) =
      (if keep c then [c] else (String.utf8EncodeChar c).flatMap escapeByte) ++ escape keep s := rfl

theorem escape_append (keep : Char → Bool) (s t : List Char) :
    escape keep (s ++ t) = escape keep s ++ escape keep t := List.flatMap_append

theorem escape_eq_self {keep : Char → Bool} {s : List Char} (h : ∀ c ∈ s, keep c = true) :
    escape keep s = s := by
  induction s with
  | nil => rfl
  | cons c s ih =>
    rw [List.forall_mem_cons] at h
    rw [escape_cons, if_pos h.1, ih h.2, List.singleton_append]

theorem slash_not_mem_escape {keep : Char → Bool} {s : List Char} (h : '/' ∉ s) :
    '/' ∉ escape keep s := by
  rw [escape, List.mem_flatMap]
  rintro ⟨c, hc, hmem⟩
  split at hmem
  · obtain rfl : '/' = c := by simpa using hmem
    exact h hc
  · exact slash_not_mem_escapes _ hmem

theorem escape_intercalate {keep : Char → Bool} (hkeep : keep '/' = true)
    (list : List (List Char)) :
    escape keep (['/'].intercalate list) = ['/'].intercalate (list.map (escape keep)) := by
  induction list with
  | nil => rfl
  | cons piece more ih =>
    cases more with
    | nil => simp
    | cons second more =>
      have hslash : escape keep ['/'] = ['/'] := by simp [escape, hkeep]
      rw [List.map_cons, List.map_cons, List.intercalate_cons_cons, List.intercalate_cons_cons,
        escape_append, escape_append, hslash, ih, List.map_cons]

theorem splitOn_escape {keep : Char → Bool} (hkeep : keep '/' = true) (s : List Char) :
    (escape keep s).splitOn '/' = (s.splitOn '/').map (escape keep) := by
  have hslash : ∀ piece ∈ (s.splitOn '/').map (escape keep), '/' ∉ piece := by
    intro piece hpiece
    obtain ⟨plain, hplain, rfl⟩ := List.mem_map.mp hpiece
    exact slash_not_mem_escape (Path.not_mem_of_mem_splitOn hplain)
  calc (escape keep s).splitOn '/'
      = (escape keep (['/'].intercalate (s.splitOn '/'))).splitOn '/' := by
        rw [List.intercalate_splitOn]
    _ = (['/'].intercalate ((s.splitOn '/').map (escape keep))).splitOn '/' := by
        rw [escape_intercalate hkeep]
    _ = (s.splitOn '/').map (escape keep) :=
        List.splitOn_intercalate '/' hslash (by simp [List.splitOn_ne_nil])

end JinieServer.Text

namespace JinieServer.Url

open JinieServer.Text

/-! ## Characters that are kept -/

/-- A character that the URI of a path can hold. -/
def Kept (c : Char) : Prop := FileUri.isPlain c = true ∨ c = '%'

instance (c : Char) : Decidable (Kept c) := inferInstanceAs (Decidable (_ ∨ _))

theorem Kept.ne {c d : Char} (h : Kept c) (hd : ¬ Kept d) : c ≠ d := by
  rintro rfl
  exact hd h

theorem kept_of_mem_escape (s : List Char) : ∀ c ∈ escape FileUri.isPlain s, Kept c := by
  refine forall_mem_escape (fun c => Or.inl) (by decide) ?_ s
  intro n hn
  interval_cases n <;> decide

theorem isPathChar_of_kept {c : Char} (h : Kept c) : isPathChar c = true := by
  have hne : ∀ d, ¬ Kept d → c ≠ d := fun d hd => h.ne hd
  rcases h with h | rfl
  · simp only [FileUri.isPlain, Bool.and_eq_true] at h
    simp [isPathChar, isFragmentChar, isPrintable, h.1.1, h.1.2, hne ' ' (by decide),
      hne '"' (by decide), hne '<' (by decide), hne '>' (by decide), hne '\x60' (by decide),
      hne '#' (by decide), hne '?' (by decide), hne '\x7b' (by decide), hne '\x7d' (by decide)]
  · decide

/-! ## Dots -/

theorem undot_eq_nil {segment : List Char} (h : undot segment = []) : segment = [] := by
  unfold undot at h
  split at h <;> simp_all

theorem undot_eq_dot {segment rest : List Char} (h : undot segment = '.' :: rest) :
    ∃ more, undot more = rest ∧ unescapeBytes segment = 0x2e :: unescapeBytes more := by
  unfold undot at h
  split at h
  case h_1 more => exact ⟨more, (List.cons.inj h).2, rfl⟩
  case h_2 more => exact ⟨more, (List.cons.inj h).2, rfl⟩
  case h_3 c more hsmall hlarge =>
    obtain ⟨rfl, hrest⟩ := List.cons.inj h
    exact ⟨more, hrest, unescapeBytes_cons (by decide) more⟩
  case h_4 => simp at h

theorem unescapeBytes_of_undot {segment dots : List Char} (hdots : ∀ c ∈ dots, c = '.')
    (h : undot segment = dots) : unescapeBytes segment = utf8 dots := by
  induction dots generalizing segment with
  | nil => rw [undot_eq_nil h]; rfl
  | cons c dots ih =>
    rw [List.forall_mem_cons] at hdots
    obtain ⟨rfl, hdots⟩ := hdots
    obtain ⟨more, hmore, hbytes⟩ := undot_eq_dot h
    rw [hbytes, ih hdots hmore]
    rfl

theorem escape_of_undot {s dots : List Char} (hdots : ∀ c ∈ dots, c = '.')
    (h : undot (escape FileUri.isPlain s) = dots) : escape FileUri.isPlain s = dots := by
  have hread := unescapeBytes_escape (by decide : FileUri.isPlain '%' = false) s []
  rw [List.append_nil, unescapeBytes_of_undot hdots h, unescapeBytes, List.append_nil] at hread
  -- The escaped text spells dots, so it was made from dots, and these are kept as they are.
  obtain rfl : dots = s := by
    have hdecode := ofUtf8?_utf8 s
    rw [← hread, ofUtf8?_utf8] at hdecode
    exact Option.some.inj hdecode
  refine escape_eq_self fun c hc => ?_
  rw [hdots c hc]
  decide

/-! ## Segments -/

/-- A segment that is read as it is written. -/
structure Settled (segment : List Char) : Prop where
  kept : ∀ c ∈ segment, Kept c
  not_dot : isDot segment = false
  not_doubleDot : isDoubleDot segment = false

theorem settled_escape {s : List Char} (hdot : escape FileUri.isPlain s ≠ ['.'])
    (hdots : escape FileUri.isPlain s ≠ ['.', '.']) : Settled (escape FileUri.isPlain s) where
  kept := kept_of_mem_escape s
  not_dot := by
    rw [isDot, decide_eq_false_iff_not]
    exact fun h => hdot (escape_of_undot (by simp) h)
  not_doubleDot := by
    rw [isDoubleDot, decide_eq_false_iff_not]
    exact fun h => hdots (escape_of_undot (by simp) h)

theorem Settled.counted {segment : List Char} (h : Settled segment) :
    counted segment = segment := by
  rw [Url.counted, List.filter_eq_self]
  intro c hc
  have hne : ∀ d, ¬ Kept d → c ≠ d := fun d hd => (h.kept c hc).ne hd
  simp [isIgnored, hne '\t' (by decide), hne '\n' (by decide), hne '\r' (by decide)]

theorem Settled.escape {segment : List Char} (h : Settled segment) :
    Text.escape isPathChar segment = segment :=
  escape_eq_self fun c hc => isPathChar_of_kept (h.kept c hc)

theorem Settled.partedDrive? {segment : List Char} (h : Settled segment) :
    partedDrive? segment = none := by
  unfold Url.partedDrive?
  split
  case h_1 letter c rest next more hcounted hbehind =>
    rw [h.counted] at hcounted
    -- A drive has a colon, which is never kept.
    have hcolon : Kept ':' := h.kept ':' (by simp [hcounted])
    exact absurd hcolon (by decide)
  case h_2 => rfl

theorem Settled.push {segment : List Char} (h : Settled segment) (path : OpenPath) :
    path.push true segment = { path with closed := segment :: path.closed } := by
  unfold OpenPath.push
  split
  case h_1 letter mark =>
    have hmark : isDriveMark mark = false := by
      have hkept := h.kept mark (by simp)
      simp [isDriveMark, hkept.ne (by decide : ¬ Kept ':'), hkept.ne (by decide : ¬ Kept '|')]
    simp [hmark]
  case h_2 => rfl

theorem read_of_settled {segments : List (List Char)} (path : OpenPath)
    (h : ∀ segment ∈ segments, Settled segment) :
    path.read true segments = { path with closed := segments.reverse ++ path.closed } := by
  induction segments generalizing path with
  | nil => rfl
  | cons segment rest ih =>
    rw [List.forall_mem_cons] at h
    obtain ⟨hsegment, hrest⟩ := h
    have hdrive : (if true && path.closed = [[]] then Url.partedDrive? segment else none) =
        none := by
      rw [hsegment.partedDrive?, ite_self]
    rw [OpenPath.read, hdrive]
    simp only [hsegment.counted, hsegment.escape, hsegment.not_doubleDot, hsegment.not_dot,
      hsegment.push, ih _ hrest]
    simp

/-! ## The path of a generated URI -/

theorem segmentsOf_of_kept {path : List Char} (h : ∀ c ∈ path, Kept c) :
    segmentsOf true path = path.splitOn '/' := by
  have hmap : path.map (fun c => if isSlash true c then '/' else c) = path.map id := by
    refine List.map_congr_left fun c hc => ?_
    have hback : c ≠ '\\' := (h c hc).ne (by decide)
    by_cases hslash : c = '/' <;> simp [isSlash, hslash, hback]
  rw [segmentsOf, hmap, List.map_id]

theorem escape_cons_ne_nil {keep : Char → Bool} (hkeep : keep '%' = false) (c : Char)
    (s : List Char) : escape keep (c :: s) ≠ [] := by
  intro h
  have hnil : unescape? [] = some [] := unescape?_escape hkeep []
  have hread := unescape?_escape hkeep (c :: s)
  simp [h, hnil] at hread

theorem dropLeadingEmpty_splitOn {s : List Char} (h : s.head? ≠ some '/') :
    dropLeadingEmpty ([] :: (escape FileUri.isPlain s).splitOn '/') =
      (escape FileUri.isPlain s).splitOn '/' := by
  rw [splitOn_escape (by decide)]
  cases s with
  | nil => rfl
  | cons c s =>
    rw [List.splitOn_cons_eq_if_modifyHead, if_neg (by simpa using h)]
    cases hp : s.splitOn '/' with
    | nil => exact absurd hp (List.splitOn_ne_nil '/' s)
    | cons first more =>
      have hne := escape_cons_ne_nil (by decide : FileUri.isPlain '%' = false) c first
      simp [dropLeadingEmpty, hne]

theorem rootSegments_escape {s : List Char} (hhead : s.head? ≠ some '/')
    (hdots : ∀ segment ∈ (escape FileUri.isPlain s).splitOn '/',
      segment ≠ ['.'] ∧ segment ≠ ['.', '.']) :
    rootSegments ('/' :: escape FileUri.isPlain s) = (escape FileUri.isPlain s).splitOn '/' := by
  have hkept : ∀ c ∈ '/' :: escape FileUri.isPlain s, Kept c := by
    rw [List.forall_mem_cons]
    exact ⟨by decide, kept_of_mem_escape s⟩
  have hsettled : ∀ segment ∈ [] :: (escape FileUri.isPlain s).splitOn '/', Settled segment := by
    rw [List.forall_mem_cons]
    refine ⟨⟨by simp, by decide, by decide⟩, ?_⟩
    intro segment hsegment
    have hdot := hdots segment hsegment
    rw [splitOn_escape (by decide)] at hsegment
    obtain ⟨piece, -, rfl⟩ := List.mem_map.mp hsegment
    exact settled_escape hdot.1 hdot.2
  have hpieces : ('/' :: escape FileUri.isPlain s).splitOn '/' =
      [] :: (escape FileUri.isPlain s).splitOn '/' := rfl
  rw [rootSegments, segmentsOf_of_kept hkept, hpieces, read_of_settled _ hsettled]
  simp only [OpenPath.segments, OpenPath.root, List.reverse_append, List.reverse_reverse]
  exact dropLeadingEmpty_splitOn hhead

theorem chars_ofSegments (segments : List (List Char)) :
    (ofSegments segments).chars = FileUri.scheme ++ segments.flatMap ('/' :: ·) := by
  have hscheme : FileUri.scheme = fileScheme ++ [':', '/', '/'] := by decide +kernel
  simp [hscheme, ofSegments, chars, Authority.text, UrlPath.text]

theorem writtenBody_of_not_doubleSlash {path : List Char} (h : ¬ ['/', '/'] <+: path) :
    ∃ rest, FileUri.writtenBody path = '/' :: rest ∧ rest.head? ≠ some '/' := by
  unfold FileUri.writtenBody
  split
  case h_1 letter rest hdrive =>
    refine ⟨_, rfl, ?_⟩
    have hletter := FileUri.isLower_toLower (FileUri.isAlpha_of_drive? hdrive)
    rw [List.head?_cons]
    intro heq
    rw [Option.some.inj heq] at hletter
    exact absurd hletter (by decide)
  case h_2 =>
    split
    case isTrue habsolute =>
      rw [Path.isAbsolute_iff] at habsolute
      obtain ⟨rest, rfl⟩ := List.head?_eq_some_iff.mp habsolute
      refine ⟨rest, rfl, fun hrest => h ?_⟩
      obtain ⟨more, rfl⟩ := List.head?_eq_some_iff.mp hrest
      exact ⟨more, rfl⟩
    case isFalse hrelative =>
      rw [Path.isAbsolute_iff] at hrelative
      exact ⟨path, rfl, hrelative⟩

/-! ## The theorem -/

/-- What the URI of a path says behind its scheme. -/
def uriPath (path : List Char) : List Char := (FileUri.ofPath path).drop FileUri.scheme.length

theorem uriPath_eq (path : List Char) :
    uriPath path = escape FileUri.isPlain (FileUri.writtenBody path) := by
  rw [uriPath, FileUri.ofPath_eq, List.drop_left]

/-- A path without a second slash at the start and without dots between slashes is written as a URL
in normal form: it is read as a URL whose text is the same URI. So the editor opens the file under
the URI that it was told, and its text is kept under that URI. -/
theorem ofPath_in_normal_form (path : List Char) (hslashes : ¬ ['/', '/'] <+: path)
    (hdots : ∀ segment ∈ (uriPath path).splitOn '/', segment ≠ ['.'] ∧ segment ≠ ['.', '.']) :
    ∃ url, parse? (FileUri.ofPath path) = some url ∧ url.chars = FileUri.ofPath path ∧
      (∀ editor opened position,
        Relay.handle editor opened ⟨String.ofList (FileUri.ofPath path), position⟩ =
          Relay.follow editor opened url position) ∧
      ∀ world (server : Server) text,
        (server.handle world (.didOpen url text)).server.documents.get?
          (String.ofList (FileUri.ofPath path)) = some text := by
  obtain ⟨rest, hbody, hhead⟩ := writtenBody_of_not_doubleSlash hslashes
  have hslash : escape FileUri.isPlain ('/' :: rest) = '/' :: escape FileUri.isPlain rest := rfl
  have hpath : uriPath path = '/' :: escape FileUri.isPlain rest := by
    rw [uriPath_eq, hbody, hslash]
  have hpieces : (uriPath path).splitOn '/' = [] :: (escape FileUri.isPlain rest).splitOn '/' := by
    rw [hpath]
    rfl
  rw [hpieces, List.forall_mem_cons] at hdots
  have hparse := parse?_ofPath path
  rw [hbody, hslash, rootSegments_escape hhead hdots.2] at hparse
  have hchars : (ofSegments ((escape FileUri.isPlain rest).splitOn '/')).chars =
      FileUri.ofPath path := by
    rw [chars_ofSegments, Path.flatMap_cons_eq_intercalate (List.splitOn_ne_nil _ _),
      List.intercalate_splitOn,
      FileUri.ofPath_eq, hbody, hslash]
  refine ⟨_, hparse, hchars, ?_, ?_⟩
  · intro editor opened position
    rw [Relay.handle, String.toList_ofList, hparse]
  · intro world server text
    simp [Server.handle, Server.didOpen, Url.text, hchars]

/-- Its names hold marks of URLs, an escape that spells a dot, a drive mark and a backslash. -/
def markedPath : List Char := "/w/%2e/c|#ä?\\ .d".toList

theorem normal_form_of_marked_path :
    ¬ ['/', '/'] <+: markedPath ∧
    (∀ segment ∈ (uriPath markedPath).splitOn '/', segment ≠ ['.'] ∧ segment ≠ ['.', '.']) ∧
    FileUri.ofPath markedPath = "file:///w/%252e/c%7C%23%C3%A4%3F%5C%20.d".toList ∧
    ∃ url, parse? "file:///w/%252e/c%7C%23%C3%A4%3F%5C%20.d".toList = some url ∧
      url.chars = "file:///w/%252e/c%7C%23%C3%A4%3F%5C%20.d".toList := by
  have hslashes : ¬ ['/', '/'] <+: markedPath := by decide +kernel
  have hdots : ∀ segment ∈ (uriPath markedPath).splitOn '/',
      segment ≠ ['.'] ∧ segment ≠ ['.', '.'] := by decide +kernel
  have htext : FileUri.ofPath markedPath =
      "file:///w/%252e/c%7C%23%C3%A4%3F%5C%20.d".toList := by decide +kernel
  obtain ⟨url, hparse, hchars, -, -⟩ := ofPath_in_normal_form markedPath hslashes hdots
  rw [htext] at hparse hchars
  exact ⟨hslashes, hdots, htext, url, hparse, hchars⟩

end JinieServer.Url
