import FunctionConsole.Proofs.Web.Coding
import FunctionConsole.Proofs.Web.Reading
import Mathlib.Data.List.Basic

/-!
# Segments of a path

A segment comes into a path in two ways: written into the text of an address, or handed over as a
segment. Handed over, it stays one segment and means itself, because every character that has a
meaning in a path is percent-coded (`inSegmentSet`). Written into the text, such characters keep
their meaning: slashes divide it, a percent sign begins a code, `?` and `#` end the path.

`addSegments_eq_push_iff` says when the two come to the same. That they do not otherwise is a matter
of lengths: what is read from a text is never longer than the coded text (`length_addSegments`), and
coding one character more makes it longer.
-/

namespace FunctionConsole.Web

-- ==================================================== cutting at slashes

section

variable {p : Char → Bool}

theorem splitOnChar_of_free {cs : List Char} (h : ∀ c ∈ cs, p c = false) :
    Text.splitOnChar p cs = [cs] := by
  induction cs with
  | nil => rfl
  | cons c cs ih =>
      have hc : ¬ p c = true := by simp [h c List.mem_cons_self]
      rw [Text.splitOnChar, if_neg hc, ih fun d hd => h d (List.mem_cons_of_mem _ hd)]

theorem splitOnChar_append {c : Char} (hc : p c = true) (cs ds : List Char) :
    Text.splitOnChar p (cs ++ c :: ds) = Text.splitOnChar p cs ++ Text.splitOnChar p ds := by
  induction cs with
  | nil =>
      rw [List.nil_append, Text.splitOnChar]
      exact if_pos hc
  | cons d cs ih =>
      rw [List.cons_append, Text.splitOnChar, Text.splitOnChar, ih]
      split
      · rfl
      · cases hcut : Text.splitOnChar p cs with
        | nil => exact absurd hcut (Text.splitOnChar_ne_nil p cs)
        | cons piece more => rfl

/-- A text that does not end where it is cut ends in a piece that has something in it. -/
theorem splitOnChar_last {cs : List Char} (hne : cs ≠ []) (h : ∀ c ∈ cs.getLast?, p c = false) :
    ∃ init last, Text.splitOnChar p cs = init ++ [last] ∧ last ≠ [] ∧ ∀ c ∈ last, p c = false := by
  induction cs with
  | nil => exact absurd rfl hne
  | cons c cs ih =>
      cases cs with
      | nil =>
          have hfree : ∀ d ∈ [c], p d = false := by simpa using h c rfl
          exact ⟨[], [c], splitOnChar_of_free hfree, by simp, hfree⟩
      | cons d cs =>
          rw [List.getLast?_cons_cons] at h
          obtain ⟨init, last, hcut, hlast, hfree⟩ := ih (by simp) h
          rw [Text.splitOnChar, hcut]
          split
          · exact ⟨[] :: init, last, rfl, hlast, hfree⟩
          · next hc =>
              cases init with
              | nil => exact ⟨[], c :: last, rfl, by simp, by simpa [hc] using hfree⟩
              | cons piece init => exact ⟨(c :: piece) :: init, last, rfl, hlast, hfree⟩

end

namespace Url

/-- The segments of a text, coded. -/
def segments (text : List Char) : List (List Char) :=
  (Text.splitOnChar isSlash text).map (percentEncode inPathSet)

theorem segments_append {c : Char} (hc : isSlash c = true) (cs ds : List Char) :
    segments (cs ++ c :: ds) = segments cs ++ segments ds := by
  rw [segments, splitOnChar_append hc, List.map_append]
  rfl

theorem segments_of_free {cs : List Char} (h : ∀ c ∈ cs, isSlash c = false) :
    segments cs = [percentEncode inPathSet cs] := by
  rw [segments, splitOnChar_of_free h]
  rfl

theorem segments_ne_nil (text : List Char) : segments text ≠ [] := by
  rw [segments, Ne, List.map_eq_nil_iff]
  exact Text.splitOnChar_ne_nil isSlash text

/-- Segments, with a slash in front of each, are longer by one than the coded text. -/
theorem length_segments (text : List Char) :
    ((segments text).flatMap fun s => '/' :: s).length =
      (percentEncode inPathSet text).length + 1 := by
  induction text with
  | nil => rfl
  | cons c text ih =>
      rw [percentEncode_cons, List.length_append]
      by_cases hc : isSlash c = true
      · have hplain : percentEncode inPathSet [c] = [c] := by
          simp only [isSlash, Bool.or_eq_true, beq_iff_eq] at hc
          rcases hc with rfl | rfl <;> rfl
        have hcut : segments (c :: text) = [] :: segments text := segments_append hc [] text
        rw [hcut, List.flatMap_cons, List.length_append, ih, hplain, List.length_singleton,
          List.length_singleton]
        omega
      · obtain ⟨piece, more, hcut⟩ :=
          List.exists_cons_of_ne_nil (Text.splitOnChar_ne_nil isSlash text)
        rw [segments, hcut, List.map_cons, List.flatMap_cons, List.length_append] at ih
        rw [segments, Text.splitOnChar, if_neg hc, hcut]
        dsimp only
        rw [List.map_cons, List.flatMap_cons, List.length_append, percentEncode_cons]
        simp only [List.length_cons, List.length_append] at ih ⊢
        omega

-- ==================================================== directories

/-- A path that segments can be added to. -/
def IsDirectory (path : List Char) : Prop := path.head? = some '/' ∧ path.getLast? = some '/'

/-- The directory that some segments lead to. -/
def enterAll (path : List Char) (segments : List (List Char)) : List Char :=
  segments.foldl (fun path s => addSegment path s true) path

theorem addSegments_append (path : List Char) (first : List (List Char)) {rest : List (List Char)}
    (h : rest ≠ []) :
    addSegments path (first ++ rest) = addSegments (enterAll path first) rest := by
  induction first generalizing path with
  | nil => rfl
  | cons s first ih =>
      cases hmore : first ++ rest with
      | nil => exact absurd (List.append_eq_nil_iff.mp hmore).2 h
      | cons s' more =>
          rw [List.cons_append, hmore, addSegments, ← hmore, ih]
          · rfl
          · simp

theorem toLastSlash_directory {path : List Char} (h : path.head? = some '/') :
    IsDirectory (toLastSlash path) := by
  obtain ⟨more, rfl⟩ := List.head?_eq_some_iff.mp h
  -- in reverse, a path is dropped up to its first slash
  cases hdrop : ('/' :: more).reverse.dropWhile (· ≠ '/') with
  | nil =>
      have hall := List.dropWhile_eq_nil_iff.mp hdrop '/' (by simp)
      exact absurd hall (by decide)
  | cons c kept =>
      have hc : c = '/' := by
        have hhead := List.head?_dropWhile_not (· ≠ '/') ('/' :: more).reverse
        rw [hdrop] at hhead
        simpa using hhead
      have hpath : toLastSlash ('/' :: more) = kept.reverse ++ ['/'] := by
        rw [toLastSlash, hdrop, List.reverse_cons, hc]
      have hsuffix : c :: kept <:+ ('/' :: more).reverse := hdrop ▸ List.dropWhile_suffix _
      rw [← List.reverse_prefix, List.reverse_reverse, List.reverse_cons, hc, ← hpath] at hsuffix
      refine ⟨?_, hpath ▸ List.getLast?_concat⟩
      obtain ⟨cut, hcut⟩ := hsuffix
      rw [hpath] at hcut ⊢
      cases hkept : kept.reverse with
      | nil => rfl
      | cons d rest =>
          rw [hkept] at hcut
          exact congrArg some (List.cons_eq_cons.mp hcut).1

theorem addSegment_directory {path : List Char} (h : IsDirectory path) (segment : List Char) :
    IsDirectory (addSegment path segment true) := by
  obtain ⟨more, rfl⟩ := List.head?_eq_some_iff.mp h.1
  unfold addSegment
  split
  · unfold above
    split
    · exact h
    · next hstays =>
        refine toLastSlash_directory ?_
        cases more with
        | nil => exact absurd (.inl rfl) hstays
        | cons c more => rfl
  · split
    · exact h
    · exact ⟨rfl, List.getLast?_concat⟩

theorem enterAll_directory {path : List Char} (h : IsDirectory path)
    (segments : List (List Char)) : IsDirectory (enterAll path segments) := by
  induction segments generalizing path with
  | nil => exact h
  | cons s segments ih => exact ih (addSegment_directory h s)

theorem length_addSegment (path segment : List Char) (more : Bool) :
    (addSegment path segment more).length ≤ path.length + segment.length + more.toNat := by
  have habove : (above path).length ≤ path.length := by
    unfold above toLastSlash
    split
    · exact Nat.le_refl _
    · rw [List.length_reverse]
      refine Nat.le_trans (List.dropWhile_suffix _).length_le ?_
      rw [List.length_reverse, List.length_dropLast]
      exact Nat.sub_le _ _
  unfold addSegment
  split
  · omega
  · split
    · omega
    · rw [List.length_append, List.length_append]
      cases more with
      | true => exact Nat.le_refl _
      | false => exact Nat.le_refl _

/-- A path that is read is no longer than what it is read from. -/
theorem length_addSegments (path : List Char) {segments : List (List Char)} (h : segments ≠ []) :
    (addSegments path segments).length + 1 ≤
      path.length + (segments.flatMap fun s => '/' :: s).length := by
  induction segments generalizing path with
  | nil => exact absurd rfl h
  | cons s segments ih =>
      rw [List.flatMap_cons, List.length_append, List.length_cons]
      cases segments with
      | nil =>
          have hlast := length_addSegment path s false
          simp only [addSegments, Bool.toNat_false] at hlast ⊢
          omega
      | cons s' more =>
          have hfirst := length_addSegment path s true
          have hmore := ih (addSegment path s true) (by simp)
          simp only [addSegments, Bool.toNat_true] at hfirst hmore ⊢
          omega

-- ==================================================== going on behind a path

/-- The text with a slash at its end. -/
def slashed (text : List Char) : List Char :=
  if text.getLast? = some '/' then text else text ++ ['/']

theorem addSegment_more (path segment : List Char) :
    addSegment path segment true = addSegment path segment false ∨
      addSegment path segment true = addSegment path segment false ++ ['/'] ∧
        addSegment path segment false = path ++ segment := by
  unfold addSegment
  split
  · exact .inl rfl
  · split
    · exact .inl rfl
    · exact .inr ⟨by simp, by simp⟩

/-- A path and the directory it stands for, which it may name without a slash at the end. -/
def Names (path dir : List Char) : Prop :=
  path = dir ∨ path ++ ['/'] = dir ∧ path ≠ [] ∧ path.getLast? ≠ some '/'

/-- A text in which a slash follows the path is read as segments in a directory. -/
theorem pathOf_append (c : Char) (text more : List Char) :
    pathOf (c :: (text ++ '/' :: more)) =
      addSegments (enterAll ['/'] (segments text)) (segments more) := by
  rw [← addSegments_append _ _ (segments_ne_nil more), ← segments_append (c := '/') rfl]
  rfl

/-- What is written behind a slash at the end is read as segments in the directory of the path. -/
theorem pathOf_of_slash {text : List Char} (h : text.getLast? = some '/') :
    ∃ dir, IsDirectory dir ∧ pathOf text = dir ∧
      ∀ more, pathOf (text ++ more) = addSegments dir (segments more) := by
  have hroot : IsDirectory ['/'] := ⟨rfl, rfl⟩
  have hempty (dir : List Char) : addSegments dir (segments []) = dir := by
    simp [segments, Text.splitOnChar, percentEncode, addSegments, addSegment, isAbove, isHere]
  obtain ⟨front, rfl⟩ := List.getLast?_eq_some_iff.mp h
  cases front with
  | nil => exact ⟨['/'], hroot, hempty _, fun more => rfl⟩
  | cons c front =>
      have hread (more : List Char) : pathOf (c :: front ++ ['/'] ++ more) =
          addSegments (enterAll ['/'] (segments front)) (segments more) := by
        rw [← pathOf_append c front more]
        simp
      refine ⟨_, enterAll_directory hroot _, ?_, hread⟩
      have hpath := hread []
      rwa [List.append_nil, hempty] at hpath

/-- What is written behind the last segment and a slash is read as segments in the directory that
this segment leads to. -/
theorem pathOf_of_segment (c : Char) {text : List Char} (hne : text ≠ [])
    (hlast : ∀ d ∈ text.getLast?, isSlash d = false) :
    ∃ dir, IsDirectory dir ∧ Names (pathOf (c :: text)) dir ∧
      ∀ more, pathOf (c :: text ++ ['/'] ++ more) = addSegments dir (segments more) := by
  obtain ⟨init, last, hcut, hlast', hfree⟩ := splitOnChar_last hne hlast
  have hsegments : segments text =
      init.map (percentEncode inPathSet) ++ [percentEncode inPathSet last] := by
    rw [segments, hcut, List.map_append]
    rfl
  let parent := enterAll ['/'] (init.map (percentEncode inPathSet))
  let segment := percentEncode inPathSet last
  have hdir : enterAll ['/'] (segments text) = addSegment parent segment true := by
    rw [hsegments, enterAll, List.foldl_append]
    rfl
  have hpath : pathOf (c :: text) = addSegment parent segment false := by
    show addSegments ['/'] (segments text) = _
    rw [hsegments, addSegments_append _ _ (by simp)]
    rfl
  refine ⟨addSegment parent segment true, ?_, ?_, ?_⟩
  · rw [← hdir]
    exact enterAll_directory ⟨rfl, rfl⟩ _
  · rw [hpath]
    rcases addSegment_more parent segment with hstep | ⟨hmore, hplain⟩
    · exact .inl hstep.symm
    · -- the segment has something in it, and no slash
      have hsegment : segment ≠ [] := percentEncode_eq_nil.not.mpr hlast'
      refine .inr ⟨hmore.symm, ?_, ?_⟩
      · rw [hplain]
        exact List.append_ne_nil_of_right_ne_nil _ hsegment
      · rw [hplain, List.getLast?_append_of_ne_nil _ hsegment]
        intro hslash
        have hmem := (slash_of_mem_percentEncode (List.mem_of_getLast? hslash)).1
        exact absurd (hfree '/' hmem) (by decide)
  · intro more
    rw [← hdir, ← pathOf_append c text more]
    simp

/-- What is written behind a path, with one slash between them, is read as segments in the
directory that the path names. -/
theorem pathOf_slashed {text : List Char} (hfirst : ∀ c ∈ text.head?, isSlash c = true)
    (hlast : text.getLast? ≠ some '\\') :
    ∃ dir, IsDirectory dir ∧ Names (pathOf text) dir ∧
      ∀ more, pathOf (slashed text ++ more) = addSegments dir (segments more) := by
  unfold slashed
  split
  · next hslash =>
      obtain ⟨dir, hdir, hpath, hread⟩ := pathOf_of_slash hslash
      exact ⟨dir, hdir, .inl hpath, hread⟩
  · next hslash =>
      cases text with
      | nil => exact ⟨['/'], ⟨rfl, rfl⟩, .inl rfl, fun more => rfl⟩
      | cons c text =>
          have hplain : ∀ d ∈ (c :: text).getLast?, isSlash d = false := by
            intro d hd
            rw [hd] at hslash hlast
            simpa [isSlash] using And.intro (mt (congrArg some) hslash) (mt (congrArg some) hlast)
          cases text with
          | nil =>
              have hc := hfirst c rfl
              rw [hplain c rfl] at hc
              cases hc
          | cons d text => exact pathOf_of_segment c (by simp) hplain

/-- A path is opened to the directory that it names. -/
theorem openPath_directory {path dir : List Char} (hdir : IsDirectory dir) (h : Names path dir)
    (hroot : path ≠ ['/', '/']) :
    (if openPath path = ['/'] then openPath path else openPath path ++ ['/']) = dir := by
  rcases h with rfl | ⟨hmore, hne, hlast⟩
  · obtain ⟨front, rfl⟩ := List.getLast?_eq_some_iff.mp hdir.2
    cases front with
    | nil => rfl
    | cons c front =>
        have hopen : openPath (c :: front ++ ['/']) = c :: front := by
          rw [openPath, if_pos ⟨by simp, List.getLast?_concat⟩, List.dropLast_concat]
        have hstays : c :: front ≠ ['/'] := by
          intro heq
          exact hroot (by rw [heq]; rfl)
        rw [hopen, if_neg hstays]
  · have hopen : openPath path = path := by
      rw [openPath, if_neg fun h => hlast h.2]
    have hstays : path ≠ ['/'] := by
      rintro rfl
      exact hlast rfl
    rw [hopen, if_neg hstays, hmore]

-- ==================================================== one segment

section

variable {path : List Char} {segment : String} {text rest : List Char}

theorem push_eq (hlast : path.getLast? ≠ some '/') (hname : ¬ (segment = "." ∨ segment = "..")) :
    push path segment =
      addSegment (path ++ ['/']) (percentEncode inSegmentSet (counted segment.toList)) false := by
  have hroot : path ≠ ['/'] := by
    rintro rfl
    exact hlast rfl
  rw [push, if_neg hname, if_neg hroot]
  rfl

/-- Written or handed over, a segment without characters that have a meaning is coded alike. -/
theorem percentEncode_segment (h : ∀ c ∈ text, c ∉ ['/', '\\', '%']) :
    percentEncode inPathSet text = percentEncode inSegmentSet text := by
  refine percentEncode_congr fun c hc => ?_
  have hplain : ['/', '%', '\\'].contains c = false := by
    have := h c hc
    simp_all
  rw [inSegmentSet, hplain, Bool.or_false]

/-- Of a segment that is no name of a directory, more is coded than what is read from a text that
leaves something of it out, or that has characters with a meaning. -/
theorem length_lt_push (hlast : path.getLast? ≠ some '/')
    (hname : ¬ (segment = "." ∨ segment = ".."))
    (hdots : ¬ (counted segment.toList = ['.'] ∨ counted segment.toList = ['.', '.']))
    (h : (percentEncode inPathSet text).length <
      (percentEncode inSegmentSet (counted segment.toList)).length) :
    (addSegments (path ++ ['/']) (segments text)).length < (push path segment).length := by
  have hread := length_addSegments (path ++ ['/']) (segments_ne_nil text)
  rw [length_segments] at hread
  have hplain := mt dots_of_percentEncode hdots
  rw [not_or, Bool.not_eq_true, Bool.not_eq_true] at hplain
  rw [push_eq hlast hname, addSegment, hplain.1, hplain.2]
  simp only [Bool.false_eq_true, if_false, List.append_nil, List.length_append] at hread ⊢
  omega

/-- A step in a path leads to a directory. -/
theorem addSegments_dots (hfirst : path.head? = some '/') (hlast : path.getLast? ≠ some '/')
    (hdots : text = ['.'] ∨ text = ['.', '.']) :
    addSegments (path ++ ['/']) (segments text) ≠ path := by
  obtain ⟨more, rfl⟩ := List.head?_eq_some_iff.mp hfirst
  have hdir : IsDirectory ('/' :: more ++ ['/']) := ⟨rfl, List.getLast?_concat⟩
  have hstep : addSegments ('/' :: more ++ ['/']) (segments text) =
      addSegment ('/' :: more ++ ['/']) text true := by
    rcases hdots with rfl | rfl <;> rfl
  intro heq
  rw [hstep] at heq
  have hslash := (addSegment_directory hdir text).2
  rw [heq] at hslash
  exact hlast hslash

theorem mem_counted {c : Char} (hc : c ∈ segment.toList)
    (hspecial : c ∈ ['/', '\\', '%', '?', '#']) : c ∈ counted segment.toList := by
  have hignored : ∀ c ∈ ['/', '\\', '%', '?', '#'], isIgnored c = false := by simp [isIgnored]
  exact List.mem_filter.mpr ⟨hc, by simp [hignored c hspecial]⟩

/-- A segment that is written into a text means what it means when it is handed over, exactly if
nothing of it is lost (`rest`), it has none of the characters with a meaning in a path, and it is
not the name of a directory. -/
theorem addSegments_eq_push_iff (hfirst : path.head? = some '/')
    (hlast : path.getLast? ≠ some '/') (htext : counted segment.toList = text ++ rest)
    (hfree : ∀ c ∈ text, c ≠ '?' ∧ c ≠ '#') (hrest : ∀ c ∈ rest.head?, inSegmentSet c = true) :
    addSegments (path ++ ['/']) (segments text) = push path segment ↔
      rest = [] ∧ (∀ c ∈ segment.toList, c ∉ ['/', '\\', '%', '?', '#']) ∧
        segment ≠ "." ∧ segment ≠ ".." := by
  have hset : ∀ c, inPathSet c = true → inSegmentSet c = true := by
    intro c hc
    rw [inSegmentSet, hc, Bool.true_or]
  -- a dot is never coded, so nothing behind it is lost
  have hwhole {dots : List Char} (hdots : dots = ['.'] ∨ dots = ['.', '.'])
      (h : counted segment.toList = dots) : text = dots ∧ rest = [] := by
    have hdot : ∀ c ∈ dots, c = '.' := by rcases hdots with rfl | rfl <;> simp
    cases rest with
    | nil => exact ⟨by rw [← h, htext, List.append_nil], rfl⟩
    | cons c rest =>
        have hmem : c ∈ dots := by
          rw [← h, htext]
          simp
        have hcoded := hrest c rfl
        rw [hdot c hmem] at hcoded
        exact absurd hcoded (by decide)
  constructor
  · intro heq
    have hname : ¬ (segment = "." ∨ segment = "..") := by
      intro hname
      rw [push, if_pos hname] at heq
      rcases hname with rfl | rfl
      · exact addSegments_dots hfirst hlast (.inl (hwhole (.inl rfl) rfl).1) heq
      · exact addSegments_dots hfirst hlast (.inr (hwhole (.inr rfl) rfl).1) heq
    by_cases hdots : counted segment.toList = ['.'] ∨ counted segment.toList = ['.', '.']
    · refine ⟨(hwhole hdots rfl).2, fun c hc hspecial => ?_, not_or.mp hname⟩
      have hmem := mem_counted hc hspecial
      have hdot : c = '.' := by rcases hdots with h | h <;> simpa [h] using hmem
      rw [hdot] at hspecial
      exact absurd hspecial (by decide)
    · have hnot : ¬ (percentEncode inPathSet text).length <
          (percentEncode inSegmentSet (counted segment.toList)).length := by
        intro hlt
        have hshorter := length_lt_push hlast hname hdots hlt
        rw [heq] at hshorter
        exact absurd hshorter (Nat.lt_irrefl _)
      have hnone : rest = [] := by
        refine Classical.byContradiction fun hne => hnot ?_
        have htext' := length_percentEncode_le hset text
        have hrest' : 0 < (percentEncode inSegmentSet rest).length :=
          List.length_pos_iff.mpr (percentEncode_eq_nil.not.mpr hne)
        rw [htext, percentEncode_append, List.length_append]
        omega
      refine ⟨hnone, fun c hc hspecial => hnot ?_, not_or.mp hname⟩
      have hmem := mem_counted hc hspecial
      rw [htext, hnone, List.append_nil] at hmem ⊢
      have hcoded : (c.toNat < 128 ∧ (!inPathSet c) = true) ∧ inSegmentSet c = true := by
        have hends := hfree c hmem
        simp only [List.mem_cons, List.not_mem_nil, or_false] at hspecial
        rcases hspecial with rfl | rfl | rfl | rfl | rfl
        · decide
        · decide
        · decide
        · exact absurd rfl hends.1
        · exact absurd rfl hends.2
      exact length_percentEncode_lt hset hmem hcoded.1 hcoded.2
  · rintro ⟨rfl, hplain, hdot, hdots⟩
    rw [List.append_nil] at htext
    have hmem : ∀ c ∈ text, c ∉ ['/', '\\', '%', '?', '#'] := by
      intro c hc
      rw [← htext] at hc
      exact hplain c (List.mem_filter.mp hc).1
    have hslash : ∀ c ∈ text, isSlash c = false := by
      intro c hc
      have := hmem c hc
      simp_all [isSlash]
    have hcode : percentEncode inPathSet text = percentEncode inSegmentSet text :=
      percentEncode_segment fun c hc hspecial => hmem c hc (by simp_all)
    rw [push_eq hlast (not_or.mpr ⟨hdot, hdots⟩), segments_of_free hslash, hcode, htext]
    rfl

end

end Url

end FunctionConsole.Web
