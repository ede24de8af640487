import FunctionConsole.Route
import Mathlib.Data.List.DropRight

/-!
# Addresses and their paths

An address is written as a path by putting its segments behind slashes, and read back by taking the
path apart at its slashes. Nothing is escaped, so a path can be read back only if the strings in the
address do not meddle with its shape: `Legible` says which do not, and `path_read_back` that these
are exactly the ones that survive.

`segments` is what is common to both directions. `toList_path` says how a path is made of the
segments, `segments?_path` that they are found again, and `ofSegments?_segments` that they name the
address; `ofSegments?_eq_some` says which other segments name the same one.
-/

namespace FunctionConsole

-- ==================================================== cutting texts

namespace Text

/-- The pieces of a text are those of the library's `List.splitOn`. -/
theorem splitOnChar_eq_splitOn (x : Char) (l : List Char) :
    splitOnChar (· == x) l = l.splitOn x := by
  induction l with
  | nil => rfl
  | cons c rest ih =>
      rw [List.splitOn_cons_eq_if_modifyHead, splitOnChar, ih]
      split
      · rfl
      · cases hrest : rest.splitOn x with
        | nil => exact absurd hrest (List.splitOn_ne_nil x rest)
        | cons piece more => rfl

theorem not_mem_of_mem_splitOn {x : Char} {l piece : List Char} (h : piece ∈ l.splitOn x) :
    x ∉ piece := by
  induction l generalizing piece with
  | nil =>
      rw [List.splitOn_nil, List.mem_singleton] at h
      rw [h]
      exact List.not_mem_nil
  | cons c rest ih =>
      rw [List.splitOn_cons_eq_if_modifyHead] at h
      split at h
      · rcases List.mem_cons.mp h with rfl | hmem
        · exact List.not_mem_nil
        · exact ih hmem
      · next hc =>
          cases hrest : rest.splitOn x with
          | nil => exact absurd hrest (List.splitOn_ne_nil x rest)
          | cons first more =>
              rw [hrest, List.modifyHead_cons] at h
              rw [hrest] at ih
              rcases List.mem_cons.mp h with rfl | hmem
              · intro hx
                rcases List.mem_cons.mp hx with rfl | hx
                · exact hc (beq_self_eq_true _)
                · exact ih List.mem_cons_self hx
              · exact ih (List.mem_cons_of_mem _ hmem)

/-- Pieces that are joined end the way the last of them ends. -/
theorem suffix_intercalate {x : Char} {pieces : List (List Char)} {last : List Char}
    (h : pieces.getLast? = some last) : last <:+ [x].intercalate pieces := by
  induction pieces with
  | nil => cases h
  | cons piece rest ih =>
      cases rest with
      | nil =>
          rw [List.getLast?_singleton] at h
          rw [List.intercalate_singleton]
          exact Option.some.inj h ▸ List.suffix_refl piece
      | cons piece' rest =>
          rw [List.getLast?_cons_cons] at h
          rw [List.intercalate_cons_cons]
          exact (ih h).trans (List.suffix_append _ _)

/-- A digit is no blank: the ranges of blanks begin below the digits and go on above them. -/
theorem isBlank_of_isDigit {c : Char} (h : c.isDigit = true) : isBlank c = false := by
  rw [Char.isDigit_iff_toNat] at h
  have hlo : 48 ≤ c.toNat := h.1
  have hhi : c.toNat ≤ 57 := h.2
  have hranges : ∀ r ∈ blankRanges, r.2 < 48 ∨ 57 < r.1 := by decide
  rw [isBlank, inRanges, List.any_eq_false]
  intro r hr
  rcases hranges r hr with hbelow | habove
  · simp only [Bool.and_eq_true, decide_eq_true_eq, not_and]
    omega
  · simp only [Bool.and_eq_true, decide_eq_true_eq, not_and]
    omega

/-- Whether the last character of a text is a blank. -/
def EndsInBlank (l : List Char) : Prop := ∃ c, l.getLast? = some c ∧ isBlank c = true

theorem EndsInBlank.ne_nil {l : List Char} (h : EndsInBlank l) : l ≠ [] := by
  rintro rfl
  obtain ⟨c, hlast, -⟩ := h
  cases hlast

/-- What ends a text decides how the text ends. -/
theorem endsInBlank_of_suffix {l l' : List Char} (hne : l ≠ []) (h : l <:+ l') :
    EndsInBlank l ↔ EndsInBlank l' := by
  obtain ⟨front, rfl⟩ := h
  rw [EndsInBlank, EndsInBlank, List.getLast?_append_of_ne_nil front hne]

theorem not_endsInBlank_dropEndWhile (l : List Char) : ¬ EndsInBlank (dropEndWhile isBlank l) := by
  rintro ⟨c, hlast, hblank⟩
  have hne : dropEndWhile isBlank l ≠ [] := by
    intro hnil
    rw [hnil] at hlast
    cases hlast
  rw [List.getLast?_eq_some_getLast hne] at hlast
  exact List.rdropWhile_last_not isBlank l hne (Option.some.inj hlast ▸ hblank)

/-- Only at its end a text loses anything. -/
theorem dropEndWhile_cons_of_neg {p : Char → Bool} {c : Char} (h : p c = false) (l : List Char) :
    dropEndWhile p (c :: l) = c :: dropEndWhile p l := by
  rw [dropEndWhile, dropEndWhile, List.reverse_cons, List.dropWhile_append]
  split
  · next hempty =>
      rw [List.isEmpty_iff.mp hempty, List.dropWhile_cons_of_neg (by simp [h])]
      rfl
  · rw [List.reverse_append]
    rfl

theorem dropEndWhile_of_not_endsInBlank {l : List Char} (h : ¬ EndsInBlank l) :
    dropEndWhile isBlank l = l := by
  refine List.rdropWhile_eq_self_iff.mpr fun hne hblank => h ?_
  exact ⟨l.getLast hne, List.getLast?_eq_some_getLast hne, hblank⟩

end Text

namespace Route

open Text (EndsInBlank)

-- ==================================================== numerals

/-- Digits are read as the number that they write, in whatever context they stand. -/
theorem digitsValue?_eq {l : List Char} (h : ∀ c ∈ l, c.isDigit = true) (n : Nat) :
    digitsValue? l n = some (Nat.ofDigitChars 10 l n) := by
  induction l generalizing n with
  | nil => rfl
  | cons c rest ih =>
      have hrest : ∀ c ∈ rest, c.isDigit = true := fun d hd => h d (List.mem_cons_of_mem _ hd)
      rw [digitsValue?, if_pos (h c List.mem_cons_self), ih hrest, Nat.ofDigitChars_cons,
        Nat.mul_comm n 10]

theorem readWord?_toString (n : UInt32) : readWord? (toString n.toNat).toList = some n := by
  rw [Nat.toString_eq_ofList_toDigits, String.toList_ofList]
  have hdigits : ∀ c ∈ Nat.toDigits 10 n.toNat, c.isDigit = true := fun c hc =>
    Nat.isDigit_of_mem_toDigits (by omega) (by omega) hc
  have hvalue : digitsValue? (Nat.toDigits 10 n.toNat) 0 = some n.toNat := by
    rw [digitsValue?_eq hdigits, Nat.ofDigitChars_ten_toDigits]
  have hlt : n.toNat < UInt32.size := n.toNat_lt
  unfold readWord?
  split
  · next rest heq =>
      -- no digit is a sign
      have hsign := hdigits '+' (heq ▸ List.mem_cons_self)
      exact absurd hsign (by decide)
  · have hne : (Nat.toDigits 10 n.toNat).isEmpty = false := by
      rw [List.isEmpty_eq_false_iff]
      exact Nat.toDigits_ne_nil
    rw [if_neg (by simp [hne]), hvalue]
    dsimp only
    rw [if_pos hlt, UInt32.ofNat_toNat]

-- ==================================================== segments

/-- The strings that an address holds. -/
def texts : Route → List String
  | .code id | .versions id | .executions id | .settings id | .test id | .diff id _ _
  | .execution id => [id]
  | .preview component => component.toList
  | _ => []

/-- What the path of an address has between its slashes. -/
def segments : Route → List String
  | .login => ["login"]
  | .functions => ["functions"]
  | .create => ["functions", "new"]
  | .code id => if id = "new" then ["functions", "new", "code"] else ["functions", id]
  | .versions id => ["functions", id, "versions"]
  | .executions id => ["functions", id, "executions"]
  | .settings id => ["functions", id, "settings"]
  | .test id => ["functions", id, "test"]
  | .diff id old new =>
    ["functions", id, "diff", toString old.toNat, toString new.toNat]
  | .execution id => ["executions", id]
  | .preview none => ["preview"]
  | .preview (some component) => ["preview", component]

/-- A segment that never gets in the way: it is not empty and has neither slashes nor blanks. -/
def Plain (s : String) : Prop :=
  s ≠ "" ∧ ∀ c ∈ s.toList, c ≠ '/' ∧ Text.isBlank c = false

instance (s : String) : Decidable (Plain s) :=
  decidable_of_iff
    (s ≠ "" ∧ (s.toList.all fun c => c ≠ '/' && !Text.isBlank c) = true) (by simp [Plain])

theorem plain_toString (n : Nat) : Plain (toString n) := by
  rw [Nat.toString_eq_ofList_toDigits]
  refine ⟨fun hempty => Nat.toDigits_ne_nil (n := n) (b := 10) ?_, fun c hc => ?_⟩
  · simpa using congrArg String.toList hempty
  · rw [String.toList_ofList] at hc
    have hdigit := Nat.isDigit_of_mem_toDigits (by omega) (by omega) hc
    refine ⟨?_, Text.isBlank_of_isDigit hdigit⟩
    rintro rfl
    exact absurd hdigit (by decide)

/-- Between the slashes stand strings of the address, and words and numbers that never get in the
way. -/
theorem mem_segments (r : Route) : ∀ s ∈ r.segments, s ∈ r.texts ∨ Plain s := by
  have hnone : ∀ s ∈ ([] : List String), s ∈ r.texts ∨ Plain s := fun s hs => by cases hs
  cases r with
  | login | functions =>
      simp only [segments, List.forall_mem_cons]
      exact ⟨.inr (by decide), hnone⟩
  | create =>
      simp only [segments, List.forall_mem_cons]
      exact ⟨.inr (by decide), .inr (by decide), hnone⟩
  | code id =>
      by_cases h : id = "new"
      · simp only [segments, if_pos h, List.forall_mem_cons]
        exact ⟨.inr (by decide), .inr (by decide), .inr (by decide), hnone⟩
      · simp only [segments, if_neg h, texts, List.forall_mem_cons]
        exact ⟨.inr (by decide), .inl List.mem_cons_self, hnone⟩
  | versions id | executions id | settings id | test id =>
      simp only [segments, texts, List.forall_mem_cons]
      exact ⟨.inr (by decide), .inl List.mem_cons_self, .inr (by decide), hnone⟩
  | diff id old new =>
      simp only [segments, texts, List.forall_mem_cons]
      exact ⟨.inr (by decide), .inl List.mem_cons_self, .inr (by decide), .inr (plain_toString _),
        .inr (plain_toString _), hnone⟩
  | execution id =>
      simp only [segments, texts, List.forall_mem_cons]
      exact ⟨.inr (by decide), .inl List.mem_cons_self, hnone⟩
  | preview component =>
      cases component with
      | none =>
          simp only [segments, List.forall_mem_cons]
          exact ⟨.inr (by decide), hnone⟩
      | some slug =>
          simp only [segments, texts, List.forall_mem_cons]
          exact ⟨.inr (by decide), .inl List.mem_cons_self, hnone⟩

theorem mem_segments_of_mem_texts (r : Route) : ∀ s ∈ r.texts, s ∈ r.segments := by
  cases r with
  | code id => by_cases h : id = "new" <;> simp [segments, texts, h]
  | preview component => cases component <;> simp [segments, texts]
  | _ => simp [segments, texts]

/-- A path is its segments behind slashes. -/
theorem toList_path (r : Route) :
    r.path.toList = '/' :: ['/'].intercalate (r.segments.map String.toList) := by
  cases r with
  | code id =>
      by_cases h : id = "new"
      · dsimp only [path, segments]
        rw [if_pos h, if_pos h]
        rfl
      · dsimp only [path, segments]
        rw [if_neg h, if_neg h]
        simp [List.intercalate_cons_cons]
  | preview component =>
      cases component with
      | none => rfl
      | some slug =>
          dsimp only [path, segments]
          simp [List.intercalate_cons_cons]
  | _ =>
      dsimp only [path, segments]
      simp [List.intercalate_cons_cons]

theorem ofSegments?_segments (r : Route) : ofSegments? r.segments = some r := by
  cases r with
  | code id =>
      by_cases h : id = "new"
      · rw [segments, if_pos h, h]
        rfl
      · rw [segments, if_neg h]
        simp only [ofSegments?]
  | diff id old new => simp only [segments, ofSegments?, readWord?_toString]
  | preview component => cases component <;> rfl
  | _ => simp only [segments, ofSegments?]

theorem segments_ne_nil (r : Route) : r.segments ≠ [] := by
  cases r with
  | code id => by_cases h : id = "new" <;> simp [segments, h]
  | preview component => cases component <;> simp [segments]
  | _ => simp [segments]

/-- Segments that name an address are its own, unless it is that of a function's code, which has a
long form, or a difference, whose numbers can be written in several ways. -/
theorem ofSegments?_eq_some {segs : List String} {r : Route} (h : ofSegments? segs = some r) :
    segs = r.segments ∨ (∃ id, r = .code id ∧ segs = ["functions", id, "code"]) ∨
      ∃ id old new o n, r = .diff id old new ∧ segs = ["functions", id, "diff", o, n] := by
  unfold ofSegments? at h
  split at h
  case h_4 id hnew =>
      cases h
      have hid : id ≠ "new" := fun heq => hnew (heq ▸ rfl)
      exact .inl (if_neg hid).symm
  case h_5 id =>
      cases h
      exact .inr (.inl ⟨id, rfl, rfl⟩)
  case h_10 id o n =>
      split at h
      · cases h
        exact .inr (.inr ⟨id, _, _, o, n, rfl, rfl⟩)
      · cases h
  case h_14 => cases h
  all_goals
    cases h
    exact .inl rfl

-- ==================================================== paths and their segments

section

variable {path : String} {l : List Char} {segs : List String}

/-- A path that starts with a slash has for its segments the pieces between its slashes, less the
blanks at its end. -/
theorem segments?_of_slash (h : path.toList = '/' :: l) :
    segments? path =
      if ((Text.dropEndWhile Text.isBlank l).splitOn '/').any List.isEmpty then none
      else some (((Text.dropEndWhile Text.isBlank l).splitOn '/').map String.ofList) := by
  have htrim : Text.trimChars ('/' :: l) = '/' :: Text.dropEndWhile Text.isBlank l := by
    rw [Text.trimChars, Text.dropAroundWhile, List.dropWhile_cons_of_neg (by decide),
      Text.dropEndWhile_cons_of_neg (by decide)]
  unfold segments?
  rw [h, htrim]
  simp only [Text.splitOnChar_eq_splitOn]
  rfl

/-- Segments that have been read are not empty, hold no slash, do not end the path in a blank, and
take no more room than the path has. -/
theorem segments?_eq_some (hpath : path.toList = '/' :: l) (h : segments? path = some segs) :
    (∀ s ∈ segs, s ≠ "" ∧ '/' ∉ s.toList) ∧
      (∀ s, segs.getLast? = some s → ¬ EndsInBlank s.toList) ∧
      (['/'].intercalate (segs.map String.toList)).length ≤ l.length := by
  rw [segments?_of_slash hpath] at h
  split at h
  · cases h
  · next hfull =>
      obtain rfl := Option.some.inj h
      have htoList : (((Text.dropEndWhile Text.isBlank l).splitOn '/').map String.ofList).map
          String.toList = (Text.dropEndWhile Text.isBlank l).splitOn '/' := by
        rw [List.map_map, show String.toList ∘ String.ofList = id from
          funext fun _ => String.toList_ofList, List.map_id]
      have hnonempty : ∀ piece ∈ (Text.dropEndWhile Text.isBlank l).splitOn '/', piece ≠ [] :=
        fun piece hpiece hnil => hfull (List.any_eq_true.mpr ⟨piece, hpiece, by rw [hnil]; rfl⟩)
      refine ⟨fun s hs => ?_, fun s hs => ?_, ?_⟩
      · obtain ⟨piece, hpiece, rfl⟩ := List.mem_map.mp hs
        rw [String.toList_ofList]
        refine ⟨fun hempty => hnonempty piece hpiece ?_, Text.not_mem_of_mem_splitOn hpiece⟩
        simpa using congrArg String.toList hempty
      · rw [List.getLast?_map] at hs
        obtain ⟨piece, hlast, rfl⟩ := Option.map_eq_some_iff.mp hs
        have hsuffix := Text.suffix_intercalate (x := '/') hlast
        rw [List.intercalate_splitOn] at hsuffix
        rw [String.toList_ofList,
          Text.endsInBlank_of_suffix (hnonempty piece (List.mem_of_getLast? hlast)) hsuffix]
        exact Text.not_endsInBlank_dropEndWhile l
      · rw [htoList, List.intercalate_splitOn]
        exact (List.rdropWhile_prefix Text.isBlank l).length_le

variable {r : Route}

/-- The segments of an address are found again in its path if none is empty or holds a slash and the
last one does not end in a blank. -/
theorem segments?_path (hwhole : ∀ s ∈ r.segments, s ≠ "" ∧ '/' ∉ s.toList)
    (hlast : ∀ s, r.segments.getLast? = some s → ¬ EndsInBlank s.toList) :
    segments? r.path = some r.segments := by
  have hsplit : (['/'].intercalate (r.segments.map String.toList)).splitOn '/' =
      r.segments.map String.toList :=
    List.splitOn_intercalate '/' (by simpa using fun s hs => (hwhole s hs).2)
      (by simpa using r.segments_ne_nil)
  obtain ⟨s, hs⟩ : ∃ s, r.segments.getLast? = some s :=
    ⟨_, List.getLast?_eq_some_getLast r.segments_ne_nil⟩
  have htrimmed :
      Text.dropEndWhile Text.isBlank (['/'].intercalate (r.segments.map String.toList)) =
        ['/'].intercalate (r.segments.map String.toList) := by
    refine Text.dropEndWhile_of_not_endsInBlank ?_
    have hne : s.toList ≠ [] := by
      simpa using (hwhole s (List.mem_of_getLast? hs)).1
    have hsuffix : s.toList <:+ ['/'].intercalate (r.segments.map String.toList) :=
      Text.suffix_intercalate (by rw [List.getLast?_map, hs]; rfl)
    rw [← Text.endsInBlank_of_suffix hne hsuffix]
    exact hlast s hs
  have hfull : ¬ (r.segments.map String.toList).any List.isEmpty = true := by
    simpa using fun hempty => (hwhole "" hempty).1 rfl
  rw [segments?_of_slash r.toList_path, htrimmed, hsplit, if_neg hfull, List.map_map,
    show String.ofList ∘ String.toList = id from funext fun _ => String.ofList_toList, List.map_id]

/-- What stands behind the last slash of a path. -/
def lastSegment (path : String) : List Char := (path.toList.splitOn '/').getLastD []

/-- What stands behind the last slash is the last segment, if no segment holds a slash. -/
theorem lastSegment_path (hwhole : ∀ s ∈ r.segments, '/' ∉ s.toList) {s : String}
    (hs : r.segments.getLast? = some s) : lastSegment r.path = s.toList := by
  have hsplit : (['/'].intercalate (r.segments.map String.toList)).splitOn '/' =
      r.segments.map String.toList :=
    List.splitOn_intercalate '/' (by simpa using hwhole) (by simpa using r.segments_ne_nil)
  have hlast : (r.segments.map String.toList).getLast? = some s.toList := by
    rw [List.getLast?_map, hs]
    rfl
  rw [lastSegment, toList_path, List.splitOn_cons_eq_if_modifyHead, if_pos (by decide), hsplit,
    List.getLastD_eq_getLast?, List.getLast?_cons, hlast]
  rfl

end

-- ==================================================== what can be read back

/-- A string that does not meddle with the path it stands in: it is not empty, holds no slash, and
does not end the path in a blank, which would be dropped. -/
structure Legible (path s : String) : Prop where
  nonempty : s ≠ ""
  unslashed : '/' ∉ s.toList
  unblank : lastSegment path = s.toList → ¬ EndsInBlank s.toList

theorem Plain.not_endsInBlank {s : String} (h : Plain s) : ¬ EndsInBlank s.toList := by
  rintro ⟨c, hlast, hblank⟩
  rw [(h.2 c (List.mem_of_getLast? hlast)).2] at hblank
  cases hblank

theorem Plain.unslashed {s : String} (h : Plain s) : '/' ∉ s.toList :=
  fun hslash => (h.2 '/' hslash).1 rfl

theorem Plain.legible {s : String} (h : Plain s) (path : String) : Legible path s :=
  ⟨h.1, h.unslashed, fun _ => h.not_endsInBlank⟩

/-- An address with legible strings is read back from its path. -/
theorem parse_path_of_legible {r : Route} (h : ∀ s ∈ r.texts, Legible r.path s) :
    parse r.path = some r := by
  have hwhole : ∀ s ∈ r.segments, s ≠ "" ∧ '/' ∉ s.toList := by
    intro s hs
    rcases r.mem_segments s hs with htext | hplain
    · exact ⟨(h s htext).nonempty, (h s htext).unslashed⟩
    · exact ⟨hplain.1, hplain.unslashed⟩
  have hlast : ∀ s, r.segments.getLast? = some s → ¬ EndsInBlank s.toList := by
    intro s hs
    rcases r.mem_segments s (List.mem_of_getLast? hs) with htext | hplain
    · exact (h s htext).unblank (lastSegment_path (fun s hs => (hwhole s hs).2) hs)
    · exact hplain.not_endsInBlank
  rw [parse, segments?_path hwhole hlast, Option.bind_some, ofSegments?_segments]

/-- An address that is read back from its path has legible strings. -/
theorem legible_of_parse_path {r : Route} (h : parse r.path = some r) :
    ∀ s ∈ r.texts, Legible r.path s := by
  obtain ⟨segs, hsegs, hr⟩ := Option.bind_eq_some_iff.mp h
  obtain ⟨hread, hend, hlength⟩ := segments?_eq_some r.toList_path hsegs
  have hspelled := ofSegments?_eq_some hr
  have hwhole : ∀ s ∈ r.texts, s ≠ "" ∧ '/' ∉ s.toList := by
    intro s hs
    refine hread s ?_
    rcases hspelled with heq | ⟨id, rfl, heq⟩ | ⟨id, old, new, o, n, rfl, heq⟩
    · exact heq ▸ r.mem_segments_of_mem_texts s hs
    · rw [heq, List.mem_singleton.mp hs]
      simp
    · rw [heq, List.mem_singleton.mp hs]
      simp
  have hunslashed : ∀ s ∈ r.segments, '/' ∉ s.toList := by
    intro s hs
    rcases r.mem_segments s hs with htext | hplain
    · exact (hwhole s htext).2
    · exact hplain.unslashed
  -- the last segment is not a blank short: what was read would then be too long or too short
  have hlast : ∀ s, r.segments.getLast? = some s → ¬ EndsInBlank s.toList := by
    intro s hs
    rcases hspelled with heq | ⟨id, rfl, heq⟩ | ⟨id, old, new, o, n, rfl, heq⟩
    · exact hend s (heq ▸ hs)
    · -- the long form of a code address does not fit where the short one was written
      by_cases hid : id = "new"
      · exact hend s (by rw [heq, ← hs, segments, if_pos hid, hid])
      · rw [heq, segments, if_neg hid] at hlength
        exact absurd hlength (by simp [List.intercalate_cons_cons])
    · rw [segments] at hs
      obtain rfl : toString new.toNat = s := Option.some.inj hs
      exact (plain_toString _).not_endsInBlank
  intro s hs
  refine ⟨(hwhole s hs).1, (hwhole s hs).2, fun hpath => ?_⟩
  obtain ⟨w, hw⟩ : ∃ w, r.segments.getLast? = some w :=
    ⟨_, List.getLast?_eq_some_getLast r.segments_ne_nil⟩
  rw [← hpath, lastSegment_path hunslashed hw]
  exact hlast w hw

/-- Writing an address as a path and reading it back gives the address exactly if all of its strings
are legible. In particular whatever has no slashes and no blanks can stand in an address, on every
screen: ids that are words of paths themselves, ids that start with `#`, and any two versions. -/
theorem path_read_back :
    (∀ r : Route, parse r.path = some r ↔ ∀ s ∈ r.texts, Legible r.path s) ∧
      ∀ r : Route, (∀ s ∈ r.texts, Plain s) → parse r.path = some r :=
  ⟨fun _ => ⟨legible_of_parse_path, parse_path_of_legible⟩,
    fun _ h => parse_path_of_legible fun s hs => (h s hs).legible _⟩

/-- The id `new` is read back on the screen of the code, where it needs the long form, an id that
starts like a fragment on that of the versions, and the largest version in a difference. -/
theorem ids_like_words_read_back :
    parse (path (.code "new")) = some (.code "new") ∧
      parse (path (.versions "#!diff")) = some (.versions "#!diff") ∧
      parse (path (.diff "versions" 0 4294967295)) = some (.diff "versions" 0 4294967295) :=
  ⟨path_read_back.2 _ (by decide), path_read_back.2 _ (by decide), path_read_back.2 _ (by decide)⟩

end Route

end FunctionConsole
