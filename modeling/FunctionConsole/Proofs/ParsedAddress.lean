import FunctionConsole.Proofs.Address
import FunctionConsole.Proofs.Web.Reading

/-!
# Addresses that were read

One address can be spelled in many ways: with blanks around it, behind `#` or `#!`, with the long
form of a code address, with a sign and zeros in front of a number. It is written in one way only.

Reading decides little about the strings in an address: none is empty and none has a slash, and the
last segment does not end in a blank, since blanks at the end of a path are dropped. The strings
stay in their places when the address is written, but for one: the id of the long form of a code
address stands before the last segment when it is read, and is the last segment when it is written.
`parse_eq_some` says so, and `parsed_address_read_back` what follows from it.
-/

namespace FunctionConsole.Route

open Text (EndsInBlank)

variable {s : String} {segs : List String} {r : Route}

-- ==================================================== spellings

/-- The segments of a path stand behind a slash at its end, once it is trimmed: what comes before
that slash is one of the marks that are passed over. -/
theorem segments?_cut (h : segments? s = some segs) :
    ∃ l, '/' :: l <:+ Text.trimChars s.toList ∧
      (Text.splitOnChar (· == '/') l).any List.isEmpty = false ∧
      segs = (Text.splitOnChar (· == '/') l).map String.ofList := by
  unfold segments? at h
  dsimp only at h
  split at h
  · next l heq =>
      have hsuffix : '/' :: l <:+ Text.trimChars s.toList := by
        rw [← heq]
        split
        · next rest htrim => rw [htrim]; exact List.suffix_append ['#', '!'] rest
        · next rest _ htrim => rw [htrim]; exact List.suffix_cons '#' rest
        · exact List.suffix_refl _
      split at h
      · cases h
      · next hfull => exact ⟨l, hsuffix, Bool.eq_false_iff.mpr hfull, (Option.some.inj h).symm⟩
  · cases h

/-- However a path is spelled, a path that begins with a slash has the same segments. -/
theorem segments?_bare (h : segments? s = some segs) :
    ∃ l, segments? (String.ofList ('/' :: l)) = some segs := by
  obtain ⟨l, hsuffix, hfull, rfl⟩ := segments?_cut h
  have hend : ¬ EndsInBlank ('/' :: l) := by
    intro hblank
    rw [Text.endsInBlank_of_suffix (List.cons_ne_nil _ _) hsuffix] at hblank
    exact Text.not_endsInBlank_dropEndWhile _ hblank
  have htrimmed : Text.dropEndWhile Text.isBlank l = l := by
    have := Text.dropEndWhile_of_not_endsInBlank hend
    rw [Text.dropEndWhile_cons_of_neg (by decide)] at this
    exact List.tail_eq_of_cons_eq this
  refine ⟨l, ?_⟩
  rw [segments?_of_slash String.toList_ofList, htrimmed, ← Text.splitOnChar_eq_splitOn, hfull]
  rfl

/-- Segments that were read are not empty and have no slash, and the last does not end in a blank.
-/
theorem segments?_sound (h : segments? s = some segs) :
    (∀ t ∈ segs, t ≠ "" ∧ '/' ∉ t.toList) ∧
      ∀ t, segs.getLast? = some t → ¬ EndsInBlank t.toList := by
  obtain ⟨l, hbare⟩ := segments?_bare h
  obtain ⟨hwhole, hlast, -⟩ := segments?_eq_some String.toList_ofList hbare
  exact ⟨hwhole, hlast⟩

-- ==================================================== what was read

/-- The strings of an address that was read are not empty and have no slash. Its last segment does
not end in a blank, unless it is an id that was read from the long form of a code address. -/
theorem parse_eq_some (h : parse s = some r) :
    (∀ t ∈ r.texts, t ≠ "" ∧ '/' ∉ t.toList) ∧
      ((∀ t, r.segments.getLast? = some t → ¬ EndsInBlank t.toList) ∨
        ∃ id, r = .code id ∧ segments? s = some ["functions", id, "code"]) := by
  obtain ⟨segs, hsegs, hr⟩ := Option.bind_eq_some_iff.mp h
  obtain ⟨hwhole, hlast⟩ := segments?_sound hsegs
  rcases ofSegments?_eq_some hr with rfl | ⟨id, rfl, rfl⟩ | ⟨id, old, new, o, n, rfl, rfl⟩
  · exact ⟨fun t ht => hwhole t (r.mem_segments_of_mem_texts t ht), .inl hlast⟩
  · refine ⟨fun t ht => ?_, .inr ⟨id, rfl, hsegs⟩⟩
    rw [List.mem_singleton.mp ht]
    exact hwhole id (by simp)
  · refine ⟨fun t ht => ?_, .inl fun t ht => ?_⟩
    · rw [List.mem_singleton.mp ht]
      exact hwhole id (by simp)
    · -- the numbers are written without blanks, however they were read
      obtain rfl : toString new.toNat = t := Option.some.inj ht
      exact (plain_toString _).not_endsInBlank

/-- Whether an address with whole strings is read back hangs on the end of its last segment. -/
theorem parse_path_iff (hwhole : ∀ t ∈ r.texts, t ≠ "" ∧ '/' ∉ t.toList) :
    parse r.path = some r ↔ ∀ t, r.segments.getLast? = some t → ¬ EndsInBlank t.toList := by
  have hunslashed : ∀ t ∈ r.segments, '/' ∉ t.toList := by
    intro t ht
    rcases r.mem_segments t ht with htext | hplain
    · exact (hwhole t htext).2
    · exact hplain.unslashed
  constructor
  · intro h t ht
    rcases r.mem_segments t (List.mem_of_getLast? ht) with htext | hplain
    · exact (legible_of_parse_path h t htext).unblank (lastSegment_path hunslashed ht)
    · exact hplain.not_endsInBlank
  · intro h
    apply parse_path_of_legible
    intro t ht
    refine ⟨(hwhole t ht).1, (hwhole t ht).2, fun hpath => ?_⟩
    obtain ⟨w, hw⟩ : ∃ w, r.segments.getLast? = some w :=
      ⟨_, List.getLast?_eq_some_getLast r.segments_ne_nil⟩
    rw [← hpath, lastSegment_path hunslashed hw]
    exact h w hw

-- ==================================================== the short form

/-- What the short form of a code address is read as: the blanks at the end of the id are dropped,
and what is left may be nothing, or the word for the create screen. -/
def shortForm? (id : String) : Option Route :=
  let id := Text.trimEnd id
  if id = "" then none else if id = "new" then some .create else some (.code id)

/-- An id that ends in a blank is not the word for the create screen, which has the long form. -/
theorem ne_new_of_endsInBlank {id : String} (h : EndsInBlank id.toList) : id ≠ "new" := by
  intro hid
  rw [hid] at h
  exact Plain.not_endsInBlank (by decide) h

/-- The segments of a code address in the short form, once more taken apart at the slash. -/
theorem splitOn_short {l : List Char} (h : '/' ∉ l) :
    ("functions".toList ++ '/' :: l).splitOn '/' = ["functions".toList, l] := by
  have hsplit : (['/'].intercalate ["functions".toList, l]).splitOn '/' =
      ["functions".toList, l] :=
    List.splitOn_intercalate '/' (by simpa using h) (by simp)
  simpa [List.intercalate_cons_cons] using hsplit

theorem parse_short {id : String} (hnew : id ≠ "new") (hslash : '/' ∉ id.toList) :
    parse (path (.code id)) = shortForm? id := by
  have hpath : (path (.code id)).toList = '/' :: ("functions".toList ++ '/' :: id.toList) := by
    rw [toList_path, segments, if_neg hnew]
    simp [List.intercalate_cons_cons]
  have hrest : '/' ∉ Text.dropEndWhile Text.isBlank id.toList := fun h =>
    hslash ((List.rdropWhile_prefix Text.isBlank id.toList).subset h)
  have htrim : Text.trimEnd id = String.ofList (Text.dropEndWhile Text.isBlank id.toList) := rfl
  rw [parse, segments?_of_slash hpath, Text.dropEndWhile_append _ (by decide), splitOn_short hrest,
    shortForm?, htrim]
  generalize Text.dropEndWhile Text.isBlank id.toList = l
  by_cases hempty : l = []
  · rw [hempty]
    rfl
  · have hfull : ["functions".toList, l].any List.isEmpty = false := by simpa using hempty
    have hne : String.ofList l ≠ "" := fun h => hempty (by simpa using congrArg String.toList h)
    rw [hfull, if_neg Bool.false_ne_true, Option.bind_some, if_neg hne]
    by_cases hword : String.ofList l = "new"
    · rw [if_pos hword, List.map_cons, List.map_cons, hword]
      rfl
    · rw [if_neg hword]
      have hsegments : ["functions".toList, l].map String.ofList =
          (Route.code (String.ofList l)).segments := by
        rw [segments, if_neg hword]
        rfl
      rw [hsegments, ofSegments?_segments]

/-- What the short form is read as is read back from then on: the blanks are gone. -/
theorem shortForm?_stable {id : String} (hslash : '/' ∉ id.toList) (h : shortForm? id = some r) :
    parse r.path = some r := by
  unfold shortForm? at h
  dsimp only at h
  split at h
  · cases h
  · next hne =>
      split at h
      · cases h
        decide
      · next hnew =>
          cases h
          have hwhole : ∀ t ∈ (Route.code (Text.trimEnd id)).texts, t ≠ "" ∧ '/' ∉ t.toList := by
            intro t ht
            rw [List.mem_singleton.mp ht]
            refine ⟨hne, fun hmem => hslash ?_⟩
            rw [Text.trimEnd, String.toList_ofList] at hmem
            exact (List.rdropWhile_prefix Text.isBlank id.toList).subset hmem
          rw [parse_path_iff hwhole]
          intro t ht
          rw [segments, if_neg hnew] at ht
          obtain rfl : Text.trimEnd id = t := Option.some.inj ht
          rw [Text.trimEnd, String.toList_ofList]
          exact Text.not_endsInBlank_dropEndWhile _

-- ==================================================== reading once more

/-- An address that was read is found again in the path that is written for it, however it was
spelled, unless it is a code address whose id ends in a blank. Such an id comes from the long form
only; the short form that is written for it is read as another address or as none. What is read
then is found again from there on. -/
theorem parsed_address_read_back (h : parse s = some r) :
    (parse r.path = some r ↔ ∀ id, r = .code id → ¬ EndsInBlank id.toList) ∧
      (∀ id, r = .code id → EndsInBlank id.toList →
        segments? s = some ["functions", id, "code"] ∧ parse r.path = shortForm? id) ∧
      ∀ r', parse r.path = some r' → parse r'.path = some r' := by
  obtain ⟨hwhole, hlast⟩ := parse_eq_some h
  have hshort : ∀ id, r = .code id → EndsInBlank id.toList → parse r.path = shortForm? id := by
    rintro id rfl hblank
    exact parse_short (ne_new_of_endsInBlank hblank) (hwhole id List.mem_cons_self).2
  have hends : (∀ t, r.segments.getLast? = some t → ¬ EndsInBlank t.toList) ↔
      ∀ id, r = .code id → ¬ EndsInBlank id.toList := by
    constructor
    · rintro hend id rfl hblank
      refine hend id ?_ hblank
      rw [segments, if_neg (ne_new_of_endsInBlank hblank)]
      rfl
    · intro hcode
      rcases hlast with hend | ⟨id, rfl, -⟩
      · exact hend
      · intro t ht
        by_cases hnew : id = "new"
        · rw [segments, if_pos hnew] at ht
          obtain rfl : "code" = t := Option.some.inj ht
          exact Plain.not_endsInBlank (by decide)
        · rw [segments, if_neg hnew] at ht
          obtain rfl : id = t := Option.some.inj ht
          exact hcode id rfl
  have hstable : parse r.path = some r ↔ ∀ id, r = .code id → ¬ EndsInBlank id.toList :=
    (parse_path_iff hwhole).trans hends
  refine ⟨hstable, fun id hr hblank => ⟨?_, hshort id hr hblank⟩, fun r' hr' => ?_⟩
  · rcases hlast with hend | ⟨id', hr', hsegs⟩
    · exact absurd hblank (hends.mp hend id hr)
    · obtain rfl : id' = id := Route.code.inj (hr'.symm.trans hr)
      exact hsegs
  · by_cases hback : parse r.path = some r
    · obtain rfl : r = r' := Option.some.inj (hback.symm.trans hr')
      exact hback
    · rw [hstable] at hback
      push Not at hback
      obtain ⟨id, rfl, hblank⟩ := hback
      rw [hshort id rfl hblank] at hr'
      exact shortForm?_stable (hwhole id List.mem_cons_self).2 hr'

/-- A path with blanks around it, behind a mark, and with a sign and zeros in front of a number; and
one in the long form, whose id has blanks in front and within. Both addresses are read back. -/
theorem odd_spellings_read_back :
    parse " #!/functions/a b/diff/+007/2\n" = some (.diff "a b" 7 2) ∧
      parse (path (.diff "a b" 7 2)) = some (.diff "a b" 7 2) ∧
      parse "/functions/ a b/code" = some (.code " a b") ∧
      parse (path (.code " a b")) = some (.code " a b") := by
  have hdiff : parse " #!/functions/a b/diff/+007/2\n" = some (.diff "a b" 7 2) := by
    decide +kernel
  have hcode : parse "/functions/ a b/code" = some (.code " a b") := by decide +kernel
  refine ⟨hdiff, (parsed_address_read_back hdiff).1.mpr fun id hid => ?_, hcode,
    (parsed_address_read_back hcode).1.mpr fun id hid => ?_⟩
  · cases hid
  · obtain rfl : " a b" = id := Route.code.inj hid
    intro ⟨c, hlast, hblank⟩
    obtain rfl : 'b' = c := Option.some.inj hlast
    cases hblank

/-- In the long form an id may end in a blank. In the short form that is written for it the blank
is lost, so that another function is shown, or the create screen, or nothing is read at all. -/
theorem blank_of_long_form_is_lost :
    (parse "/functions/a /code" = some (.code "a ") ∧
      parse (path (.code "a ")) = some (.code "a")) ∧
    (parse "/functions/new /code" = some (.code "new ") ∧
      parse (path (.code "new ")) = some .create) ∧
    (parse "/functions/ /code" = some (.code " ") ∧ parse (path (.code " ")) = none) ∧
    ¬ ∀ s r, parse s = some r → parse r.path = some r := by
  refine ⟨by decide +kernel, by decide +kernel, by decide +kernel, fun hall => ?_⟩
  have hback : parse (path (.code "a ")) = some (.code "a ") :=
    hall "/functions/a /code" (.code "a ") (by decide +kernel)
  exact absurd hback (by decide +kernel)

end FunctionConsole.Route
