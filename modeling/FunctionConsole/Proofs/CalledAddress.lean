import FunctionConsole.Proofs.Web.Extension
import FunctionConsole.Screen.Test

/-!
# The address that is called

The screen on which a function is called shows the address of the call, and its examples repeat it.
The call itself goes out under an address that the client makes. The one is put together as a text,
the other from an address and segments, and each takes question marks off the query in its own way.

`shown_is_called_iff` says for which functions and queries the two are the same: an id must not
have characters with a meaning in an address, a query must not begin with what the client would
still take off, and nothing may be lost at the end. For the rest the user is shown an address that
is not called (`question_marks_are_called_away`).
-/

namespace FunctionConsole

open Web (Url percentEncode inQuerySet inFragmentSet inSegmentSet)
open Web.Url (counted slashed splitBefore segments push queryOf fragmentOf isIgnored isEdge
  isPathEnd)

-- ==================================================== the id

/-- What stands behind the directory of functions in the address that is shown. -/
def callText (id query : String) : List Char :=
  id.toList ++ if query = "" then [] else '?' :: query.toList

theorem control_or_space_of_isEdge {c : Char} (h : isEdge c = true) :
    Web.isControl c = true ∨ c = ' ' := by
  have hle : c.toNat ≤ 32 := of_decide_eq_true h
  rcases Nat.lt_or_eq_of_le hle with hlt | heq
  · exact .inl (by simp [Web.isControl, hlt])
  · exact .inr (Char.ext (UInt32.toNat_inj.mp heq))

theorem inSegmentSet_of_isEdge {c : Char} (h : isEdge c = true) : inSegmentSet c = true := by
  rcases control_or_space_of_isEdge h with hcontrol | rfl
  · simp [inSegmentSet, Web.inPathSet, inFragmentSet, hcontrol]
  · decide

theorem inQuerySet_of_isEdge {c : Char} (h : isEdge c = true) : inQuerySet c = true := by
  rcases control_or_space_of_isEdge h with hcontrol | rfl
  · simp [inQuerySet, hcontrol]
  · decide

theorem inSegmentSet_of_isPathEnd {c : Char} (h : isPathEnd c = true) : inSegmentSet c = true := by
  simp only [isPathEnd, Bool.or_eq_true, beq_iff_eq] at h
  rcases h with rfl | rfl <;> decide

/-- Alone at the end of an address an id loses what an address loses there. -/
theorem id_alone (id : String) :
    let text := counted (Text.dropEndWhile isEdge id.toList)
    ∃ rest, counted id.toList = (splitBefore isPathEnd text).1 ++ rest ∧
      (∀ c ∈ rest.head?, inSegmentSet c = true) ∧
      (rest = [] → (splitBefore isPathEnd text).2 = []) ∧
      ((∀ c ∈ id.toList, isPathEnd c = false) →
        (rest = [] ↔ ∀ c ∈ (counted id.toList).getLast?, isEdge c = false)) := by
  intro text
  obtain ⟨dropped, hid, hdropped⟩ := Text.dropEndWhile_parts isEdge id.toList
  have hparts := Url.splitBefore_parts isPathEnd text
  have hcounted : counted id.toList = text ++ counted dropped := by
    rw [← Url.counted_append, ← hid]
  refine ⟨(splitBefore isPathEnd text).2 ++ counted dropped, ?_, ?_, ?_, fun hfree => ?_⟩
  · rw [← List.append_assoc, hparts, hcounted]
  · intro c hc
    cases hcut : (splitBefore isPathEnd text).2 with
    | nil =>
        rw [hcut, List.nil_append] at hc
        exact inSegmentSet_of_isEdge (hdropped c (List.mem_filter.mp (List.mem_of_head? hc)).1)
    | cons d more =>
        have hd := Url.splitBefore_second (p := isPathEnd) (congrArg List.head? hcut)
        rw [hcut] at hc
        exact Option.some.inj hc ▸ inSegmentSet_of_isPathEnd hd
  · exact fun hnone => (List.append_eq_nil_iff.mp hnone).1
  · have hwhole : (splitBefore isPathEnd text).2 = [] := by
      rw [Url.splitBefore_of_free fun c hc => hfree c ?_]
      rw [hid]
      exact List.mem_append_left _ (List.mem_filter.mp hc).1
    rw [hwhole, List.nil_append]
    constructor
    · intro hnone
      rw [hcounted, hnone, List.append_nil, Url.getLast?_counted Text.last_of_dropEndWhile]
      exact Text.last_of_dropEndWhile
    · intro hlast
      refine Classical.byContradiction fun hne => ?_
      have hmem := List.getLast_mem hne
      have hedge := hdropped _ (List.mem_filter.mp hmem).1
      rw [hcounted, List.getLast?_append_of_ne_nil _ hne,
        List.getLast?_eq_some_getLast hne] at hlast
      rw [hlast _ rfl] at hedge
      cases hedge

/-- Before a query nothing is lost at the end of an id. -/
theorem id_before_query (id : String) (query : List Char) :
    let text := counted (Text.dropEndWhile isEdge (id.toList ++ '?' :: query))
    ∃ rest, counted id.toList = (splitBefore isPathEnd text).1 ++ rest ∧
      (∀ c ∈ rest.head?, inSegmentSet c = true) ∧
      (rest = [] →
        (splitBefore isPathEnd text).2 = '?' :: counted (Text.dropEndWhile isEdge query)) ∧
      ((∀ c ∈ id.toList, isPathEnd c = false) → rest = []) := by
  intro text
  have hkept : Text.dropEndWhile isEdge (id.toList ++ '?' :: query) =
      id.toList ++ '?' :: Text.dropEndWhile isEdge query := Text.dropEndWhile_append _ rfl
  have htext : text = counted id.toList ++ '?' :: counted (Text.dropEndWhile isEdge query) := by
    show counted (Text.dropEndWhile isEdge _) = _
    rw [hkept, Url.counted_append]
    rfl
  have hcut : splitBefore isPathEnd text = ((splitBefore isPathEnd (counted id.toList)).1,
      (splitBefore isPathEnd (counted id.toList)).2 ++
        '?' :: counted (Text.dropEndWhile isEdge query)) := by
    rw [htext]
    refine Url.splitBefore_append (.inr fun c hc => ?_)
    obtain rfl : '?' = c := Option.some.inj hc
    rfl
  refine ⟨(splitBefore isPathEnd (counted id.toList)).2, ?_, fun c hc => ?_, fun hnone => ?_,
    fun hfree => ?_⟩
  · rw [hcut, Url.splitBefore_parts]
  · exact inSegmentSet_of_isPathEnd (Url.splitBefore_second hc)
  · rw [hcut, hnone, List.nil_append]
  · have hfree' : ∀ c ∈ counted id.toList, isPathEnd c = false := fun c hc =>
      hfree c (List.mem_filter.mp hc).1
    rw [Url.splitBefore_of_free hfree']

/-- What stands in the address that is shown behind an id that is not cut off. -/
def shownQuery (query : String) : List Char :=
  if query = "" then [] else '?' :: counted (Text.dropEndWhile isEdge query.toList)

/-- How an id comes out of the text behind the directory of functions, with or without a query. -/
theorem id_of_callText (id query : String) :
    let text := counted (Text.dropEndWhile isEdge (callText id query))
    ∃ rest, counted id.toList = (splitBefore isPathEnd text).1 ++ rest ∧
      (∀ c ∈ rest.head?, inSegmentSet c = true) ∧
      (rest = [] → (splitBefore isPathEnd text).2 = shownQuery query) ∧
      ((∀ c ∈ id.toList, isPathEnd c = false) → (rest = [] ↔
        (query = "" → ∀ c ∈ (counted id.toList).getLast?, isEdge c = false))) := by
  by_cases hquery : query = ""
  · obtain ⟨rest, hid, hrest, hcut, hwhole⟩ := id_alone id
    have htext : callText id query = id.toList := by simp [callText, hquery]
    rw [htext]
    refine ⟨rest, hid, hrest, fun hnone => ?_, fun hfree => ?_⟩
    · rw [shownQuery, if_pos hquery, hcut hnone]
    · rw [hwhole hfree]
      exact ⟨fun h _ => h, fun h => h hquery⟩
  · obtain ⟨rest, hid, hrest, hcut, hwhole⟩ := id_before_query id query.toList
    have htext : callText id query = id.toList ++ '?' :: query.toList := by
      simp [callText, hquery]
    rw [htext]
    refine ⟨rest, hid, hrest, fun hnone => ?_, fun hfree => ?_⟩
    · rw [shownQuery, if_neg hquery, hcut hnone]
    · exact ⟨fun _ hempty => absurd hempty hquery, fun _ => hwhole hfree⟩

-- ==================================================== the query

/-- What the client asks for of a query: no blanks around it, and no question marks in front. -/
def asked (query : List Char) : List Char := (Text.trimChars query).dropWhile (· == '?')

theorem url_invoke (c : Client) (id : String) (q : InvokeRequest) :
    c.url (.invoke id q) =
      let u := c.baseUrl.extend ["fn", id]
      if asked q.query.toList = [] then u
      else
        { u with query := some (percentEncode inQuerySet (counted (asked q.query.toList))) } := by
  have hempty : (Client.callQuery q).isEmpty = true ↔ asked q.query.toList = [] := by
    rw [String.isEmpty_iff, Client.callQuery, String.ofList_eq_empty_iff]
    rfl
  unfold Client.url
  dsimp only [Client.segments]
  by_cases hnone : asked q.query.toList = []
  · rw [if_pos hnone, if_pos (hempty.mpr hnone)]
  · rw [if_neg hnone, if_neg (mt hempty.mp hnone), Url.withQuery, Client.callQuery,
      String.toList_ofList]
    rfl

theorem not_ignored_of_not_blank {c : Char} (h : Text.isBlank c = false) : isIgnored c = false := by
  rw [Bool.eq_false_iff]
  intro hc
  simp only [isIgnored, Bool.or_eq_true, beq_iff_eq] at hc
  rcases hc with (rfl | rfl) | rfl <;> exact absurd h (by decide)

section

variable {query : List Char}

/-- The client takes blanks and question marks off in front of a query. If they are no question
marks, what is left begins with neither. -/
theorem asked_parts (hblank : ∀ c ∈ query.getLast?, Text.isBlank c = false) :
    ∃ front, query = front ++ asked query ∧ (∀ c ∈ front, Text.isBlank c = true ∨ c = '?') ∧
      ('?' ∉ front → ∀ c ∈ (asked query).head?, c ≠ '?' ∧ Text.isBlank c = false) := by
  have hparts : query.takeWhile Text.isBlank ++ query.dropWhile Text.isBlank = query :=
    List.takeWhile_append_dropWhile
  have htrim : Text.trimChars query = query.dropWhile Text.isBlank := by
    refine Text.dropEndWhile_of_last fun c hc => hblank c ?_
    have hne : query.dropWhile Text.isBlank ≠ [] := by
      intro hnil
      rw [hnil] at hc
      cases hc
    rw [← hparts, List.getLast?_append_of_ne_nil _ hne]
    exact hc
  have hmarks : (query.dropWhile Text.isBlank).takeWhile (· == '?') ++ asked query =
      query.dropWhile Text.isBlank := by
    rw [asked, htrim]
    exact List.takeWhile_append_dropWhile
  refine ⟨query.takeWhile Text.isBlank ++ (query.dropWhile Text.isBlank).takeWhile (· == '?'), ?_,
    ?_, fun hnone c hc => ?_⟩
  · rw [List.append_assoc, hmarks, hparts]
  · intro c hc
    rcases List.mem_append.mp hc with hc | hc
    · exact .inl (List.mem_takeWhile_imp hc)
    · exact .inr (beq_iff_eq.mp (List.mem_takeWhile_imp (p := (· == '?')) hc))
  · have hempty : (query.dropWhile Text.isBlank).takeWhile (· == '?') = [] := by
      refine List.eq_nil_iff_forall_not_mem.mpr fun d hd => hnone ?_
      have hmark : d = '?' := beq_iff_eq.mp (List.mem_takeWhile_imp (p := (· == '?')) hd)
      exact List.mem_append_right _ (hmark ▸ hd)
    rw [hempty, List.nil_append] at hmarks
    have hfirst := List.head?_dropWhile_not Text.isBlank query
    have hmark := List.head?_dropWhile_not (· == '?') (Text.trimChars query)
    rw [← hmarks, hc] at hfirst
    rw [← asked, hc] at hmark
    exact ⟨beq_eq_false_iff_ne.mp hmark, hfirst⟩

/-- A query begins with what the client keeps, exactly if all that counts is what it asks for. -/
theorem begins_iff (hne : query ≠ []) (hblank : ∀ c ∈ query.getLast?, Text.isBlank c = false) :
    (∀ c ∈ (counted query).head?, c ≠ '?' ∧ Text.isBlank c = false) ↔
      asked query ≠ [] ∧ counted query = counted (asked query) := by
  obtain ⟨front, hquery, hfront, hfirst⟩ := asked_parts hblank
  have hcounted : counted query = counted front ++ counted (asked query) := by
    rw [← Url.counted_append, ← hquery]
  have hnone : counted query = counted (asked query) ↔ counted front = [] := by
    rw [hcounted]
    simp
  rw [hnone]
  constructor
  · intro hbegins
    have hempty : counted front = [] := by
      cases hcut : counted front with
      | nil => rfl
      | cons c more =>
          have hc := hbegins c (by rw [hcounted, hcut]; rfl)
          have hmem : c ∈ counted front := by rw [hcut]; exact List.mem_cons_self
          rcases hfront c (List.mem_filter.mp hmem).1 with hblank | hmark
          · rw [hblank] at hc
            cases hc.2
          · exact absurd hmark hc.1
    refine ⟨fun hasked => ?_, hempty⟩
    -- the last character is no blank, so it counts
    rw [hasked, hempty] at hcounted
    have hlast := List.getLast_mem hne
    have hmem : query.getLast hne ∈ counted query := List.mem_filter.mpr
      ⟨hlast, by
        rw [not_ignored_of_not_blank (hblank _ (List.getLast?_eq_some_getLast hne))]
        rfl⟩
    rw [hcounted] at hmem
    cases hmem
  · rintro ⟨hasked, hempty⟩ c hc
    have hmark : '?' ∉ front := by
      intro hmem
      have hcounts : '?' ∈ counted front := List.mem_filter.mpr ⟨hmem, rfl⟩
      rw [hempty] at hcounts
      cases hcounts
    obtain ⟨d, more, hcut⟩ := List.exists_cons_of_ne_nil hasked
    have hd := hfirst hmark d (by rw [hcut]; rfl)
    have hhead : (counted query).head? = some d := by
      rw [hcounted, hempty, hcut]
      simp [counted, not_ignored_of_not_blank hd.2]
    rw [hhead] at hc
    exact Option.some.inj hc ▸ hd

/-- What an address loses at its end cannot come back from what the client takes off in front: the
codes are the same only if neither is anything. -/
theorem whole_of_percentEncode (hblank : ∀ c ∈ query.getLast?, Text.isBlank c = false)
    (h : percentEncode inQuerySet (counted (Text.dropEndWhile isEdge query)) =
      percentEncode inQuerySet (counted (asked query))) :
    Text.dropEndWhile isEdge query = query ∧ counted query = counted (asked query) := by
  obtain ⟨front, hquery, hfront, -⟩ := asked_parts hblank
  obtain ⟨dropped, hparts, hdropped⟩ := Text.dropEndWhile_parts isEdge query
  have hset {c : Char} (hc : c ∈ counted dropped) : inQuerySet c = true :=
    inQuerySet_of_isEdge (hdropped c (List.mem_filter.mp hc).1)
  have hcode : percentEncode inQuerySet (counted front) ++
      percentEncode inQuerySet (counted (asked query)) =
      percentEncode inQuerySet (counted (asked query)) ++
        percentEncode inQuerySet (counted dropped) := by
    rw [← Web.percentEncode_append, ← Url.counted_append, ← hquery, ← h, ← Web.percentEncode_append,
      ← Url.counted_append, ← hparts]
  have hfront' : '%' ∉ counted front := by
    intro hmem
    rcases hfront '%' (List.mem_filter.mp hmem).1 with hc | hc <;> exact absurd hc (by decide)
  have hback : '%' ∉ counted dropped := fun hmem => absurd (hset hmem) (by decide)
  -- what is lost ends in a character that is no blank
  have hnone : dropped = [] := by
    refine Classical.byContradiction fun hne => ?_
    have hmem := List.getLast_mem hne
    have hedge := hdropped _ hmem
    have hlast : Text.isBlank (dropped.getLast hne) = false := by
      refine hblank _ ?_
      rw [hparts, List.getLast?_append_of_ne_nil _ hne]
      exact List.getLast?_eq_some_getLast hne
    have hcounts : dropped.getLast hne ∈ counted dropped :=
      List.mem_filter.mpr ⟨hmem, by rw [not_ignored_of_not_blank hlast]; rfl⟩
    have hle : (dropped.getLast hne).toNat ≤ 32 := of_decide_eq_true hedge
    have hmoved := Web.mem_of_percentEncode hfront' hback
      (fun c hc => hset (List.mem_of_head? hc)) hcode hcounts (by omega)
    rcases hfront _ (List.mem_filter.mp hmoved).1 with hc | hc
    · rw [hc] at hlast
      cases hlast
    · rw [hc] at hedge
      exact absurd hedge (by decide)
  rw [hnone, List.append_nil] at hparts
  have hempty : percentEncode inQuerySet (counted []) = [] := rfl
  rw [hnone, hempty, List.append_nil, List.append_left_eq_self, Web.percentEncode_eq_nil] at hcode
  refine ⟨hparts.symm, ?_⟩
  calc counted query
      = counted front ++ counted (asked query) := by rw [← Url.counted_append, ← hquery]
    _ = counted (asked query) := by rw [hcode, List.nil_append]

end

/-- A query is shown as the client asks for it, exactly if the client takes nothing off in front, it
has no `#`, at which it would end, and nothing is lost at its end. -/
theorem query_iff {query : String} (hblank : ∀ c ∈ query.toList.getLast?, Text.isBlank c = false) :
    (queryOf (shownQuery query) = (if asked query.toList = [] then none
        else some (percentEncode inQuerySet (counted (asked query.toList)))) ∧
      fragmentOf (shownQuery query) = none) ↔
      (∀ c ∈ (counted query.toList).head?, c ≠ '?' ∧ Text.isBlank c = false) ∧
        '#' ∉ query.toList ∧ ∀ c ∈ query.toList.getLast?, isEdge c = false := by
  by_cases hquery : query = ""
  · subst hquery
    simp [shownQuery, asked, Text.trimChars, Text.dropAroundWhile, Text.dropEndWhile, queryOf,
      fragmentOf, splitBefore, counted]
  · have hne : query.toList ≠ [] := fun hnil => hquery (String.toList_eq_nil_iff.mp hnil)
    let kept := counted (Text.dropEndWhile isEdge query.toList)
    have hparts := Url.splitBefore_parts (· == '#') kept
    have hmark : ∀ c ∈ ['?'], (c == '#') = false := by simp
    have hcut : splitBefore (· == '#') ('?' :: kept) =
        ('?' :: (splitBefore (· == '#') kept).1, (splitBefore (· == '#') kept).2) :=
      Url.splitBefore_free_append hmark _
    rw [shownQuery, if_neg hquery, ← and_assoc, begins_iff hne hblank]
    dsimp only [queryOf, fragmentOf]
    rw [hcut]
    constructor
    · rintro ⟨hshown, hend⟩
      have hnone : (splitBefore (· == '#') kept).2 = [] := by
        cases hcase : (splitBefore (· == '#') kept).2 with
        | nil => rfl
        | cons c more =>
            rw [hcase] at hend
            cases hend
      rw [hnone, List.append_nil] at hparts
      rw [hparts] at hshown
      split at hshown
      · cases hshown
      · next hasked =>
          obtain ⟨hwhole, heq⟩ := whole_of_percentEncode hblank (Option.some.inj hshown)
          have hkept : kept = counted query.toList := congrArg counted hwhole
          refine ⟨⟨⟨hasked, heq⟩, ?_⟩, ?_⟩
          · intro hmem
            have hcounts : '#' ∈ kept := by
              rw [hkept]
              exact List.mem_filter.mpr ⟨hmem, rfl⟩
            rw [← hparts] at hcounts
            exact absurd (Url.splitBefore_first hcounts) (by decide)
          · rw [← hwhole]
            exact Text.last_of_dropEndWhile
    · rintro ⟨⟨⟨hasked, heq⟩, hhash⟩, hlast⟩
      have hkept : kept = counted query.toList := congrArg counted (Text.dropEndWhile_of_last hlast)
      have hfree : ∀ c ∈ kept, (c == '#') = false := by
        intro c hc
        rw [hkept] at hc
        rw [beq_eq_false_iff_ne]
        rintro rfl
        exact hhash (List.mem_filter.mp hc).1
      rw [Url.splitBefore_of_free hfree, hkept, if_neg hasked, ← heq]
      exact ⟨rfl, rfl⟩

-- ==================================================== the screen

namespace TestScreen

variable {s : TestScreen}

theorem url_toList (hbase : Extensible s.baseUrl.toList) : s.url.toList =
    slashed s.baseUrl.toList ++ ("fn/".toList ++ callText s.id s.queryText) := by
  have haddress : (invocationAddress s.baseUrl s.id).toList =
      slashed s.baseUrl.toList ++ ("fn/".toList ++ s.id.toList) := by
    rw [← hbase.dropEndWhile_slash, invocationAddress, String.toList_append, String.toList_append,
      String.toList_ofList]
    simp
  unfold url callText
  split
  · rw [haddress, List.append_nil]
  · rw [String.toList_append, String.toList_append, haddress]
    simp

/-- A trimmed query does not end in a blank, and neither does it without its question mark. -/
theorem queryText_last : ∀ c ∈ s.queryText.toList.getLast?, Text.isBlank c = false := by
  have htrimmed : ∀ c ∈ (Text.trimChars s.query.chars).getLast?, Text.isBlank c = false :=
    Text.last_of_dropEndWhile
  unfold queryText
  split
  · next rest hquery =>
      rw [hquery] at htrimmed
      intro c hc
      rw [String.toList_ofList] at hc
      refine htrimmed c ?_
      cases rest with
      | nil => cases hc
      | cons d rest => exact hc
  · rw [String.toList_ofList]
    exact htrimmed

theorem send_requests {r : Request} (h : r ∈ s.send.2.requests) :
    ∃ q : InvokeRequest, r = .invoke s.id q ∧ q.query = s.queryText := by
  unfold send at h
  split at h
  · cases h
  · split at h
    · cases h
    · obtain rfl := List.mem_singleton.mp h
      exact ⟨_, rfl, rfl⟩

end TestScreen

/-- An id and a query that come through the text of an address as they are: no character of the id
has a meaning in an address, and it is no name of a directory; nothing is lost at the end of what
stands last; and the query begins with what is asked for and has no `#`. -/
structure Mirrored (id query : String) : Prop where
  plain : ∀ c ∈ id.toList, c ∉ ['/', '\\', '%', '?', '#']
  named : id ≠ "." ∧ id ≠ ".."
  ended : query = "" → ∀ c ∈ (counted id.toList).getLast?, isEdge c = false
  begun : ∀ c ∈ (counted query.toList).head?, c ≠ '?' ∧ Text.isBlank c = false
  whole : '#' ∉ query.toList
  closed : ∀ c ∈ query.toList.getLast?, isEdge c = false

/-- The address on the screen is the address that is called exactly if id and query come through as
they are, whatever the address of the server that the client accepts, as long as it can be gone on
with. -/
theorem shown_is_called_iff {s : TestScreen} {client : Client}
    (hclient : Client.ofAddress s.baseUrl = .ok client) (hbase : Extensible s.baseUrl.toList)
    (hroot : client.baseUrl.path ≠ ['/', '/']) {r : Request} (hsent : r ∈ s.send.2.requests) :
    Url.parse? s.url.toList = some (client.url r) ↔ Mirrored s.id s.queryText := by
  obtain ⟨q, rfl, hquery⟩ := TestScreen.send_requests hsent
  obtain ⟨u, place, hfirst, hend, hextend, hparse⟩ := extend_and_parse? hclient hbase hroot
  obtain ⟨rest, hid, hrest, hcut, hwhole⟩ := id_of_callText s.id s.queryText
  have hfree : ∀ c ∈ (splitBefore isPathEnd
      (counted (Text.dropEndWhile isEdge (callText s.id s.queryText)))).1, c ≠ '?' ∧ c ≠ '#' := by
    intro c hc
    have hc := Url.splitBefore_first hc
    simpa [isPathEnd] using hc
  have hpath := Url.addSegments_eq_push_iff hfirst hend hid hfree hrest
  have hcalled := query_iff (TestScreen.queryText_last (s := s))
  have hends (h : ∀ c ∈ s.id.toList, c ∉ ['/', '\\', '%', '?', '#']) :
      ∀ c ∈ s.id.toList, isPathEnd c = false := by
    intro c hc
    have hc := h c hc
    simp only [List.mem_cons, not_or] at hc
    simp [isPathEnd, hc.2.2.2.1, hc.2.2.2.2]
  -- the two addresses have who and where in common
  have hparts (path path' : List Char) (query query' fragment fragment' : Option (List Char)) :
      ({ u with path, query, fragment } : Url) =
        { u with path := path', query := query', fragment := fragment' } ↔
      path = path' ∧ query = query' ∧ fragment = fragment' := by
    simp
  have hurl : client.url (.invoke s.id q) = { u with
      path := push place s.id
      query := if asked s.queryText.toList = [] then none
        else some (percentEncode inQuerySet (counted (asked s.queryText.toList)))
      fragment := none } := by
    rw [url_invoke, hquery, hextend]
    dsimp only
    split <;> rfl
  rw [TestScreen.url_toList hbase, hparse, hurl, Option.some.injEq]
  refine (hparts _ _ _ _ _ _).trans ⟨?_, fun h => ?_⟩
  · rintro ⟨hsame, hqueries, hfragments⟩
    obtain ⟨hnone, hplain, hnamed⟩ := hpath.mp hsame
    rw [hcut hnone] at hqueries hfragments
    obtain ⟨hbegun, hwhole', hclosed⟩ := hcalled.mp ⟨hqueries, hfragments⟩
    exact ⟨hplain, hnamed, (hwhole (hends hplain)).mp hnone, hbegun, hwhole', hclosed⟩
  · have hnone := (hwhole (hends h.plain)).mpr h.ended
    refine ⟨hpath.mpr ⟨hnone, h.plain, h.named⟩, ?_⟩
    rw [hcut hnone]
    exact hcalled.mpr ⟨h.begun, h.whole, h.closed⟩

/-- With one question mark typed in front of the query the address that is shown is called, and with
two another one. -/
theorem one_question_mark_is_called :
    let screen (query : String) : TestScreen :=
      { id := "abc", query := .ofString query, headers := {}, baseUrl := "http://localhost:3000" }
    let client : Client := { baseUrl := { host := "localhost".toList, portNumber := some 3000 } }
    let call (query : String) : Request :=
      .invoke "abc" { method := .get, query, headers := .empty, body := "" }
    Url.parse? (screen "?a=1").url.toList = some (client.url (call "a=1")) ∧
      Url.parse? (screen "??a=1").url.toList ≠ some (client.url (call "?a=1")) := by
  intro screen client call
  have hbase : Extensible "http://localhost:3000".toList := by
    refine ⟨fun c hc => ?_, fun c hc => ?_, by simp [isPathEnd], by decide⟩
    · obtain rfl : 'h' = c := Option.some.inj hc
      exact ⟨by decide, by decide⟩
    · obtain rfl : '0' = c := Option.some.inj hc
      exact ⟨⟨by decide, by decide⟩, by decide⟩
  have hclient : Client.ofAddress "http://localhost:3000" = .ok client :=
    ofAddress_of_parse? (by decide +kernel)
  have hroot : client.baseUrl.path ≠ ['/', '/'] := by decide
  have hone : (screen "?a=1").queryText = "a=1" := by decide +kernel
  have htwo : (screen "??a=1").queryText = "?a=1" := by decide +kernel
  have hplain : ∀ c ∈ "abc".toList, c ∉ ['/', '\\', '%', '?', '#'] := by simp
  have hmirrored : Mirrored "abc" "a=1" := by
    refine ⟨hplain, by decide, fun hempty => absurd hempty (by decide), fun c hc => ?_, by decide,
      fun c hc => ?_⟩
    · obtain rfl : 'a' = c := Option.some.inj hc
      exact ⟨by decide, by decide⟩
    · obtain rfl : '1' = c := Option.some.inj hc
      rfl
  have hshown := shown_is_called_iff (s := screen "?a=1") (r := call "a=1") hclient hbase hroot
    (List.mem_singleton.mpr rfl)
  have hmarked := shown_is_called_iff (s := screen "??a=1") (r := call "?a=1") hclient hbase hroot
    (List.mem_singleton.mpr rfl)
  rw [hone] at hshown
  rw [htwo] at hmarked
  refine ⟨hshown.mpr hmirrored, fun hsame => ?_⟩
  exact (hmarked.mp hsame).begun '?' rfl |>.1 rfl

/-- Two question marks are typed in front of a query. The screen shows and sends the query with one
of them, and the client calls the function without any. -/
theorem question_marks_are_called_away :
    let s : TestScreen :=
      { id := "abc", query := .ofString "??a=1", headers := {}, baseUrl := "http://localhost:3000" }
    ∃ client r, Client.ofAddress s.baseUrl = .ok client ∧ r ∈ s.send.2.requests ∧
      s.url = "http://localhost:3000/fn/abc??a=1" ∧
      (client.url r).text = "http://localhost:3000/fn/abc?a=1" ∧
      Url.parse? s.url.toList ≠ some (client.url r) := by
  intro s
  refine ⟨{ baseUrl := { host := "localhost".toList, portNumber := some 3000 } },
    .invoke "abc" { method := .get, query := "?a=1", headers := .empty, body := "" },
    ?_, ?_, ?_, ?_, ?_⟩
  · exact ofAddress_of_parse? (by decide +kernel)
  · exact List.mem_singleton.mpr rfl
  · decide +kernel
  · decide +kernel
  · decide +kernel

end FunctionConsole
