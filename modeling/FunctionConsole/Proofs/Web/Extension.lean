import FunctionConsole.Api.Client
import FunctionConsole.Proofs.Web.Segments

/-!
# Going on behind the address of a server

An address is made from that of a server in two ways. The client hands segments over, and they are
pushed behind the path that was read; what is shown to a user is written behind the text, and read
when it is called. `Extensible` describes the texts for which the two meet: `extend_and_parse?` says
that what is handed over and what is written then come to one place, each in its own way.
-/

namespace FunctionConsole

open Web (Url)
open Web.Url (counted slashed pathOf site? splitBefore segments addSegments push openPath queryOf
  fragmentOf isSlash isEdge isBreak isPathEnd Names IsDirectory)

/-- A character that an address keeps at its ends, and that is no blank. -/
def Visible (c : Char) : Prop := 32 < c.toNat ∧ Text.isBlank c = false

theorem Visible.not_edge {c : Char} (h : Visible c) : isEdge c = false :=
  decide_eq_false (Nat.not_le_of_lt h.1)

-- ==================================================== the address of the server

/-- The text of an address that can be gone on with: it begins and ends with visible characters, has
neither a query nor a fragment, and at its end at most one slash and no backslash. -/
structure Extensible (text : List Char) : Prop where
  first : ∀ c ∈ text.head?, Visible c
  last : ∀ c ∈ text.getLast?, Visible c ∧ c ≠ '\\'
  parts : ∀ c ∈ text, isPathEnd c = false
  slashes : ¬ ['/', '/'] <:+ text

/-- Without the slashes at its end and with one put behind, it has one slash at its end. -/
theorem Extensible.dropEndWhile_slash {text : List Char} (h : Extensible text) (x : List Char) :
    Text.dropEndWhile (· == '/') text ++ '/' :: x = slashed text ++ x := by
  unfold slashed
  split
  · next hslash =>
      obtain ⟨front, rfl⟩ := List.getLast?_eq_some_iff.mp hslash
      have hfront : ∀ c ∈ front.getLast?, (c == '/') = false := by
        intro c hc
        rw [beq_eq_false_iff_ne]
        rintro rfl
        obtain ⟨init, rfl⟩ := List.getLast?_eq_some_iff.mp hc
        exact h.slashes ⟨init, by simp⟩
      have hdrop : Text.dropEndWhile (· == '/') (front ++ ['/']) = front := by
        have hreverse : (front ++ ['/']).reverse = '/' :: front.reverse := by simp
        rw [Text.dropEndWhile, hreverse, List.dropWhile_cons_of_pos rfl]
        exact Text.dropEndWhile_of_last hfront
      rw [hdrop]
      simp
  · next hslash =>
      have hlast : ∀ c ∈ text.getLast?, (c == '/') = false := by
        intro c hc
        rw [beq_eq_false_iff_ne]
        rintro rfl
        exact hslash hc
      rw [Text.dropEndWhile_of_last hlast]
      simp

theorem Extensible.counted_slashed {text : List Char} (h : Extensible text) :
    counted (slashed text) = slashed (counted text) := by
  unfold slashed
  rw [Url.getLast?_counted fun c hc => (h.last c hc).1.not_edge]
  split
  · rfl
  · exact Url.counted_append text ['/']

/-- A longer text names the same place, and what is left of it goes on behind a slash. -/
theorem site?_slashed {cs rest : List Char} {u : Url} (h : site? cs = some (u, rest))
    (x : List Char) : site? (slashed cs ++ x) = some (u, slashed rest ++ x) := by
  obtain ⟨front, c, rfl, hc⟩ := Url.site?_parts h
  have hlast : (front ++ c :: rest).getLast? = some '/' ↔ rest.getLast? = some '/' := by
    cases rest with
    | nil =>
        rw [List.getLast?_concat]
        constructor
        · rintro heq
          rw [Option.some.inj heq] at hc
          exact absurd hc (by decide)
        · intro heq
          cases heq
    | cons d rest =>
        rw [List.getLast?_append_of_ne_nil _ (by simp), List.getLast?_cons_cons]
  unfold slashed
  by_cases hslash : rest.getLast? = some '/'
  · have hne : rest ≠ [] := by
      rintro rfl
      cases hslash
    rw [if_pos (hlast.mpr hslash), if_pos hslash]
    exact Url.site?_append h (.inl hne)
  · have hbreak : ∀ c ∈ (['/'] ++ x).head?, isBreak c = true := by
      intro c hc
      cases hc
      rfl
    have hlonger := Url.site?_append h (.inr hbreak)
    rw [if_neg (mt hlast.mp hslash), if_neg hslash]
    rwa [← List.append_assoc, ← List.append_assoc] at hlonger

theorem withTail_free_append {front : List Char} (h : ∀ c ∈ front, isPathEnd c = false) (u : Url)
    (x : List Char) :
    u.withTail (front ++ x) =
      { u with
        path := pathOf (front ++ (splitBefore isPathEnd x).1)
        query := queryOf (splitBefore isPathEnd x).2
        fragment := fragmentOf (splitBefore isPathEnd x).2 } := by
  unfold Url.withTail
  rw [Url.splitBefore_free_append h]

theorem withTail_free {rest : List Char} (h : ∀ c ∈ rest, isPathEnd c = false) (u : Url) :
    u.withTail rest = { u with path := pathOf rest, query := none, fragment := none } := by
  unfold Url.withTail
  rw [Url.splitBefore_of_free h]
  rfl

section

variable {base : String} {client : Client}

theorem ofAddress_of_parse? {u : Url} (h : Url.parse? (Text.trim base).toList = some u) :
    Client.ofAddress base = .ok { baseUrl := u } := by
  unfold Client.ofAddress
  dsimp only
  rw [h]

theorem parse?_trim_of_ofAddress (hclient : Client.ofAddress base = .ok client) :
    Url.parse? (Text.trim base).toList = some client.baseUrl := by
  unfold Client.ofAddress at hclient
  dsimp only at hclient
  split at hclient
  · next u hparse =>
      cases hclient
      exact hparse
  · cases hclient

theorem parse?_of_ofAddress (hclient : Client.ofAddress base = .ok client)
    (hbase : Extensible base.toList) : Url.parse? base.toList = some client.baseUrl := by
  have htrim : Text.trim base = base := by
    rw [Text.trim, Text.trimChars, Text.dropAroundWhile_of_ends (fun c hc => (hbase.first c hc).2)
      fun c hc => (hbase.last c hc).1.2, String.ofList_toList]
  have hparse := parse?_trim_of_ofAddress hclient
  rwa [htrim] at hparse

/-- What is left of the address of a server behind its name is a path. -/
theorem Extensible.rest {text rest : List Char} {u : Url} (h : Extensible text)
    (hsite : site? (counted text) = some (u, rest)) :
    (∀ c ∈ rest, isPathEnd c = false) ∧ (∀ c ∈ rest.head?, isSlash c = true) ∧
      rest.getLast? ≠ some '\\' := by
  obtain ⟨front, c, hcounted, -⟩ := Url.site?_parts hsite
  have hfree : ∀ d ∈ rest, isPathEnd d = false := by
    intro d hd
    have hmem : d ∈ counted text := by
      rw [hcounted]
      simp [hd]
    exact h.parts d (List.mem_filter.mp hmem).1
  refine ⟨hfree, fun d hd => ?_, fun hlast => ?_⟩
  · have hbreak := Url.site?_rest hsite d hd
    have hend := hfree d (List.mem_of_head? hd)
    simp only [isBreak, isPathEnd, Bool.or_eq_true, Bool.or_eq_false_iff] at hbreak hend
    rcases hbreak with (hslash | hquestion) | hhash
    · exact hslash
    · rw [hend.1] at hquestion
      cases hquestion
    · rw [hend.2] at hhash
      cases hhash
  · have hne : rest ≠ [] := by
      rintro rfl
      cases hlast
    have htext : (counted text).getLast? = some '\\' := by
      rw [hcounted, List.append_cons, List.getLast?_append_of_ne_nil _ hne, hlast]
    rw [Url.getLast?_counted fun c hc => (h.last c hc).1.not_edge] at htext
    exact (h.last _ htext).2 rfl

theorem push_fn {path dir : List Char} (hdir : IsDirectory dir) (h : Names path dir)
    (hroot : path ≠ ['/', '/']) : push (openPath path) "fn" = dir ++ "fn".toList := by
  have hopen := Url.openPath_directory hdir h hroot
  rw [push, if_neg (by decide), hopen]
  show dir ++ "fn".toList ++ [] = _
  rw [List.append_nil]

theorem addSegments_fn (dir text : List Char) :
    addSegments dir (segments ("fn/".toList ++ text)) =
      addSegments (dir ++ "fn".toList ++ ['/']) (segments text) := by
  have hcut : segments ("fn/".toList ++ text) = ["fn".toList] ++ segments text :=
    Url.segments_append (c := '/') rfl "fn".toList text
  rw [hcut, Url.addSegments_append _ _ (Url.segments_ne_nil text)]
  rfl

/-- Behind the address of a server a text loses what an address loses at its end. -/
theorem counted_extended (hbase : Extensible base.toList) (tail : List Char) :
    counted (Text.dropAroundWhile isEdge (slashed base.toList ++ ("fn/".toList ++ tail))) =
      slashed (counted base.toList) ++
        ("fn/".toList ++ counted (Text.dropEndWhile isEdge tail)) := by
  have hfirst : ∀ c ∈ (slashed base.toList ++ ("fn/".toList ++ tail)).head?, isEdge c = false := by
    intro c hc
    unfold slashed at hc
    cases htext : base.toList with
    | nil =>
        rw [htext] at hc
        obtain rfl : '/' = c := Option.some.inj hc
        rfl
    | cons d more =>
        rw [htext] at hc
        have hd : d = c := by split at hc <;> exact Option.some.inj hc
        exact Visible.not_edge (hbase.first c (by rw [htext, hd]; rfl))
  have hend : Text.dropEndWhile isEdge (slashed base.toList ++ "fn".toList ++ '/' :: tail) =
      slashed base.toList ++ "fn".toList ++ '/' :: Text.dropEndWhile isEdge tail :=
    Text.dropEndWhile_append _ rfl
  have hsplit (x : List Char) : slashed base.toList ++ ("fn/".toList ++ x) =
      slashed base.toList ++ "fn".toList ++ '/' :: x := by
    rw [List.append_assoc]
    rfl
  rw [Text.dropAroundWhile, Text.dropWhile_of_first hfirst, hsplit, hend, ← hsplit,
    Url.counted_append, Url.counted_append, hbase.counted_slashed]
  rfl

/-- What is handed over and what is written behind the address of a server: both name something in
one place, the one by a segment, the other by a text. -/
theorem extend_and_parse? (hclient : Client.ofAddress base = .ok client)
    (hbase : Extensible base.toList) (hroot : client.baseUrl.path ≠ ['/', '/']) :
    ∃ (u : Url) (place : List Char), place.head? = some '/' ∧ place.getLast? ≠ some '/' ∧
      (∀ id, client.baseUrl.extend ["fn", id] =
        { u with path := push place id, query := none, fragment := none }) ∧
      ∀ tail, Url.parse? (slashed base.toList ++ ("fn/".toList ++ tail)) =
        let cut := splitBefore isPathEnd (counted (Text.dropEndWhile isEdge tail))
        some { u with
          path := addSegments (place ++ ['/']) (segments cut.1)
          query := queryOf cut.2
          fragment := fragmentOf cut.2 } := by
  have hparse := parse?_of_ofAddress hclient hbase
  rw [Url.parse?_eq, Text.dropAroundWhile_of_ends (fun c hc => (hbase.first c hc).not_edge)
    fun c hc => (hbase.last c hc).1.not_edge] at hparse
  obtain ⟨⟨u, rest⟩, hsite, hurl⟩ := Option.map_eq_some_iff.mp hparse
  obtain ⟨hfree, hfirst, hlast⟩ := hbase.rest hsite
  obtain ⟨dir, hdir, hnames, hread⟩ := Url.pathOf_slashed hfirst hlast
  have hbaseUrl :
      client.baseUrl = { u with path := pathOf rest, query := none, fragment := none } :=
    hurl.symm.trans (withTail_free hfree u)
  refine ⟨u, dir ++ "fn".toList, ?_, ?_, fun id => ?_, fun tail => ?_⟩
  · rw [List.head?_append, hdir.1]
    rfl
  · rw [List.getLast?_append_of_ne_nil _ (by decide)]
    decide
  · have hpath : pathOf rest ≠ ['/', '/'] := by
      rw [hbaseUrl] at hroot
      exact hroot
    rw [Url.extend, hbaseUrl]
    dsimp only
    rw [List.foldl_cons, push_fn hdir hnames hpath]
    rfl
  · have hfront : ∀ c ∈ slashed rest ++ "fn/".toList, isPathEnd c = false := by
      have hslash : ∀ c ∈ slashed rest, c ∈ rest ∨ c = '/' := by
        unfold slashed
        split <;> simp +contextual
      have hfn : ∀ c ∈ '/' :: "fn/".toList, isPathEnd c = false := by simp [isPathEnd]
      intro c hc
      rcases List.mem_append.mp hc with hc | hc
      · rcases hslash c hc with hc | rfl
        · exact hfree c hc
        · rfl
      · exact hfn c (List.mem_cons_of_mem _ hc)
    rw [Url.parse?_eq, counted_extended hbase, site?_slashed hsite, Option.map_some]
    dsimp only
    rw [← List.append_assoc, withTail_free_append hfront, List.append_assoc, hread, addSegments_fn]

end

end FunctionConsole
