import FunctionConsole.Proofs.Web.Segments

/-!
# Paths as lists of segments

The path of an address is kept as text, and segments are pushed behind it one by one. Seen as the
list of what stands between its slashes (`pieces`), pushing is adding to the list, for most segments:
`push_plain` says it of those that are not the name of a directory and that lose nothing when they
are written. `push_cases` is what can happen at all, and that it never adds more than one piece.

The root is special: it has one piece, the empty one, and a segment pushed behind it takes the place
of that piece. `Opens` is a path with the list that grows behind it.
-/

namespace FunctionConsole.Web

/-- The bytes of a text. -/
def utf8 (s : String) : List UInt8 := s.toList.flatMap String.utf8EncodeChar

theorem utf8_injective {s t : String} (h : utf8 s = utf8 t) : s = t :=
  String.toList_injective (utf8_inj h)

namespace Url

-- ==================================================== pieces

/-- What stands between the slashes of a path. -/
def pieces (path : List Char) : List (List Char) := Text.splitOnChar (· == '/') (path.drop 1)

/-- The path with the given pieces. -/
def joined (ps : List (List Char)) : List Char := ps.flatMap fun s => '/' :: s

theorem joined_append (ps qs : List (List Char)) : joined (ps ++ qs) = joined ps ++ joined qs :=
  List.flatMap_append

theorem joined_concat (ps : List (List Char)) (s : List Char) :
    joined (ps ++ [s]) = joined ps ++ '/' :: s := by
  rw [joined_append]
  exact congrArg (joined ps ++ ·) (List.append_nil _)

theorem joined_splitOnChar (cs : List Char) :
    joined (Text.splitOnChar (· == '/') cs) = '/' :: cs := by
  induction cs with
  | nil => rfl
  | cons c cs ih =>
      rw [Text.splitOnChar]
      by_cases hc : (c == '/') = true
      · rw [if_pos hc, beq_iff_eq.mp hc, ← ih]
        rfl
      · rw [if_neg hc]
        obtain ⟨first, more, hcut⟩ :=
          List.exists_cons_of_ne_nil (Text.splitOnChar_ne_nil (· == '/') cs)
        rw [hcut] at ih ⊢
        exact congrArg (fun cs => '/' :: c :: cs.drop 1) ih

/-- A path is put together again from its pieces. -/
theorem joined_pieces {path : List Char} (h : path.head? = some '/') :
    joined (pieces path) = path := by
  obtain ⟨more, rfl⟩ := List.head?_eq_some_iff.mp h
  exact joined_splitOnChar more

theorem pieces_ne_nil (path : List Char) : pieces path ≠ [] := Text.splitOnChar_ne_nil _ _

theorem slash_free_pieces (path : List Char) : ∀ s ∈ pieces path, '/' ∉ s := by
  intro s hs hslash
  have hnot := Text.splitOnChar_pieces (· == '/') _ s hs '/' hslash
  exact absurd hnot (by decide)

/-- What is put together without slashes falls into the same pieces. -/
theorem pieces_joined {ps : List (List Char)} (hne : ps ≠ []) (hfree : ∀ s ∈ ps, '/' ∉ s) :
    pieces (joined ps) = ps := by
  induction ps with
  | nil => exact absurd rfl hne
  | cons s ps ih =>
      have hs : ∀ c ∈ s, (c == '/') = false := by
        intro c hc
        rw [beq_eq_false_iff_ne]
        rintro rfl
        exact hfree s List.mem_cons_self hc
      show Text.splitOnChar (· == '/') (s ++ joined ps) = s :: ps
      cases ps with
      | nil => exact (congrArg _ (List.append_nil s)).trans (splitOnChar_of_free hs)
      | cons t ps =>
          have hrest := ih (by simp) fun u hu => hfree u (List.mem_cons_of_mem _ hu)
          show Text.splitOnChar (· == '/') (s ++ '/' :: (t ++ joined ps)) = _
          rw [splitOnChar_append rfl, splitOnChar_of_free hs]
          exact congrArg (s :: ·) hrest

-- ==================================================== a path that is gone on with

/-- A path, and the pieces behind which others are put: those of the path, but none for the root. -/
structure Opens (path : List Char) (ps : List (List Char)) : Prop where
  free : ∀ s ∈ ps, '/' ∉ s
  root : path = ['/'] → ps = []
  join : path ≠ ['/'] → ps ≠ [] ∧ path = joined ps

theorem Opens.of_joined {ps : List (List Char)} (hfree : ∀ s ∈ ps, '/' ∉ s) (hne : ps ≠ [])
    (hroot : ps ≠ [[]]) : Opens (joined ps) ps where
  free := hfree
  root h := by
    have hpieces := congrArg pieces h
    rw [pieces_joined hne hfree] at hpieces
    exact absurd hpieces hroot
  join _ := ⟨hne, rfl⟩

section

variable {path : List Char} {ps : List (List Char)} (h : Opens path ps)
include h

/-- The directory in which a segment is put. -/
theorem Opens.directory : (if path = ['/'] then path else path ++ ['/']) = joined (ps ++ [[]]) := by
  rw [joined_concat]
  by_cases hroot : path = ['/']
  · rw [if_pos hroot, hroot, h.root hroot]
    rfl
  · rw [if_neg hroot, (h.join hroot).2]

theorem Opens.head : path.head? = some '/' := by
  by_cases hroot : path = ['/']
  · rw [hroot]
    rfl
  · obtain ⟨hne, hpath⟩ := h.join hroot
    obtain ⟨s, more, rfl⟩ := List.exists_cons_of_ne_nil hne
    rw [hpath]
    rfl

theorem Opens.pieces_eq (hne : ps ≠ []) : pieces path = ps := by
  have hroot : path ≠ ['/'] := fun hroot => hne (h.root hroot)
  rw [(h.join hroot).2, pieces_joined hne h.free]

end

/-- Every path can be gone on with. -/
theorem Opens.exists {path : List Char} (h : path.head? = some '/') :
    ∃ ps, Opens path ps ∧ ps.length ≤ (pieces path).length := by
  by_cases hroot : path = ['/']
  · exact ⟨[], ⟨nofun, fun _ => rfl, fun hnot => absurd hroot hnot⟩, Nat.zero_le _⟩
  · refine ⟨pieces path, ⟨slash_free_pieces path, fun h => absurd h hroot, fun _ => ?_⟩,
      Nat.le_refl _⟩
    exact ⟨pieces_ne_nil path, (joined_pieces h).symm⟩

-- ==================================================== pushing

/-- A segment as it is written into a path. -/
def written (segment : String) : List Char :=
  percentEncode inSegmentSet (counted segment.toList)

theorem slash_free_written (segment : String) : '/' ∉ written segment := by
  intro hslash
  exact absurd (slash_of_mem_percentEncode hslash).2 (by decide)

/-- A segment that stays what it is in a path: it is not the name of a directory, and it has none of
the characters that an address ignores. -/
structure Plain (segment : String) : Prop where
  here : segment ≠ "."
  above : segment ≠ ".."
  kept : ∀ c ∈ segment.toList, isIgnored c = false

theorem Plain.counted_eq {segment : String} (h : Plain segment) :
    counted segment.toList = segment.toList := by
  rw [counted, List.filter_eq_self]
  intro c hc
  rw [h.kept c hc]
  rfl

/-- What a plain segment is decoded to. -/
theorem Plain.decode {segment : String} (h : Plain segment) :
    percentDecode (written segment) = utf8 segment := by
  rw [written, h.counted_eq, ← List.append_nil (percentEncode _ _),
    percentDecode_percentEncode (fun _ => by decide), percentDecode, List.append_nil, utf8]

/-- A text that is written loses what an address ignores, and nothing else. -/
theorem counted_of_decode {segment : String} (h : percentDecode (written segment) = utf8 segment) :
    counted segment.toList = segment.toList := by
  rw [written, ← List.append_nil (percentEncode _ _),
    percentDecode_percentEncode (fun _ => by decide), percentDecode, List.append_nil] at h
  exact utf8_inj h

theorem toLastSlash_concat (front : List Char) {s : List Char} (h : '/' ∉ s) :
    toLastSlash (front ++ '/' :: s) = front ++ ['/'] := by
  have hdrop : ∀ c ∈ s.reverse, decide (c ≠ '/') = true := by
    intro c hc
    rw [decide_eq_true_iff]
    rintro rfl
    exact h (List.mem_reverse.mp hc)
  rw [toLastSlash, List.reverse_append, List.reverse_cons, List.append_assoc,
    List.dropWhile_append_of_pos hdrop]
  simp

/-- The pieces of a path that a segment was pushed behind, other than the names of directories. -/
inductive Pushed (ps : List (List Char)) (segment : String) : List (List Char) → Prop
  | written : Pushed ps segment (ps ++ [written segment])
  /-- The segment loses a character, and what is left leads nowhere. -/
  | here : segment ≠ "" → Pushed ps segment (ps ++ [[]])
  | above {qs : List (List Char)} {q : List Char} : ps = qs ++ [q] →
    Pushed ps segment (qs ++ [[]])

theorem Pushed.ne_nil {ps qs : List (List Char)} {segment : String} (h : Pushed ps segment qs) :
    qs ≠ [] := by
  cases h <;> simp

theorem Pushed.length_le {ps qs : List (List Char)} {segment : String} (h : Pushed ps segment qs) :
    qs.length ≤ ps.length + 1 := by
  cases h with
  | written | here => simp
  | above hps =>
      rw [hps]
      simp

theorem Pushed.free {ps qs : List (List Char)} {segment : String} (h : Pushed ps segment qs)
    (hps : ∀ s ∈ ps, '/' ∉ s) : ∀ s ∈ qs, '/' ∉ s := by
  have hconcat {ps : List (List Char)} {s : List Char} (hps : ∀ s ∈ ps, '/' ∉ s) (hs : '/' ∉ s) :
      ∀ t ∈ ps ++ [s], '/' ∉ t := by
    intro t ht
    rcases List.mem_append.mp ht with ht | ht
    · exact hps t ht
    · rw [List.mem_singleton.mp ht]
      exact hs
  cases h with
  | written => exact hconcat hps (slash_free_written segment)
  | here => exact hconcat hps List.not_mem_nil
  | above heq =>
      rw [heq] at hps
      exact hconcat (fun s hs => hps s (List.mem_append_left _ hs)) List.not_mem_nil

section

variable {path : List Char} {ps : List (List Char)} {segment : String} (h : Opens path ps)
include h

theorem Opens.push_eq (hname : ¬ (segment = "." ∨ segment = "..")) :
    push path segment = addSegment (joined (ps ++ [[]])) (written segment) false := by
  rw [push, if_neg hname, h.directory]
  rfl

theorem Opens.push_written (hname : ¬ (segment = "." ∨ segment = ".."))
    (hdots : ¬ (counted segment.toList = ['.'] ∨ counted segment.toList = ['.', '.'])) :
    push path segment = joined (ps ++ [written segment]) := by
  have hplain := mt dots_of_percentEncode hdots
  rw [not_or, Bool.not_eq_true, Bool.not_eq_true] at hplain
  rw [h.push_eq hname, addSegment, written, hplain.1, hplain.2, joined_concat, joined_concat]
  simp

/-- Everything that pushing a segment can do. -/
theorem Opens.push_cases (segment : String) :
    (segment = "." ∨ segment = "..") ∧ push path segment = path ∨
      ¬ (segment = "." ∨ segment = "..") ∧
        ∃ qs, Pushed ps segment qs ∧ push path segment = joined qs := by
  by_cases hname : segment = "." ∨ segment = ".."
  · exact .inl ⟨hname, if_pos hname⟩
  · refine .inr ⟨hname, ?_⟩
    by_cases hdots : counted segment.toList = ['.'] ∨ counted segment.toList = ['.', '.']
    · have hne : segment ≠ "" := by
        rintro rfl
        exact absurd hdots (by decide)
      rw [h.push_eq hname]
      unfold addSegment
      split
      · unfold above
        split
        · exact ⟨_, .here hne, rfl⟩
        · next hstays =>
            rcases List.eq_nil_or_concat ps with rfl | ⟨qs, q, rfl⟩
            · exact absurd (.inl rfl) hstays
            · refine ⟨_, .above List.concat_eq_append, ?_⟩
              have hq : '/' ∉ q := h.free q (by simp)
              rw [joined_concat, List.dropLast_concat, List.concat_eq_append, joined_concat,
                toLastSlash_concat _ hq, joined_concat]
      · split
        · exact ⟨_, .here hne, rfl⟩
        · next habove hhere =>
            refine ⟨_, .written, ?_⟩
            rw [joined_concat, joined_concat]
            simp
    · exact ⟨_, .written, h.push_written hname hdots⟩

/-- A plain segment comes behind the pieces that are there, as itself. -/
theorem Opens.push_plain (hs : Plain segment) (hne : ps ≠ [] ∨ segment ≠ "") :
    Opens (push path segment) (ps ++ [written segment]) := by
  have hname : ¬ (segment = "." ∨ segment = "..") := not_or.mpr ⟨hs.here, hs.above⟩
  have hdots : ¬ (counted segment.toList = ['.'] ∨ counted segment.toList = ['.', '.']) := by
    rw [hs.counted_eq]
    rintro (hdot | hdots)
    · exact hs.here (String.toList_injective hdot)
    · exact hs.above (String.toList_injective hdots)
  rw [h.push_written hname hdots]
  have hpushed : Pushed ps segment (ps ++ [written segment]) := .written
  refine Opens.of_joined (hpushed.free h.free) (by simp) ?_
  intro heq
  obtain ⟨hps, hwritten⟩ := List.append_inj' (heq.trans (List.nil_append [[]]).symm) rfl
  rcases hne with hne | hne
  · exact hne hps
  · rw [List.singleton_inj, written, hs.counted_eq, percentEncode_eq_nil] at hwritten
    exact hne (String.toList_injective hwritten)

end

-- ==================================================== pushing several

/-- Plain segments come behind the pieces that are there, as themselves. -/
theorem Opens.foldl_push {path : List Char} {ps : List (List Char)} (h : Opens path ps)
    {segments : List String} (hplain : ∀ s ∈ segments, Plain s)
    (hne : ps ≠ [] ∨ segments.head? ≠ some "") :
    Opens (segments.foldl push path) (ps ++ segments.map written) := by
  induction segments generalizing path ps with
  | nil =>
      rw [List.map_nil, List.append_nil]
      exact h
  | cons s segments ih =>
      rw [List.forall_mem_cons] at hplain
      have hfirst : ps ≠ [] ∨ s ≠ "" := hne.imp_right (mt (congrArg some))
      rw [List.map_cons, List.append_cons]
      exact ih (h.push_plain hplain.1 hfirst) hplain.2 (.inl (by simp))

/-- However many segments are pushed, none of them comes to be two pieces. -/
theorem length_pieces_foldl_push {path : List Char} (h : path.head? = some '/')
    (segments : List String) :
    (pieces (segments.foldl push path)).length ≤ (pieces path).length + segments.length := by
  induction segments generalizing path with
  | nil => exact Nat.le_refl _
  | cons s segments ih =>
      obtain ⟨ps, hopens, hps⟩ := Opens.exists h
      rw [List.length_cons]
      rcases hopens.push_cases s with ⟨-, hskip⟩ | ⟨-, qs, hpushed, heq⟩
      · have hrest := ih h
        rw [List.foldl_cons, hskip]
        omega
      · obtain ⟨q, more, rfl⟩ := List.exists_cons_of_ne_nil hpushed.ne_nil
        have hhead : (push path s).head? = some '/' := by rw [heq]; rfl
        have hrest := ih hhead
        have hlength := hpushed.length_le
        rw [heq, pieces_joined hpushed.ne_nil (hpushed.free hopens.free), ← heq] at hrest
        rw [List.foldl_cons]
        omega

/-- Where a segment is followed by plain ones and no piece is missing, one stands in its place: the
segment as it is written, or an empty one that it does not mean. -/
theorem Opens.piece_of_push {path : List Char} {ps : List (List Char)} (h : Opens path ps)
    (hne : ps ≠ []) (segment : String) {back : List String} (hback : ∀ s ∈ back, Plain s)
    (hlength : ps.length + back.length < (pieces (back.foldl push (push path segment))).length) :
    ∃ s, pieces (back.foldl push (push path segment)) = ps ++ s :: back.map written ∧
      (s = [] ∧ segment ≠ "" ∨ s = written segment ∧ segment ≠ "." ∧ segment ≠ "..") := by
  have hpieces := h.pieces_eq hne
  have hplace {s : List Char} (hfree : ∀ t ∈ ps ++ [s], '/' ∉ t)
      (hpush : push path segment = joined (ps ++ [s])) :
      pieces (back.foldl push (push path segment)) = ps ++ s :: back.map written := by
    have hroot : ps ++ [s] ≠ [[]] := by
      intro hone
      exact hne (List.append_inj' (hone.trans (List.nil_append [[]]).symm) rfl).1
    have hbehind := (Opens.of_joined hfree (by simp) hroot).foldl_push hback (.inl (by simp))
    rw [hpush, hbehind.pieces_eq (by simp), ← List.append_cons]
  rcases h.push_cases segment with ⟨-, hskip⟩ | ⟨hname, qs, hpushed, hpush⟩
  · have hbound := length_pieces_foldl_push h.head back
    rw [hskip] at hlength
    rw [hpieces] at hbound
    omega
  · have hfree := hpushed.free h.free
    cases hpushed with
    | written => exact ⟨_, hplace hfree hpush, .inr ⟨rfl, not_or.mp hname⟩⟩
    | here hempty => exact ⟨_, hplace hfree hpush, .inl ⟨rfl, hempty⟩⟩
    | @above qs q hps =>
        have hhead : (joined (qs ++ [[]])).head? = some '/' := by cases qs <;> rfl
        have hbound := length_pieces_foldl_push hhead back
        rw [pieces_joined (by simp) hfree, List.length_append, List.length_singleton] at hbound
        rw [hpush, hps, List.length_append, List.length_singleton] at hlength
        omega

-- ==================================================== the path of a server

/-- The pieces of a path, without an empty one at its end. -/
def trimmed (path : List Char) : List (List Char) :=
  if (pieces path).getLast? = some [] then (pieces path).dropLast else pieces path

/-- A path is gone on with behind its pieces, an empty one at the end left out. -/
theorem opens_openPath {path : List Char} (h : path.head? = some '/') (hroot : path ≠ ['/', '/']) :
    Opens (openPath path) (trimmed path) := by
  have hpath := joined_pieces h
  have hfree := slash_free_pieces path
  unfold trimmed
  rcases List.eq_nil_or_concat (pieces path) with hnil | ⟨init, s, hconcat⟩
  · exact absurd hnil (pieces_ne_nil path)
  · rw [List.concat_eq_append] at hconcat
    rw [hconcat, List.getLast?_concat, List.dropLast_concat]
    rw [hconcat, joined_concat] at hpath
    rw [hconcat] at hfree
    have hinit : ∀ t ∈ init, '/' ∉ t := fun t ht => hfree t (List.mem_append_left _ ht)
    by_cases hs : s = []
    · rw [if_pos (congrArg some hs)]
      rw [hs] at hpath
      rcases init with _ | ⟨t, init⟩
      · rw [← hpath]
        exact ⟨nofun, fun _ => rfl, fun hnot => absurd rfl hnot⟩
      · have hopen : openPath path = joined (t :: init) := by
          have hlong : 1 < (joined (t :: init) ++ ['/']).length := by
            rw [joined, List.flatMap_cons, List.length_append, List.length_append, List.length_cons,
              List.length_singleton]
            omega
          rw [← hpath, openPath, if_pos ⟨hlong, List.getLast?_concat⟩, List.dropLast_concat]
        rw [hopen]
        refine Opens.of_joined hinit (by simp) ?_
        intro hone
        rw [hone] at hpath
        exact hroot hpath.symm
    · rw [if_neg (mt Option.some.inj hs)]
      have hlast : path.getLast? ≠ some '/' := by
        rw [← hpath, List.getLast?_append_of_ne_nil _ (by simp)]
        intro hslash
        obtain ⟨c, cs, rfl⟩ := List.exists_cons_of_ne_nil hs
        rw [List.getLast?_cons_cons] at hslash
        exact hfree _ (by simp) (List.mem_of_getLast? hslash)
      have hopen : openPath path = path := if_neg fun hboth => hlast hboth.2
      rw [hopen, ← hpath, ← joined_concat]
      refine Opens.of_joined hfree (by simp) ?_
      intro hone
      exact hs (List.append_inj' (hone.trans (List.nil_append [[]]).symm) rfl |>.2 |>
        List.singleton_inj.mp)

/-- Of a path of two slashes, the first piece is lost when it is gone on with. -/
theorem opens_two_slashes : Opens (openPath ['/', '/']) [] :=
  ⟨nofun, fun _ => rfl, fun hnot => absurd rfl hnot⟩

theorem addSegments_head {path : List Char} (h : IsDirectory path)
    (segments : List (List Char)) : (addSegments path segments).head? = some '/' := by
  induction segments generalizing path with
  | nil => exact h.1
  | cons s segments ih =>
      cases segments with
      | cons t segments => exact ih (addSegment_directory h s)
      | nil =>
          show (addSegment path s false).head? = some '/'
          rcases addSegment_more path s with hsame | ⟨-, hplain⟩
          · rw [← hsame]
            exact (addSegment_directory h s).1
          · rw [hplain, List.head?_append, h.1]
            rfl

/-- The path of an address begins with a slash. -/
theorem head?_path {text : List Char} {u : Url} (h : parse? text = some u) :
    u.path.head? = some '/' := by
  rw [parse?_eq] at h
  obtain ⟨p, -, rfl⟩ := Option.map_eq_some_iff.mp h
  exact addSegments_head ⟨rfl, rfl⟩ _

end Url

end FunctionConsole.Web
