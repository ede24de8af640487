import FunctionConsole.Proofs.TextEnds
import FunctionConsole.Web.Url

/-!
# Reading a longer address

Often an address is made from another by writing something behind it. This file says what the reader
makes of the longer text: who and where stay the same (`site?_append`), and of the path the segments
that were there, with what follows them.

The reader of `Web.Url` goes through a text once, from the scheme to the fragment. `parse?_eq` cuts
it at the place where the path begins, since only what comes before can refuse a text: `site?` reads
up to there, and `withTail` takes the rest as it comes.
-/

namespace FunctionConsole.Web.Url

-- ==================================================== splitting

section

variable {p : Char → Bool} {cs : List Char}

theorem splitBefore_parts (p : Char → Bool) (cs : List Char) :
    (splitBefore p cs).1 ++ (splitBefore p cs).2 = cs :=
  List.takeWhile_append_dropWhile

theorem splitBefore_first {c : Char} (h : c ∈ (splitBefore p cs).1) : p c = false := by
  simpa using List.mem_takeWhile_imp h

theorem splitBefore_second {c : Char} (h : (splitBefore p cs).2.head? = some c) : p c = true := by
  have hne : (splitBefore p cs).2 ≠ [] := by
    intro hnil
    rw [hnil] at h
    cases h
  have hhead := List.head_dropWhile_not (fun c => !p c) hne
  rw [List.head?_eq_some_head hne] at h
  rw [Bool.not_eq_false'] at hhead
  exact Option.some.inj h ▸ hhead

/-- Where a text was split, it is split when it goes on. -/
theorem splitBefore_append {x : List Char}
    (h : (splitBefore p cs).2 ≠ [] ∨ ∀ c ∈ x.head?, p c = true) :
    splitBefore p (cs ++ x) = ((splitBefore p cs).1, (splitBefore p cs).2 ++ x) := by
  induction cs with
  | nil =>
      cases x with
      | nil => rfl
      | cons c x =>
          have hc : p c = true := by simpa [splitBefore] using h
          simp [splitBefore, hc]
  | cons c cs ih =>
      by_cases hc : p c = true
      · simp [splitBefore, hc]
      · have hsplit : (splitBefore p (c :: cs)) =
            (c :: (splitBefore p cs).1, (splitBefore p cs).2) := by
          simp [splitBefore, hc]
        rw [hsplit] at h ⊢
        have hlonger : splitBefore p (c :: cs ++ x) =
            (c :: (splitBefore p (cs ++ x)).1, (splitBefore p (cs ++ x)).2) := by
          simp [splitBefore, hc]
        rw [hlonger, ih h]

/-- A text that is free of the characters to split at is not split. -/
theorem splitBefore_of_free (h : ∀ c ∈ cs, p c = false) : splitBefore p cs = (cs, []) := by
  have hfree : ∀ c ∈ cs, (!p c) = true := fun c hc => by simp [h c hc]
  rw [splitBefore, List.takeWhile_eq_self_iff.mpr hfree, List.dropWhile_eq_nil_iff.mpr hfree]

theorem splitBefore_free_append (h : ∀ c ∈ cs, p c = false) (x : List Char) :
    splitBefore p (cs ++ x) = (cs ++ (splitBefore p x).1, (splitBefore p x).2) := by
  have hfree : ∀ c ∈ cs, (!p c) = true := fun c hc => by simp [h c hc]
  rw [splitBefore, List.takeWhile_append_of_pos hfree, List.dropWhile_append_of_pos hfree]
  rfl

end

-- ==================================================== what counts

/-- A character that an address loses at its ends. -/
def isEdge (c : Char) : Bool := c.toNat ≤ 32

/-- The characters of a text that count. -/
def counted (cs : List Char) : List Char := cs.filter fun c => !isIgnored c

theorem counted_append (cs ds : List Char) : counted (cs ++ ds) = counted cs ++ counted ds :=
  List.filter_append cs ds

theorem lt_of_not_edge {c : Char} (h : isEdge c = false) : 32 < c.toNat :=
  Nat.lt_of_not_le (of_decide_eq_false h)

theorem not_ignored_of_lt {c : Char} (h : 32 < c.toNat) : isIgnored c = false := by
  rw [Bool.eq_false_iff]
  intro hc
  simp only [isIgnored, Bool.or_eq_true, beq_iff_eq] at hc
  rcases hc with (rfl | rfl) | rfl <;> exact absurd h (by decide)

theorem getLast?_counted {text : List Char} (h : ∀ c ∈ text.getLast?, isEdge c = false) :
    (counted text).getLast? = text.getLast? := by
  cases hlast : text.getLast? with
  | none =>
      rw [List.getLast?_eq_none_iff] at hlast
      rw [hlast]
      rfl
  | some c =>
      have hkept := not_ignored_of_lt (lt_of_not_edge (h c hlast))
      obtain ⟨front, rfl⟩ := List.getLast?_eq_some_iff.mp hlast
      have hcounted : counted [c] = [c] := by simp [counted, hkept]
      rw [counted_append, hcounted, List.getLast?_concat]

-- ==================================================== who and where

/-- A character that ends the part of an address that says who and where. -/
def isBreak (c : Char) : Bool := isSlash c || c == '?' || c == '#'

/-- Reads who and where. -/
def authority? (secure : Bool) (authority : List Char) : Option Url := do
  let (user, place) := splitUser authority
  let (username, password) := userParts (user.getD [])
  let (host, number) := splitPort false place
  let host ← Host.parse? host
  let portNumber ← portNumber? secure (number.getD [])
  some { secure, username, password, host, portNumber }

/-- Whether a scheme is the secure one of the two that there are. -/
def secure? (scheme : List Char) : Option Bool :=
  if scheme = "http".toList then some false else if scheme = "https".toList then some true else none

/-- Reads an address up to its path, and gives what is left. -/
def site? (cs : List Char) : Option (Url × List Char) := do
  let (scheme, rest) ← scheme? cs
  let secure ← secure? scheme
  let (authority, rest) := splitBefore isBreak (rest.dropWhile isSlash)
  let u ← authority? secure authority
  some (u, rest)

/-- A character that ends the path of an address. -/
def isPathEnd (c : Char) : Bool := c == '?' || c == '#'

/-- The path that a text stands for. -/
def pathOf (text : List Char) : List Char :=
  addSegments ['/'] ((Text.splitOnChar isSlash (text.drop 1)).map (percentEncode inPathSet))

/-- The query in what stands behind a path. -/
def queryOf (rest : List Char) : Option (List Char) :=
  (splitBefore (· == '#') rest).1.tail?.map (percentEncode inQuerySet)

/-- The fragment in what stands behind a path. -/
def fragmentOf (rest : List Char) : Option (List Char) :=
  (splitBefore (· == '#') rest).2.tail?.map (percentEncode inFragmentSet)

/-- The address with what is left of the text: path, query and fragment. -/
def withTail (u : Url) (rest : List Char) : Url :=
  let (pathText, rest) := splitBefore isPathEnd rest
  { u with path := pathOf pathText, query := queryOf rest, fragment := fragmentOf rest }

/-- Reading an address is reading who and where, and taking the rest as it comes. -/
theorem parse?_eq (text : List Char) :
    parse? text = (site? (counted (Text.dropAroundWhile isEdge text))).map
      fun p => p.1.withTail p.2 := by
  unfold parse? site? authority? secure?
  simp only [Option.bind_eq_bind, Option.map_bind, Function.comp_def, counted]
  congr 1
  funext p
  -- the scheme says how the rest is read, but not what is read of it
  by_cases hhttp : p.1 = "http".toList
  · rw [if_pos hhttp, if_pos hhttp]
    simp only [Option.bind_some, Option.bind_assoc]
    rfl
  · by_cases hhttps : p.1 = "https".toList
    · rw [if_neg hhttp, if_pos hhttps, if_neg hhttp, if_pos hhttps]
      simp only [Option.bind_some, Option.bind_assoc]
      rfl
    · rw [if_neg hhttp, if_neg hhttps, if_neg hhttp, if_neg hhttps]
      rfl

section

variable {cs r scheme : List Char}

theorem scheme?_parts (h : scheme? cs = some (scheme, r)) : ∃ front, cs = front ++ r := by
  unfold scheme? at h
  split at h
  · next c s rest hsplit =>
      split at h
      · cases h
        have hparts := splitBefore_parts (· == ':') cs
        rw [hsplit] at hparts
        exact ⟨c :: s ++ [':'], by simp [← hparts]⟩
      · cases h
  · cases h

theorem scheme?_append (h : scheme? cs = some (scheme, r)) (x : List Char) :
    scheme? (cs ++ x) = some (scheme, r ++ x) := by
  unfold scheme? at h ⊢
  split at h
  · next c s rest hsplit =>
      have hlonger : splitBefore (· == ':') (cs ++ x) = (c :: s, ':' :: (rest ++ x)) := by
        rw [splitBefore_append (.inl (by simp [hsplit])), hsplit]
        rfl
      rw [hlonger]
      split at h
      · next hvalid =>
          cases h
          exact if_pos hvalid
      · cases h
  · cases h

theorem authority?_nil (secure : Bool) : authority? secure [] = none := by
  cases secure <;> decide

/-- What comes before the path of an address, and what is left behind it. -/
theorem site?_eq_some {u : Url} {rest : List Char} :
    site? cs = some (u, rest) ↔
      ∃ scheme r secure authority, scheme? cs = some (scheme, r) ∧ secure? scheme = some secure ∧
        splitBefore isBreak (r.dropWhile isSlash) = (authority, rest) ∧
        authority? secure authority = some u := by
  unfold site?
  simp only [Option.bind_eq_bind, Option.bind_eq_some_iff, Prod.exists, Option.some.injEq,
    Prod.mk.injEq]
  constructor
  · rintro ⟨scheme, r, hscheme, secure, hsecure, u', hu, rfl, rfl⟩
    exact ⟨scheme, r, secure, _, hscheme, hsecure, rfl, hu⟩
  · rintro ⟨scheme, r, secure, authority, hscheme, hsecure, hsplit, hu⟩
    exact ⟨scheme, r, hscheme, secure, hsecure, u, by rw [hsplit]; exact hu, rfl, by rw [hsplit]⟩

variable {u : Url} {rest : List Char}

/-- Before the path stands a character that is none of those that could begin one. -/
theorem site?_parts (h : site? cs = some (u, rest)) :
    ∃ front c, cs = front ++ c :: rest ∧ isBreak c = false := by
  obtain ⟨scheme, r, secure, authority, hscheme, -, hsplit, hu⟩ := site?_eq_some.mp h
  obtain ⟨front, rfl⟩ := scheme?_parts hscheme
  have hparts := splitBefore_parts isBreak (r.dropWhile isSlash)
  rw [hsplit] at hparts
  have hne : authority ≠ [] := by
    rintro rfl
    rw [authority?_nil] at hu
    cases hu
  refine ⟨front ++ r.takeWhile isSlash ++ authority.dropLast, authority.getLast hne, ?_, ?_⟩
  · have hr : r.takeWhile isSlash ++ r.dropWhile isSlash = r := List.takeWhile_append_dropWhile
    rw [← hparts, ← List.dropLast_concat_getLast hne] at hr
    calc front ++ r
        = front ++ (r.takeWhile isSlash ++
            (authority.dropLast ++ [authority.getLast hne] ++ rest)) := by rw [hr]
      _ = front ++ r.takeWhile isSlash ++ authority.dropLast ++ authority.getLast hne :: rest := by
          simp
  · have hmem : authority.getLast hne ∈ (splitBefore isBreak (r.dropWhile isSlash)).1 := by
      rw [hsplit]
      exact List.getLast_mem hne
    exact splitBefore_first hmem

/-- What is left begins where the part that says who and where ends. -/
theorem site?_rest (h : site? cs = some (u, rest)) : ∀ c ∈ rest.head?, isBreak c = true := by
  obtain ⟨scheme, r, secure, authority, -, -, hsplit, -⟩ := site?_eq_some.mp h
  intro c hc
  have hhead : (splitBefore isBreak (r.dropWhile isSlash)).2.head? = some c := by
    rw [hsplit]
    exact hc
  exact splitBefore_second hhead

/-- A longer text names the same place, unless the name itself goes on. -/
theorem site?_append (h : site? cs = some (u, rest)) {x : List Char}
    (hx : rest ≠ [] ∨ ∀ c ∈ x.head?, isBreak c = true) :
    site? (cs ++ x) = some (u, rest ++ x) := by
  obtain ⟨scheme, r, secure, authority, hscheme, hsecure, hsplit, hu⟩ := site?_eq_some.mp h
  have hne : r.dropWhile isSlash ≠ [] := by
    intro hnil
    rw [hnil] at hsplit
    have hauthority : [] = authority := congrArg Prod.fst hsplit
    rw [← hauthority, authority?_nil] at hu
    cases hu
  have hdrop : (r ++ x).dropWhile isSlash = r.dropWhile isSlash ++ x := by
    rw [List.dropWhile_append, if_neg (by simpa [List.isEmpty_iff] using hne)]
  have hlonger : splitBefore isBreak ((r ++ x).dropWhile isSlash) = (authority, rest ++ x) := by
    rw [hdrop, splitBefore_append (by rw [hsplit]; exact hx), hsplit]
  exact site?_eq_some.mpr ⟨scheme, r ++ x, secure, authority, scheme?_append hscheme x, hsecure,
    hlonger, hu⟩

end

end FunctionConsole.Web.Url
