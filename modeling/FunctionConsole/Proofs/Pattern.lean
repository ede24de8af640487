import Mathlib.Data.List.TakeWhile

/-!
# Patterns

A pattern reads a text from left to right and keeps some of what it reads. It may read a text in
several ways: a run takes as many characters as there are, and gives some of them back if what comes
after it cannot be read otherwise. The readings come in the order in which they are tried, and the
first that reads the whole text counts.

This file defines the readings and says when nothing is ever given back: if the longest run leads
nowhere, a shorter one must not lead anywhere either (`first?_run`).
-/

namespace FunctionConsole

/-- What a text is read with. -/
inductive Pattern where
  /-- One character of a kind. -/
  | one (kind : Char → Bool)
  /-- Characters of a kind, as many as possible. -/
  | run (kind : Char → Bool)
  /-- A pattern and another behind it. -/
  | both (first second : Pattern)
  /-- A pattern whose text is kept. -/
  | kept (body : Pattern)

namespace Pattern

/-- One way to read the front of a text. -/
structure Reading where
  taken : List Char
  /-- The texts that are kept, from left to right. -/
  kept : List (List Char)
  rest : List Char

/-- The readings of a run, the longest first. -/
def runs (kind : Char → Bool) : List Char → List Reading
  | [] => [⟨[], [], []⟩]
  | c :: l =>
    if kind c then
      (runs kind l).map (fun r => { r with taken := c :: r.taken }) ++ [⟨[], [], c :: l⟩]
    else [⟨[], [], c :: l⟩]

/-- The readings of the front of a text, in the order in which they are tried. -/
def readings : Pattern → List Char → List Reading
  | one _, [] => []
  | one kind, c :: l => if kind c then [⟨[c], [], l⟩] else []
  | run kind, l => runs kind l
  | both first second, l =>
    (first.readings l).flatMap fun r =>
      (second.readings r.rest).map fun q => ⟨r.taken ++ q.taken, r.kept ++ q.kept, q.rest⟩
  | kept body, l => (body.readings l).map fun r => { r with kept := r.taken :: r.kept }

/-- The first reading that can be gone on with, and what comes of it. -/
def first? {α : Type} (e : Pattern) (l : List Char) (next : Reading → Option α) : Option α :=
  (e.readings l).findSome? next

/-- A reading that leaves nothing adds to what was kept before it. -/
def whole (before : List (List Char)) (r : Reading) : Option (List (List Char)) :=
  if r.rest.isEmpty then some (before ++ r.kept) else none

/-- What is kept of a text that is read as a whole. -/
def captures? (e : Pattern) (l : List Char) : Option (List (List Char)) := e.first? l (whole [])

/-- Characters of a kind, at least one and as many as possible. -/
def someOf (kind : Char → Bool) : Pattern := both (one kind) (run kind)

-- ==================================================== runs

/-- The longest reading of a run. -/
def longest (kind : Char → Bool) (l : List Char) : Reading :=
  ⟨l.takeWhile kind, [], l.dropWhile kind⟩

/-- A run stops before a character that it could have taken, so that more is left than the longest
run leaves. -/
structure Shorter (kind : Char → Bool) (l : List Char) (r : Reading) : Prop where
  could : ∃ c rest, r.rest = c :: rest ∧ kind c = true
  leaves : l.dropWhile kind <:+ r.rest
  within : r.rest <:+ l

theorem head?_runs (kind : Char → Bool) (l : List Char) :
    (runs kind l).head? = some (longest kind l) := by
  induction l with
  | nil => rfl
  | cons c l ih =>
      rw [runs, longest, List.takeWhile_cons, List.dropWhile_cons]
      split
      · rw [List.head?_append, List.head?_map, ih]
        rfl
      · rfl

theorem mem_runs {kind : Char → Bool} {l : List Char} {r : Reading} (h : r ∈ runs kind l) :
    r = longest kind l ∨ Shorter kind l r := by
  induction l generalizing r with
  | nil => exact .inl (List.mem_singleton.mp h)
  | cons c l ih =>
      rw [runs] at h
      split at h
      · next hc =>
          have hdrop : (c :: l).dropWhile kind = l.dropWhile kind := List.dropWhile_cons_of_pos hc
          rcases List.mem_append.mp h with h | h
          · obtain ⟨q, hq, rfl⟩ := List.mem_map.mp h
            rcases ih hq with rfl | hshorter
            · rw [longest, longest, hdrop, List.takeWhile_cons_of_pos hc]
              exact .inl rfl
            · refine .inr ⟨hshorter.could, ?_, hshorter.within.trans (List.suffix_cons c l)⟩
              rw [hdrop]
              exact hshorter.leaves
          · rw [List.mem_singleton.mp h]
            refine .inr ⟨⟨c, l, rfl, hc⟩, ?_, List.suffix_refl _⟩
            exact List.dropWhile_suffix kind
      · next hc =>
          rw [longest, List.takeWhile_cons_of_neg hc, List.dropWhile_cons_of_neg hc]
          exact .inl (List.mem_singleton.mp h)

-- ==================================================== the first reading

section

variable {α : Type} {kind : Char → Bool} {l : List Char} {next : Reading → Option α}

/-- A run gives nothing back, if no shorter one can be gone on with where the longest cannot. -/
theorem first?_run
    (h : next (longest kind l) = none → ∀ r, Shorter kind l r → next r = none) :
    (run kind).first? l next = next (longest kind l) := by
  obtain ⟨shorter, hruns⟩ : ∃ shorter, runs kind l = longest kind l :: shorter := by
    cases hruns : runs kind l with
    | nil => simpa [hruns] using head?_runs kind l
    | cons first shorter =>
        have hfirst := head?_runs kind l
        rw [hruns] at hfirst
        rw [Option.some.inj hfirst]
        exact ⟨shorter, rfl⟩
  rw [first?, readings, hruns, List.findSome?_cons]
  cases hlongest : next (longest kind l) with
  | some a => rfl
  | none =>
      apply List.findSome?_eq_none_iff.mpr
      intro r hr
      have hmem : r ∈ runs kind l := by
        rw [hruns]
        exact List.mem_cons_of_mem _ hr
      rcases mem_runs hmem with rfl | hshorter
      · exact hlongest
      · exact h hlongest r hshorter

theorem first?_one_cons {c : Char} :
    (one kind).first? (c :: l) next = if kind c then next ⟨[c], [], l⟩ else none := by
  rw [first?, readings]
  split
  · rw [List.findSome?_cons]
    cases next ⟨[c], [], l⟩ <;> rfl
  · rfl

theorem first?_both (first second : Pattern) :
    (both first second).first? l next =
      first.first? l fun r => second.first? r.rest fun q =>
        next ⟨r.taken ++ q.taken, r.kept ++ q.kept, q.rest⟩ := by
  rw [first?, readings, first?]
  induction first.readings l with
  | nil => rfl
  | cons r rs ih =>
      let found := second.first? r.rest fun q => next ⟨r.taken ++ q.taken, r.kept ++ q.kept, q.rest⟩
      rw [List.flatMap_cons, List.findSome?_append, List.findSome?_map, ih, List.findSome?_cons]
      change found.or _ = match found with | some a => some a | none => _
      cases found <;> rfl

theorem first?_both_whole (first second : Pattern) (before : List (List Char)) :
    (both first second).first? l (whole before) =
      first.first? l fun r => second.first? r.rest (whole (before ++ r.kept)) := by
  rw [first?_both]
  refine congrArg (first.first? l) (funext fun r =>
    congrArg (second.first? r.rest) (funext fun q => ?_))
  rw [whole, whole, List.append_assoc]

theorem first?_kept (body : Pattern) :
    (kept body).first? l next =
      body.first? l fun r => next { r with kept := r.taken :: r.kept } := by
  rw [first?, readings, List.findSome?_map]
  rfl

theorem first?_someOf
    (h : next (longest kind l) = none → ∀ r, Shorter kind l r → next r = none) :
    (someOf kind).first? l next =
      if (l.takeWhile kind).isEmpty then none else next (longest kind l) := by
  rw [someOf, first?_both]
  cases l with
  | nil => rfl
  | cons c l =>
      rw [first?_one_cons]
      by_cases hc : kind c = true
      · have hdrop : (c :: l).dropWhile kind = l.dropWhile kind := List.dropWhile_cons_of_pos hc
        rw [longest, List.takeWhile_cons_of_pos hc, hdrop] at h ⊢
        rw [if_pos hc, List.isEmpty_cons, if_neg Bool.false_ne_true]
        refine first?_run fun hlongest r hshorter => h hlongest _ ⟨hshorter.could, ?_, ?_⟩
        · rw [hdrop]
          exact hshorter.leaves
        · exact hshorter.within.trans (List.suffix_cons c l)
      · rw [if_neg hc, List.takeWhile_cons_of_neg hc]
        rfl

end

end Pattern

end FunctionConsole
