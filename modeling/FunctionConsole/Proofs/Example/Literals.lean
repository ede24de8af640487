/-!
# Literals of a program

A program is read into its characters outside of literals and the values of its literals. How a
language writes literals is given character by character (`Literals`): what opens one, what each
character adds to its value, and what closes it.

A text that is put between the delimiters of a literal as it stands is read back exactly if each of
its characters stands for itself there (`read_literal_iff`), provided that the language is
`Frugal`: whatever is written otherwise than by itself takes up more than it is worth, so that an
escape or an early end in the text would be missing in the value.
-/

namespace FunctionConsole

/-- How a language writes literals. A literal is read in modes, and its value is made of units. -/
structure Literals (M U : Type) where
  /-- The mode in which a literal starts that the character opens. -/
  opens : Char → Option M
  /-- The character may stand outside of literals. -/
  isCode : Char → Bool
  /-- What a character adds to the value, and the mode behind it; without a mode the literal is
  closed. None if the character may not stand there. -/
  step : M → Char → Option (List U × Option M)

/-- A piece of a program: a character outside of literals, or the value of a literal. -/
inductive Piece (U : Type) where
  | code (c : Char)
  | literal (value : List U)
  deriving DecidableEq, Repr

/-- A text outside of literals. -/
def codeOf {U : Type} (text : String) : List (Piece U) := text.toList.map .code

namespace Literals

variable {M U : Type}

/-- The pieces of a text. It is read from outside of literals, or from within one, of which the
value so far is given. -/
def read (L : Literals M U) : Option (M × List U) → List Char → Option (List (Piece U))
  | none, [] => some []
  | some _, [] => none
  | none, c :: cs =>
    match L.opens c with
    | none => if L.isCode c then (L.read none cs).map (.code c :: ·) else none
    | some m => L.read (some (m, [])) cs
  | some (m, value), c :: cs =>
    match L.step m c with
    | some (us, some m') => L.read (some (m', value ++ us)) cs
    | some (us, none) => (L.read none cs).map (.literal (value ++ us) :: ·)
    | none => none

variable {L : Literals M U} {spell : Char → List U} {start : M} {within : M → Prop}
  {pending : M → Nat} {close : Char} {rest : List Char} {pieces : List (Piece U)}

/-- What is read of a text up to the outside of literals is read of it in front of another. -/
theorem read_append {state : Option (M × List U)} {cs : List Char}
    (h : L.read state cs = some pieces) (rest : List Char) :
    L.read state (cs ++ rest) = (L.read none rest).map (pieces ++ ·) := by
  induction cs generalizing state pieces with
  | nil =>
      cases state with
      | none =>
          cases h
          simp
      | some _ => cases h
  | cons c cs ih =>
      cases state with
      | none =>
          rw [read] at h
          rw [List.cons_append, read]
          split at h
          · split at h
            · next hcode =>
              obtain ⟨tail, htail, rfl⟩ := Option.map_eq_some_iff.mp h
              rw [if_pos hcode, ih htail, Option.map_map]
              rfl
            · cases h
          · exact ih h
      | some state =>
          obtain ⟨m, value⟩ := state
          rw [read] at h
          rw [List.cons_append, read]
          split at h
          · exact ih h
          · obtain ⟨tail, htail, rfl⟩ := Option.map_eq_some_iff.mp h
            rw [ih htail, Option.map_map]
            rfl
          · cases h

/-- Characters that stand for themselves are added to the value. -/
theorem read_plain {text : List Char} (h : ∀ c ∈ text, L.step start c = some (spell c, some start))
    (value : List U) (rest : List Char) :
    L.read (some (start, value)) (text ++ rest) =
      L.read (some (start, value ++ text.flatMap spell)) rest := by
  induction text generalizing value with
  | nil => simp
  | cons c text ih =>
      rw [List.cons_append, read, h c List.mem_cons_self]
      dsimp only
      rw [ih (fun d hd => h d (List.mem_cons_of_mem _ hd)), List.flatMap_cons, List.append_assoc]

/-- The literal is closed. -/
theorem read_close {m : M} (h : L.step m close = some ([], none)) (value : List U)
    (rest : List Char) :
    L.read (some (m, value)) (close :: rest) = (L.read none rest).map (.literal value :: ·) := by
  rw [read, h]
  simp

-- ==================================================== texts that are read as meant

/-- In front of any other, a text is read as these pieces if the condition holds, and only then. -/
def Reads (L : Literals M U) (condition : Prop) (text : String) (ps : List (Piece U)) : Prop :=
  ∀ rest pieces, L.read none (text.toList ++ rest) = some (ps ++ pieces) ↔
    condition ∧ L.read none rest = some pieces

/-- A text without delimiters is read as it stands. -/
theorem reads_code (text : String)
    (h : text.toList.all (fun c => (L.opens c).isNone && L.isCode c) = true) :
    L.Reads True text (codeOf text) := by
  have hcode : L.read none text.toList = some (codeOf text) := by
    unfold codeOf
    generalize text.toList = cs at h
    induction cs with
    | nil => rfl
    | cons c cs ih =>
        rw [List.all_cons, Bool.and_eq_true, Bool.and_eq_true, Option.isNone_iff_eq_none] at h
        rw [read, h.1.1]
        dsimp only
        rw [if_pos h.1.2, ih h.2]
        rfl
  intro rest pieces
  rw [read_append hcode, Option.map_eq_some_iff]
  simp

/-- So is one that is given by its characters, as one that is written out is. -/
theorem reads_code_ofList (cs : List Char)
    (h : cs.all (fun c => (L.opens c).isNone && L.isCode c) = true) :
    L.Reads True (String.ofList cs) (codeOf (String.ofList cs)) :=
  reads_code _ (by rw [String.toList_ofList]; exact h)

/-- A literal of characters that stand for themselves. -/
theorem reads_literal {text : String} {before : Char} {cs : List Char}
    (htext : text.toList = before :: (cs ++ [close])) (hopens : L.opens before = some start)
    (hclose : L.step start close = some ([], none))
    (h : ∀ c ∈ cs, L.step start c = some (spell c, some start)) :
    L.Reads True text [.literal (cs.flatMap spell)] := by
  intro rest pieces
  rw [htext, List.cons_append, List.append_assoc, read, hopens]
  dsimp only
  rw [read_plain h, List.nil_append, List.singleton_append, read_close hclose,
    Option.map_eq_some_iff]
  simp

section

variable {condition condition' : Prop} {text text' : String} {ps ps' : List (Piece U)}

theorem Reads.append (h : L.Reads condition text ps) (h' : L.Reads condition' text' ps') :
    L.Reads (condition ∧ condition') (text ++ text') (ps ++ ps') := by
  intro rest pieces
  rw [String.toList_append, List.append_assoc, List.append_assoc, h, h', and_assoc]

theorem Reads.congr (h : L.Reads condition text ps) (heq : condition ↔ condition') :
    L.Reads condition' text ps := by
  intro rest pieces
  rw [h, heq]

theorem Reads.read_iff (h : L.Reads condition text ps) :
    L.read none text.toList = some ps ↔ condition := by
  have hend := h [] []
  rw [List.append_nil, List.append_nil] at hend
  rw [hend]
  exact and_iff_left rfl

end

-- ==================================================== texts between delimiters

/-- In these modes no character gives more than it takes up, if what is pending is counted; and
where the literal starts, each gives less, unless it stands for itself. -/
structure Frugal (L : Literals M U) (spell : Char → List U) (start : M) (within : M → Prop)
    (pending : M → Nat) : Prop where
  within_start : within start
  step : ∀ {m c us next}, within m → L.step m c = some (us, next) →
    (∀ m' ∈ next, within m') ∧ us.length + next.elim 0 pending ≤ (spell c).length + pending m
  plain : ∀ {c us next}, L.step start c = some (us, next) →
    us = spell c ∧ next = some start ∨ us.length + next.elim 0 pending < (spell c).length

/-- Wherever it is reached, a delimiter closes the literal, or is read as part of one that is not
closed as it should be. -/
def EndsAt (L : Literals M U) (within : M → Prop) (pending : M → Nat) (close : Char)
    (rest : List Char) : Prop :=
  ∀ m value value' pieces, within m →
    L.read (some (m, value)) (close :: rest) = some (.literal value' :: pieces) →
    value'.length ≤ value.length + pending m

/-- The value of a literal has no more units than the text it is read of. -/
theorem Frugal.length_le (hL : L.Frugal spell start within pending)
    (hend : L.EndsAt within pending close rest) {m : M} (hm : within m) {value value' : List U}
    {text : List Char}
    (h : L.read (some (m, value)) (text ++ close :: rest) = some (.literal value' :: pieces)) :
    value'.length ≤ value.length + pending m + (text.flatMap spell).length := by
  induction text generalizing m value with
  | nil => exact hend m value value' pieces hm h
  | cons c text ih =>
      rw [List.cons_append, read] at h
      rw [List.flatMap_cons, List.length_append]
      split at h
      · next us m' hstep =>
        obtain ⟨hwithin, hle⟩ := hL.step hm hstep
        have hrest := ih (hwithin m' rfl) h
        rw [List.length_append] at hrest
        have hle' : us.length + pending m' ≤ (spell c).length + pending m := hle
        omega
      · next us hstep =>
        obtain ⟨-, hle⟩ := hL.step hm hstep
        obtain ⟨tail, -, htail⟩ := Option.map_eq_some_iff.mp h
        cases htail
        rw [List.length_append]
        have hle' : us.length ≤ (spell c).length + pending m := hle
        omega
      · cases h

/-- A text between delimiters is read back only if each of its characters stands for itself. -/
theorem Frugal.plain_of_read (hL : L.Frugal spell start within pending)
    (hend : L.EndsAt within pending close rest) (value : List U) {text : List Char}
    (h : L.read (some (start, value)) (text ++ close :: rest) =
      some (.literal (value ++ text.flatMap spell) :: pieces)) :
    ∀ c ∈ text, L.step start c = some (spell c, some start) := by
  induction text generalizing value with
  | nil => simp
  | cons c text ih =>
      rw [List.cons_append, read] at h
      rw [List.flatMap_cons] at h
      split at h
      · next us m' hstep =>
        rcases hL.plain hstep with ⟨rfl, hnext⟩ | hlt
        · cases hnext
          rw [← List.append_assoc] at h
          intro d hd
          rcases List.mem_cons.mp hd with rfl | hd
          · exact hstep
          · exact ih _ h d hd
        · -- the rest of the text cannot make up for what is missing
          have hle := hL.length_le hend ((hL.step hL.within_start hstep).1 m' rfl) h
          simp only [List.length_append] at hle
          have hlt' : us.length + pending m' < (spell c).length := hlt
          omega
      · next us hstep =>
        obtain ⟨tail, -, htail⟩ := Option.map_eq_some_iff.mp h
        have hvalue : value ++ us = value ++ (spell c ++ text.flatMap spell) := by
          injection htail with hpiece
          injection hpiece
        have hus := congrArg List.length (List.append_cancel_left hvalue)
        rw [List.length_append] at hus
        rcases hL.plain hstep with ⟨-, hnext⟩ | hlt
        · cases hnext
        · have hlt' : us.length < (spell c).length := hlt
          omega
      · cases h

/-- A text between delimiters is read back exactly if each of its characters stands for itself, and
the program goes on behind it. -/
theorem Frugal.read_literal_iff (hL : L.Frugal spell start within pending)
    (hclose : L.step start close = some ([], none)) (hend : L.EndsAt within pending close rest)
    (text : List Char) (pieces : List (Piece U)) :
    L.read (some (start, [])) (text ++ close :: rest) =
        some (.literal (text.flatMap spell) :: pieces) ↔
      (∀ c ∈ text, L.step start c = some (spell c, some start)) ∧
        L.read none rest = some pieces := by
  constructor
  · intro h
    have hplain := hL.plain_of_read hend [] h
    rw [read_plain hplain, List.nil_append, read_close hclose, Option.map_eq_some_iff] at h
    obtain ⟨tail, htail, heq⟩ := h
    cases heq
    exact ⟨hplain, htail⟩
  · intro ⟨hplain, hrest⟩
    rw [read_plain hplain, List.nil_append, read_close hclose, hrest]
    rfl

end Literals

end FunctionConsole
