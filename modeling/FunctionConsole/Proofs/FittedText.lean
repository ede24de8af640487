import FunctionConsole.Text.Fit
import Mathlib.Data.List.Infix

/-!
# Texts cut to a number of cells

A text is cut by counting the cells of its characters one by one, but how many cells it takes is
said of the text as a whole, and the two differ. Characters that are drawn as one take fewer cells
than they do one by one. But a control takes none by itself and one in a text, and a narrow
character takes one by itself and two if the selector behind it makes a picture of it. The number of
these is the surplus of a text (`width_le`), and a text that is cut overruns by no more than it:
`cut_text_within_surplus` says what is kept and how wide it is, and `cut_text_overruns` that it does
overrun.

A character may also take back a cell of those behind it, and among the halves of flags such cells
are taken again. So the bounds are proved with an account of these cells, which each character keeps
balanced (`Balanced`).
-/

namespace FunctionConsole.Text

/-- The cells of characters one by one. -/
def cells : List Char → Nat
  | [] => 0
  | c :: cs => charWidth c + cells cs

/-- A character takes a cell more before others than by itself. -/
def Swells (c : Char) (cs : List Char) : Prop :=
  isControl c = true ∨ inTable picturedTable c.toNat = true ∧ cs.head? = some pictureSelector

instance (c : Char) (cs : List Char) : Decidable (Swells c cs) :=
  inferInstanceAs (Decidable (_ ∨ _))

/-- The characters of a text that take a cell more in it than by themselves. -/
def surplus : List Char → Nat
  | [] => 0
  | c :: cs => (if Swells c cs then 1 else 0) + surplus cs

-- ==================================================== ranges of characters

/-- No number is in both of two ascending tables. -/
def apart : List (Nat × Nat) → List (Nat × Nat) → Bool
  | [], _ => true
  | a :: s, t =>
    let rest := t.dropWhile fun b => b.2 < a.1
    (match rest with
      | [] => true
      | b :: _ => a.2 < b.1) && apart s rest

theorem inTable_nil (n : Nat) : ¬ inTable [] n = true := Bool.false_ne_true

theorem inTable_cons {lo hi n : Nat} {rest : List (Nat × Nat)} :
    inTable ((lo, hi) :: rest) n = true ↔ lo ≤ n ∧ (n ≤ hi ∨ inTable rest n = true) := by
  rw [inTable]
  split
  · next h => simp [Nat.not_le.mpr h]
  · next h => simp [Nat.not_lt.mp h]

/-- Ranges below a number do not matter to it. -/
theorem inTable_dropWhile {t : List (Nat × Nat)} {lo n : Nat} (h : inTable t n = true)
    (hlo : lo ≤ n) : inTable (t.dropWhile fun b => b.2 < lo) n = true := by
  induction t with
  | nil => exact h
  | cons b t ih =>
      rw [List.dropWhile_cons]
      split
      · next hlt =>
          have hlt : b.2 < lo := of_decide_eq_true hlt
          rcases (inTable_cons.mp h).2 with hle | hrest
          · omega
          · exact ih hrest
      · exact h

theorem not_inTable_of_apart {s t : List (Nat × Nat)} (hapart : apart s t = true) {n : Nat}
    (hs : inTable s n = true) : inTable t n = false := by
  induction s generalizing t with
  | nil => cases hs
  | cons a s ih =>
      rw [apart, Bool.and_eq_true] at hapart
      obtain ⟨hlo, hin⟩ := inTable_cons.mp hs
      refine Bool.eq_false_iff.mpr fun ht => ?_
      have hrest := inTable_dropWhile ht hlo
      rcases hin with hhi | hin
      · cases hdrop : t.dropWhile fun b => decide (b.2 < a.1) with
        | nil =>
            rw [hdrop] at hrest
            cases hrest
        | cons b rest =>
            rw [hdrop] at hrest hapart
            have hlt : a.2 < b.1 := of_decide_eq_true hapart.1
            have hle := (inTable_cons.mp hrest).1
            omega
      · rw [ih hapart.2 hin] at hrest
        cases hrest

/-- Characters without a cell that are neither marks nor show nothing by their nature: controls,
signs around digits, and the later parts of Korean syllables. -/
def cellless : List (Nat × Nat) :=
  [(0, 0x1F), (0x7F, 0x9F), (0x605, 0x605), (0x70F, 0x70F), (0x890, 0x891), (0x8E2, 0x8E2),
   (0x1160, 0x11FF), (0xA8FA, 0xA8FA), (0xD7B0, 0xD7FB)]

/-- What takes no cell is a mark, shows nothing by its nature, or is a part of a syllable or a sign
around digits. -/
theorem takesNoCell_cases {c : Char} (h : takesNoCell c = true) :
    inTable extendingTable c.toNat = true ∨ inTable ignorableTable c.toNat = true ∨
      (c.toNat < 0x10000 ∧ (syllablePart? c = some .vowel ∨ syllablePart? c = some .trailing)) ∨
        c.toNat ∈ [0x605, 0x70F, 0x890, 0x891, 0x8E2, 0xA8FA] := by
  unfold takesNoCell at h
  dsimp only at h
  split at h
  · cases h
  · split at h
    · cases h
    · simp only [isExtending, Bool.or_eq_true, Bool.and_eq_true, beq_iff_eq, decide_eq_true_eq,
        List.contains_iff_mem] at h
      obtain ((⟨-, hmark⟩ | hhidden) | hpart) | hsign := h
      · exact .inl hmark
      · exact .inr (.inl hhidden)
      · exact .inr (.inr (.inl hpart))
      · exact .inr (.inr (.inr hsign))

/-- All characters that take no cell by themselves are in three tables. -/
theorem inTable_of_hidden {c : Char} (h : (isControl c || takesNoCell c) = true) :
    inTable extendingTable c.toNat = true ∨ inTable ignorableTable c.toNat = true ∨
      inTable cellless c.toNat = true := by
  have hcellless : inTable cellless c.toNat = true ↔ c.toNat ≤ 0x1F ∨
      0x7F ≤ c.toNat ∧ c.toNat ≤ 0x9F ∨ c.toNat ∈ [0x605, 0x70F, 0x890, 0x891, 0x8E2, 0xA8FA] ∨
        0x1160 ≤ c.toNat ∧ c.toNat ≤ 0x11FF ∨ 0xD7B0 ≤ c.toNat ∧ c.toNat ≤ 0xD7FB := by
    simp only [cellless, inTable_cons, inTable_nil, Nat.zero_le, Bool.false_eq_true, or_false,
      true_and, List.mem_cons, List.not_mem_nil]
    omega
  have hsyllable : c.toNat < 0x10000 ∧
      (syllablePart? c = some .vowel ∨ syllablePart? c = some .trailing) →
      0x1160 ≤ c.toNat ∧ c.toNat ≤ 0x11FF ∨ 0xD7B0 ≤ c.toNat ∧ c.toNat ≤ 0xD7FB := by
    unfold syllablePart?
    dsimp only
    split_ifs <;> simp <;> omega
  rw [hcellless]
  rcases Bool.or_eq_true_iff.mp h with hcontrol | hnone
  · simp only [isControl, Bool.or_eq_true, Bool.and_eq_true, decide_eq_true_eq] at hcontrol
    omega
  · rcases takesNoCell_cases hnone with hmark | hhidden | hpart | hsign
    · exact .inl hmark
    · exact .inr (.inl hhidden)
    · exact .inr (.inr (.inr (.inr (.inr (hsyllable hpart)))))
    · exact .inr (.inr (.inr (.inr (.inl hsign))))

-- ==================================================== cells of one character

theorem charWidth_of_not_hidden {c : Char} (h : (isControl c || takesNoCell c) = false) :
    1 ≤ charWidth c ∧ (isWide c = true → 2 ≤ charWidth c) := by
  have hcontrol : ¬ c.toNat < 0x20 := fun hlt => by simp [isControl, hlt] at h
  have hwide : isWide c = true → 0x1100 ≤ c.toNat := by
    simp only [isWide, Bool.and_eq_true, decide_eq_true_eq]
    exact And.left
  unfold charWidth
  rw [h, if_neg hcontrol, if_neg Bool.false_ne_true]
  split
  · exact ⟨Nat.le_refl _, fun hw => by have := hwide hw; omega⟩
  · split
    · omega
    · split <;> simp [*]

/-- Characters of a table that has none of those without a cell in it take a cell, and two if they
are wide. -/
theorem charWidth_of_apart {t : List (Nat × Nat)}
    (hapart : (apart t extendingTable && apart t ignorableTable && apart t cellless) = true)
    {c : Char} (h : inTable t c.toNat = true) :
    1 ≤ charWidth c ∧ (isWide c = true → 2 ≤ charWidth c) := by
  simp only [Bool.and_eq_true] at hapart
  obtain ⟨⟨hmarks, hignored⟩, hothers⟩ := hapart
  refine charWidth_of_not_hidden (Bool.eq_false_iff.mpr fun hhidden => ?_)
  rcases inTable_of_hidden hhidden with ht | ht | ht
  · rw [not_inTable_of_apart hmarks h] at ht
    cases ht
  · rw [not_inTable_of_apart hignored h] at ht
    cases ht
  · rw [not_inTable_of_apart hothers h] at ht
    cases ht

/-- A narrow character that may become a picture takes a cell, and a wide one two. -/
theorem charWidth_of_startsPicture {c : Char} (h : startsPicture c = true) :
    1 ≤ charWidth c ∧ (inTable picturedTable c.toNat = true ∨ 2 ≤ charWidth c) := by
  rw [startsPicture, Bool.or_eq_true, Bool.and_eq_true] at h
  rcases h with hnarrow | ⟨hwide, hvaried⟩
  · exact ⟨(charWidth_of_apart (by decide +kernel) hnarrow).1, .inl hnarrow⟩
  · have hcells := charWidth_of_apart (by decide +kernel) hvaried
    exact ⟨hcells.1, .inr (hcells.2 hwide)⟩

theorem charWidth_of_startsPlain {c : Char} (h : startsPlain c = true) : 1 ≤ charWidth c := by
  simp only [startsPlain, Bool.and_eq_true] at h
  exact (charWidth_of_apart (by decide +kernel) h.1.2).1

theorem charWidth_of_isFlagHalf {c : Char} (h : isFlagHalf c = true) : 1 ≤ charWidth c := by
  have htable : inTable [(0x1F1E6, 0x1F1FF)] c.toNat = true := by
    simpa [isFlagHalf, inTable_cons, inTable_nil] using h
  exact (charWidth_of_apart (by decide +kernel) htable).1

/-- The sign that joins consonants of Tifinagh, and a vowel of Kirat Rai. -/
theorem charWidth_of_toNat {c : Char} (h : c.toNat = 0x2D7F ∨ c.toNat = 0x16D68) :
    charWidth c = 1 := by
  have hc : c = Char.ofNat c.toNat := (Char.ofNat_toNat c).symm
  rcases h with h | h
  all_goals
    rw [hc, h]
    decide +kernel

-- ==================================================== an account of cells

/-- The cells that halves of flags have taken back, and that others of them may take again. -/
def Neighbour.saved : Neighbour → Nat
  | .joined (.flagHalves true) => 2
  | _ => 0

/-- The cells that the next character may take back. -/
def Neighbour.owed : Neighbour → Nat
  | .ligature .subscript _ | .ligature .signAndConsonant _ => 1
  | .joined .flagHalf | .joined (.flagHalves false) => 1
  | _ => 0

/-- What a character adds is paid for by its own cells, some extra ones, and what was saved; and
what it takes back was owed. -/
structure Balanced (c : Char) (extra : Nat) (next : Neighbour) (r : Int × Neighbour) : Prop where
  most : r.1 + r.2.saved ≤ charWidth c + extra + next.saved
  least : r.2.owed ≤ next.owed + r.1

section

variable {c : Char} {extra : Nat} {r : Int × Neighbour}

/-- Of the letters that grow together only the sign of Tifinagh adds a cell, and that is its own. -/
theorem Ligature.balanced {letter : Ligature} {tied : Bool} (h : letter.before? tied c = some r) :
    Balanced c extra (.ligature letter tied) r := by
  have hsign : c.toNat = 0x2D7F → charWidth c = 1 := fun h => charWidth_of_toNat (.inl h)
  rw [before?] at h
  split at h
  · cases h
    cases letter <;> constructor <;> grind [Neighbour.saved, Neighbour.owed]
  · unfold grown? at h
    cases letter
    all_goals
      dsimp only at h
      split_ifs at h
      all_goals
        cases h
        constructor <;> grind [Neighbour.saved, Neighbour.owed]

/-- Before pictures that are joined only halves of flags add cells or take them back. -/
theorem Joined.balanced {tail : Joined} (h : tail.before? c = some r) :
    Balanced c extra (.joined tail) r := by
  have hhalf : isFlagHalf c = true → 1 ≤ charWidth c := charWidth_of_isFlagHalf
  unfold before? at h
  cases tail with
  | key => cases h
  | bare | flagHalf | letters count | digits count =>
      dsimp only at h
      split_ifs at h
      all_goals
        cases h
        constructor <;> grind [Neighbour.saved, Neighbour.owed]
  | flagHalves even =>
      -- an even number of halves has saved two cells, with which the next one can add three
      cases even
      all_goals
        dsimp only at h
        split_ifs at h
        all_goals
          cases h
          constructor <;> grind [Neighbour.saved, Neighbour.owed]

theorem Neighbour.balanced_of_before? {next : Neighbour} (h : next.before? c = some r) :
    Balanced c extra next r := by
  have hhalf : isFlagHalf c = true → 1 ≤ charWidth c := charWidth_of_isFlagHalf
  have hvowel : c.toNat = 0x16D68 → charWidth c = 1 := fun h => charWidth_of_toNat (.inr h)
  unfold before? at h
  cases next with
  | joined tail => exact Joined.balanced h
  | ligature letter tied => exact Ligature.balanced h
  | other | lineFeed => cases h
  | picture | skinTone | flagHalf | flagHalves | kirat double =>
      dsimp only at h
      split_ifs at h
      all_goals
        cases h
        constructor <;> grind [saved, owed]

/-- What a character alone lets be taken back is its own. -/
theorem neighbourOf_paid (c : Char) :
    (neighbourOf c).saved = 0 ∧ (neighbourOf c).owed ≤ charWidth c := by
  have hletter {letter : Ligature} (h : ligature? c = some letter) :
      (Neighbour.ligature letter false).owed ≤ charWidth c := by
    have hsubscript : inTable subscriptTable c.toNat = true → 1 ≤ charWidth c := fun h =>
      (charWidth_of_apart (by decide +kernel) h).1
    unfold ligature? at h
    dsimp only at h
    split_ifs at h
    all_goals
      cases h
      grind [Neighbour.owed]
  unfold neighbourOf
  split_ifs
  case neg =>
    split
    · next letter h => exact ⟨rfl, hletter h⟩
    · exact ⟨rfl, Nat.zero_le _⟩
  all_goals exact ⟨rfl, Nat.zero_le _⟩

/-- A character is balanced before any neighbour, but for a control. -/
theorem Neighbour.before_balanced (next : Neighbour) (hcontrol : isControl c = true → 1 ≤ extra) :
    Balanced c extra next (next.before c) := by
  unfold before
  split
  · next hsmall =>
      have hcells : 1 ≤ charWidth c + extra := by
        cases hc : isControl c with
        | true => exact Nat.le_add_left_of_le (hcontrol hc)
        | false =>
            have hshown : (isControl c || takesNoCell c) = false := by
              rw [hc, Bool.false_or, takesNoCell]
              exact if_pos (by omega)
            exact Nat.le_add_right_of_le (charWidth_of_not_hidden hshown).1
      constructor <;> split_ifs <;> simp only [saved, owed] <;> omega
  · cases hbefore : next.before? c with
    | some r => exact balanced_of_before? hbefore
    | none =>
        obtain ⟨hsaved, howed⟩ := neighbourOf_paid c
        constructor <;> simp only [Option.getD_none] <;> omega

theorem Balanced.of_le {next next' : Neighbour} (h : Balanced c extra next' r)
    (hsaved : next'.saved ≤ next.saved) (howed : next'.owed ≤ next.owed) :
    Balanced c extra next r := by
  obtain ⟨hmost, hleast⟩ := h
  constructor <;> omega

/-- A selector leaves no more to take than it has before it. -/
theorem Following.unselected_le (next : Following) :
    next.unselected.saved ≤ next.neighbour.saved ∧ next.unselected.owed ≤ next.neighbour.owed := by
  unfold unselected
  split
  · exact ⟨Nat.le_refl _, Nat.le_refl _⟩
  · next h =>
      rw [h]
      exact ⟨Nat.le_refl _, Nat.le_refl _⟩
  · exact ⟨Nat.zero_le _, Nat.zero_le _⟩

/-- A character is balanced before what follows it, but for a control and for a narrow character
that becomes a picture. -/
theorem widthBefore_balanced (next : Following) (hcontrol : isControl c = true → 1 ≤ extra)
    (hpicture : next.selector = some .picture → inTable picturedTable c.toNat = true → 1 ≤ extra) :
    Balanced c extra next.neighbour
      ((widthBefore c next).1, (widthBefore c next).2.neighbour) := by
  obtain ⟨hsaved, howed⟩ := next.unselected_le
  unfold widthBefore
  split
  · constructor <;> dsimp only <;> omega
  · split
    · constructor <;> dsimp only <;> omega
    · split
      · next hstarts =>
          have hcells : 2 ≤ charWidth c + extra := by
            obtain ⟨hone, hnarrow | htwo⟩ := charWidth_of_startsPicture hstarts.2
            · have hextra := hpicture hstarts.1 hnarrow
              omega
            · exact Nat.le_add_right_of_le htwo
          constructor <;> dsimp only [Neighbour.saved, Neighbour.owed] <;> split_ifs <;> omega
      · split
        · next hstarts =>
            have hcell := charWidth_of_startsPlain hstarts.2
            constructor <;> dsimp only [Neighbour.saved, Neighbour.owed] <;> omega
        · exact (next.unselected.before_balanced hcontrol).of_le hsaved howed

end

-- ==================================================== cells of a text

theorem widthFrom_cons (c : Char) (cs : List Char) : widthFrom (c :: cs) =
    ((widthFrom cs).1 + (widthBefore c (widthFrom cs).2).1, (widthBefore c (widthFrom cs).2).2) :=
  rfl

/-- What makes a picture of the character before it is a selector. -/
theorem head?_of_selected {cs : List Char} (h : (widthFrom cs).2.selector = some .picture) :
    cs.head? = some pictureSelector := by
  cases cs with
  | nil => cases h
  | cons c cs =>
      rw [widthFrom_cons] at h
      dsimp only [widthBefore] at h
      split_ifs at h with hc
      · rw [hc, List.head?_cons]
      · cases h

/-- The cells of a text pay for what may be taken back of it, and with what is saved of it they are
no more than those of its characters one by one, but for its surplus. -/
theorem widthFrom_bounds (cs : List Char) :
    (widthFrom cs).2.neighbour.owed ≤ (widthFrom cs).1 ∧
      (widthFrom cs).1 + (widthFrom cs).2.neighbour.saved ≤ cells cs + surplus cs := by
  induction cs with
  | nil => exact ⟨Int.le_refl _, Int.le_refl _⟩
  | cons c cs ih =>
      obtain ⟨howed, hsaved⟩ := ih
      have hbalanced : Balanced c (if Swells c cs then 1 else 0) (widthFrom cs).2.neighbour
          ((widthBefore c (widthFrom cs).2).1, (widthBefore c (widthFrom cs).2).2.neighbour) := by
        refine widthBefore_balanced _ (fun hcontrol => ?_) fun hselected hnarrow => ?_
        · rw [if_pos (.inl hcontrol)]
        · rw [if_pos (.inr ⟨hnarrow, head?_of_selected hselected⟩)]
      obtain ⟨hmost, hleast⟩ := hbalanced
      rw [widthFrom_cons, cells, surplus]
      dsimp only at hmost hleast ⊢
      constructor <;> omega

/-- The cells of a text are never below zero on the way. -/
theorem width_eq (cs : List Char) : (width cs : Int) = (widthFrom cs).1 := by
  have howed := (widthFrom_bounds cs).1
  exact Int.toNat_of_nonneg (by omega)

/-- A text takes no more cells than its characters one by one, but for its surplus. -/
theorem width_le (cs : List Char) : width cs ≤ cells cs + surplus cs := by
  have hwidth := width_eq cs
  have hmost := (widthFrom_bounds cs).2
  omega

/-- The surplus of the front of a text is part of that of the text. -/
theorem surplus_of_start {cs ds : List Char} (h : cs <+: ds) : surplus cs ≤ surplus ds := by
  induction cs generalizing ds with
  | nil => exact Nat.zero_le _
  | cons c cs ih =>
      obtain ⟨rest, rfl⟩ := h
      have hhead : cs.head? = some pictureSelector → (cs ++ rest).head? = some pictureSelector := by
        cases cs with
        | nil => exact nofun
        | cons _ _ => exact id
      rw [List.cons_append, surplus, surplus]
      refine Nat.add_le_add ?_ (ih (List.prefix_append cs rest))
      split
      · next hswells =>
          have hswells' : Swells c (cs ++ rest) := hswells.imp_right fun h => ⟨h.1, hhead h.2⟩
          rw [if_pos hswells']
      · exact Nat.zero_le _

/-- What stands behind a text adds its cells, if it does not join the text. -/
theorem widthFrom_append (cs : List Char) {ds : List Char}
    (h : (widthFrom ds).2 = ⟨.other, none⟩) :
    widthFrom (cs ++ ds) = ((widthFrom cs).1 + (widthFrom ds).1, (widthFrom cs).2) := by
  induction cs with
  | nil => exact Prod.ext (Int.zero_add _).symm h
  | cons c cs ih =>
      rw [List.cons_append, widthFrom_cons, ih, widthFrom_cons]
      exact Prod.ext (Int.add_right_comm _ _ _) rfl

theorem width_append (cs : List Char) {ds : List Char}
    (h : (widthFrom ds).2 = ⟨.other, none⟩) : width (cs ++ ds) = width cs + width ds := by
  have hsum : ((width (cs ++ ds) : Nat) : Int) = width cs + width ds := by
    rw [width_eq, width_eq, width_eq, widthFrom_append cs h]
  omega

theorem width_append_ellipsis (cs : List Char) : width (cs ++ [ellipsis]) = width cs + 1 := by
  have hmark : widthFrom [ellipsis] = (1, ⟨.other, none⟩) := by decide +kernel
  rw [width_append cs (by rw [hmark]), width, width, hmark, Int.toNat_one]

theorem width_append_blanks (cs : List Char) (n : Nat) :
    width (cs ++ List.replicate n ' ') = width cs + n := by
  have hblanks : widthFrom (List.replicate n ' ') = ((n : Int), ⟨.other, none⟩) := by
    induction n with
    | zero => rfl
    | succ n ih =>
        rw [List.replicate_succ, widthFrom_cons, ih]
        rfl
  rw [width_append cs (by rw [hblanks]), width, width, hblanks, Int.toNat_natCast]

-- ==================================================== what is kept of a text

theorem fitting_start (max taken : Nat) (cs : List Char) : fitting max taken cs <+: cs := by
  induction cs generalizing taken with
  | nil => exact List.nil_prefix
  | cons c cs ih =>
      rw [fitting]
      split
      · exact List.nil_prefix
      · exact List.cons_prefix_cons.mpr ⟨rfl, ih _⟩

/-- What is kept leaves a cell free. -/
theorem cells_fitting_lt {max taken : Nat} (h : taken < max) (cs : List Char) :
    taken + cells (fitting max taken cs) < max := by
  induction cs generalizing taken with
  | nil => exact h
  | cons c cs ih =>
      rw [fitting]
      split
      · exact h
      · have hrest : taken + charWidth c + cells (fitting max (taken + charWidth c) cs) < max :=
          ih (by omega)
        rw [cells]
        omega

/-- Any front of the text that leaves a cell free is kept. -/
theorem prefix_fitting {max taken : Nat} {front cs : List Char} (h : front <+: cs)
    (hcells : taken + cells front < max) : front <+: fitting max taken cs := by
  induction front generalizing taken cs with
  | nil => exact List.nil_prefix
  | cons c front ih =>
      obtain ⟨t, rfl⟩ := h
      rw [cells] at hcells
      rw [List.cons_append, fitting, if_neg (by omega)]
      exact List.cons_prefix_cons.mpr ⟨rfl, ih ⟨t, rfl⟩ (by omega)⟩

-- ==================================================== texts that are cut

section

variable {cs : List Char} {n : Nat}

theorem truncate_of_fits (h : width cs ≤ n) : truncate cs n = cs := if_pos h

theorem truncate_of_too_wide (h : n < width cs) (hn : 0 < n) :
    truncate cs n = fitting n 0 cs ++ [ellipsis] := by
  rw [truncate, if_neg (Nat.not_le.mpr h), if_neg hn.ne']

/-- A text that is cut overruns by no more than the surplus of what is kept. -/
theorem width_cut_le (hn : 0 < n) :
    width (fitting n 0 cs ++ [ellipsis]) ≤ n + surplus (fitting n 0 cs) := by
  have hkept := width_le (fitting n 0 cs)
  have hroom := cells_fitting_lt hn cs
  rw [width_append_ellipsis]
  omega

theorem width_truncate_le (cs : List Char) (n : Nat) :
    width (truncate cs n) ≤ n + surplus cs := by
  obtain hfits | hwide := Nat.lt_or_ge n (width cs) |>.symm
  · rw [truncate_of_fits hfits]
    exact Nat.le_add_right_of_le hfits
  · obtain rfl | hn := Nat.eq_zero_or_pos n
    · rw [truncate, if_neg (Nat.not_le.mpr hwide), if_pos rfl]
      exact Nat.zero_le _
    · rw [truncate_of_too_wide hwide hn]
      exact Nat.le_trans (width_cut_le hn)
        (Nat.add_le_add_left (surplus_of_start (fitting_start n 0 cs)) n)

/-- Filling up makes a text as wide as wanted, unless it overruns. -/
theorem width_padRight (cs : List Char) (n : Nat) :
    width (padRight cs n) = max n (width (truncate cs n)) := by
  rw [padRight, width_append_blanks]
  omega

end

/-- A text that fits is left as it is. One that does not is cut to nothing where no cell is wanted,
and else to the longest of its fronts whose characters, one by one, leave a cell free, and the
ellipsis; this overruns by no more than the surplus of what is kept. A text without controls, and
without narrow characters that a selector makes pictures of, so never takes more cells than wanted,
and is filled up to just as many; any other is filled up unless it overruns. -/
theorem cut_text_within_surplus (cs : List Char) (n : Nat) :
    let cut := truncate cs n
    (width cs ≤ n → cut = cs) ∧
    (n < width cs → n = 0 → cut = []) ∧
    (n < width cs → 0 < n → ∃ kept, kept <+: cs ∧ cut = kept ++ [ellipsis] ∧ cells kept < n ∧
      (∀ front, front <+: cs → cells front < n → front <+: kept) ∧
      width cut = width kept + 1 ∧ width cut ≤ n + surplus kept) ∧
    (surplus cs = 0 → width cut ≤ n ∧ width (padRight cs n) = n) ∧
    width (padRight cs n) = max n (width cut) := by
  intro cut
  refine ⟨truncate_of_fits, fun hwide hn => ?_, fun hwide hn => ?_, fun hnone => ?_,
    width_padRight cs n⟩
  · exact (if_neg (Nat.not_le.mpr hwide)).trans (if_pos hn)
  · have hcut : cut = fitting n 0 cs ++ [ellipsis] := truncate_of_too_wide hwide hn
    have hroom := cells_fitting_lt hn cs
    rw [Nat.zero_add] at hroom
    refine ⟨fitting n 0 cs, fitting_start n 0 cs, hcut, hroom, fun front hfront hcells => ?_,
      ?_, ?_⟩
    · exact prefix_fitting hfront (by rwa [Nat.zero_add])
    · rw [hcut, width_append_ellipsis]
    · rw [hcut]
      exact width_cut_le hn
  · have hcut : width cut ≤ n := by
      have hle := width_truncate_le cs n
      rwa [hnone] at hle
    exact ⟨hcut, (width_padRight cs n).trans (Nat.max_eq_left hcut)⟩

/-- A tab takes no cell by itself and one in a text, and a heart takes one by itself and two with
the selector for a picture behind it: with either, a text is cut to more cells than wanted, and
filled up to more. -/
theorem cut_text_overruns :
    let tab := "a\tb".toList
    let hearts := ['❤', pictureSelector, '❤', pictureSelector]
    ¬ width (truncate tab 2) ≤ 2 ∧ truncate tab 2 = "a\t…".toList ∧ width (padRight tab 2) ≠ 2 ∧
      ¬ width (truncate hearts 3) ≤ 3 := by
  decide +kernel

end FunctionConsole.Text
