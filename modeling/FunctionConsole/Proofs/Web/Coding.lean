import FunctionConsole.Web.Percent
import FunctionConsole.Web.Url
import Mathlib.Data.List.Basic

/-!
# Texts in percent coding

A text that is percent-coded never gets shorter, and no character of it is coded as something that
has a meaning in a path: neither as a slash nor as a dot. What a code stands for can be read from it
(`percentDecode_percentEncode`), also where another text stands before it, which need not be a code
itself (`percentDecode_append`). So characters cannot change their places in a text by being coded
(`mem_of_percentEncode`).
-/

namespace FunctionConsole.Web

-- ==================================================== percent coding

section

variable {set : Char → Bool} {cs : List Char}

theorem percentEncode_cons (set : Char → Bool) (c : Char) (cs : List Char) :
    percentEncode set (c :: cs) = percentEncode set [c] ++ percentEncode set cs := by
  simp [percentEncode]

theorem percentEncode_append (set : Char → Bool) (cs ds : List Char) :
    percentEncode set (cs ++ ds) = percentEncode set cs ++ percentEncode set ds := by
  simp [percentEncode]

theorem length_percentBytes (bytes : List UInt8) :
    (bytes.flatMap percentByte).length = 3 * bytes.length := by
  induction bytes with
  | nil => rfl
  | cons b bytes ih =>
      rw [List.flatMap_cons, List.length_append, ih, List.length_cons]
      simp [percentByte]
      omega

/-- A character stands for itself or is written by its bytes, three characters for each. -/
theorem percentEncode_singleton (set : Char → Bool) (c : Char) :
    percentEncode set [c] =
      if c.toNat < 128 ∧ !set c then [c] else (String.utf8EncodeChar c).flatMap percentByte := by
  simp [percentEncode]

theorem percentEncode_plain {c : Char} (h : c.toNat < 128 ∧ (!set c) = true) :
    percentEncode set [c] = [c] := by
  rw [percentEncode_singleton, if_pos h]

theorem three_le_length_percentEncode {c : Char} (h : ¬ (c.toNat < 128 ∧ (!set c) = true)) :
    3 ≤ (percentEncode set [c]).length := by
  have hbytes : 1 ≤ (String.utf8EncodeChar c).length := by
    rw [String.length_utf8EncodeChar]
    exact Char.utf8Size_pos c
  rw [percentEncode_singleton, if_neg h, length_percentBytes]
  omega

theorem one_le_length_percentEncode (set : Char → Bool) (c : Char) :
    1 ≤ (percentEncode set [c]).length := by
  by_cases h : c.toNat < 128 ∧ (!set c) = true
  · rw [percentEncode_plain h]
    exact Nat.le_refl _
  · exact Nat.le_trans (by omega) (three_le_length_percentEncode h)

theorem percentEncode_eq_nil : percentEncode set cs = [] ↔ cs = [] := by
  constructor
  · intro h
    cases cs with
    | nil => rfl
    | cons c cs =>
        have hc := one_le_length_percentEncode set c
        rw [percentEncode_cons] at h
        rw [(List.append_eq_nil_iff.mp h).1] at hc
        exact absurd hc (by decide)
  · rintro rfl
    rfl

theorem exists_utf8EncodeChar (c : Char) : ∃ b more, String.utf8EncodeChar c = b :: more := by
  refine List.exists_cons_of_ne_nil fun hnil => ?_
  have hsize := String.length_utf8EncodeChar c
  rw [hnil] at hsize
  exact absurd hsize.symm (Nat.ne_of_gt (Char.utf8Size_pos c))

/-- The code of a character that is written by its bytes begins with a percent sign. -/
theorem percentEncode_percent {c : Char} (h : set c = true) (cs : List Char) :
    ∃ more, percentEncode set (c :: cs) = '%' :: more := by
  rw [percentEncode_cons, percentEncode_singleton, if_neg (by simp [h])]
  obtain ⟨b, more, hbytes⟩ := exists_utf8EncodeChar c
  rw [hbytes]
  exact ⟨_, rfl⟩

/-- Only the characters of the text decide how it is coded. -/
theorem percentEncode_congr {set' : Char → Bool} (h : ∀ c ∈ cs, set c = set' c) :
    percentEncode set cs = percentEncode set' cs := by
  induction cs with
  | nil => rfl
  | cons c cs ih =>
      have ih := ih fun d hd => h d (List.mem_cons_of_mem _ hd)
      rw [percentEncode_cons, percentEncode_cons set', ih, percentEncode_singleton,
        percentEncode_singleton, h c List.mem_cons_self]

variable {set' : Char → Bool} (hset : ∀ c, set c = true → set' c = true)
include hset

theorem length_percentEncode_singleton_le (c : Char) :
    (percentEncode set [c]).length ≤ (percentEncode set' [c]).length := by
  by_cases hplain : c.toNat < 128 ∧ (!set c) = true
  · rw [percentEncode_plain hplain]
    exact one_le_length_percentEncode set' c
  · have hplain' : ¬ (c.toNat < 128 ∧ (!set' c) = true) := by
      rintro ⟨hlt, hnot⟩
      refine hplain ⟨hlt, ?_⟩
      cases hc : set c with
      | false => rfl
      | true =>
          rw [hset c hc] at hnot
          cases hnot
    refine Nat.le_of_eq ?_
    rw [percentEncode_singleton, percentEncode_singleton, if_neg hplain, if_neg hplain']

/-- Coding more characters makes no text shorter. -/
theorem length_percentEncode_le (cs : List Char) :
    (percentEncode set cs).length ≤ (percentEncode set' cs).length := by
  induction cs with
  | nil => exact Nat.le_refl _
  | cons c cs ih =>
      rw [percentEncode_cons, percentEncode_cons set', List.length_append, List.length_append]
      exact Nat.add_le_add (length_percentEncode_singleton_le hset c) ih

/-- Coding a character of a text that was not coded makes it longer. -/
theorem length_percentEncode_lt {c : Char} (hc : c ∈ cs) (hplain : c.toNat < 128 ∧ (!set c) = true)
    (hcoded : set' c = true) :
    (percentEncode set cs).length < (percentEncode set' cs).length := by
  obtain ⟨before, after, rfl⟩ := List.append_of_mem hc
  have hbefore := length_percentEncode_le hset before
  have hafter := length_percentEncode_le hset after
  have hthree : 3 ≤ (percentEncode set' [c]).length :=
    three_le_length_percentEncode (by simp [hcoded])
  rw [percentEncode_append, percentEncode_append, percentEncode_cons, percentEncode_cons set',
    percentEncode_plain hplain]
  simp only [List.length_append, List.length_singleton]
  omega

end

theorem hexDigit_ne_slash : ∀ n < 16, hexDigit n ≠ '/' := by decide

/-- Coding brings no slash into a text, and may take those out that are there. -/
theorem slash_of_mem_percentEncode {set : Char → Bool} {cs : List Char}
    (h : '/' ∈ percentEncode set cs) : '/' ∈ cs ∧ set '/' = false := by
  obtain ⟨c, hc, hmem⟩ := List.mem_flatMap.mp h
  split at hmem
  · next hplain =>
      rw [List.mem_singleton.mp hmem]
      exact ⟨hc, by simpa using hplain.2⟩
  · obtain ⟨b, -, hb⟩ := List.mem_flatMap.mp hmem
    have hlt := b.toNat_lt
    simp only [percentByte, List.mem_cons, List.not_mem_nil, or_false] at hb
    rcases hb with hpercent | hhigh | hlow
    · exact absurd hpercent (by decide)
    · exact absurd hhigh.symm (hexDigit_ne_slash _ (by omega))
    · exact absurd hlow.symm (hexDigit_ne_slash _ (by omega))

/-- A byte of ASCII is a character by itself and no part of another. -/
theorem utf8EncodeChar_ascii {c : Char} {b : UInt8} (h : b ∈ String.utf8EncodeChar c)
    (hb : b.toNat < 128) : c.toNat = b.toNat := by
  have hval : c.toNat = c.val.toNat := rfl
  unfold String.utf8EncodeChar at h
  dsimp only at h
  split at h
  case isTrue =>
    obtain rfl := List.mem_singleton.mp h
    rw [UInt8.toNat_ofNat']
    omega
  case isFalse =>
    -- the bytes of a character of several begin at 128
    have hhigh {n : Nat} (hn : b = UInt8.ofNat n) (hge : 128 ≤ n) (hlt : n < 256) : False := by
      rw [hn, UInt8.toNat_ofNat'] at hb
      omega
    split at h
    case isTrue =>
      simp only [List.mem_cons, List.not_mem_nil, or_false] at h
      rcases h with h | h <;> exact (hhigh h (by omega) (by omega)).elim
    case isFalse =>
      split at h
      case isTrue =>
        simp only [List.mem_cons, List.not_mem_nil, or_false] at h
        rcases h with h | h | h <;> exact (hhigh h (by omega) (by omega)).elim
      case isFalse =>
        simp only [List.mem_cons, List.not_mem_nil, or_false] at h
        rcases h with h | h | h | h <;> exact (hhigh h (by omega) (by omega)).elim

-- ==================================================== dots

/-- A character below the small letters is the lower case of itself alone. -/
theorem eq_of_toLower {c d : Char} (hd : d.toNat < 97) (h : c.toLower = d) : c = d := by
  unfold Char.toLower at h
  split at h
  · next hupper =>
      have hsum := congrArg (fun c => c.val.toNat) h
      have hge : 65 ≤ c.val.toNat := UInt32.le_iff_toNat_le.mp hupper.1
      have hle : c.val.toNat ≤ 90 := UInt32.le_iff_toNat_le.mp hupper.2
      have hstep : ('a'.val - 'A'.val).toNat = 32 := by decide
      have hval : d.toNat = d.val.toNat := rfl
      rw [UInt32.toNat_add] at hsum
      omega
  · exact h

theorem hexDigit_two : ∀ n < 16, (hexDigit n).toLower = '2' → n = 2 := by decide

theorem hexDigit_fourteen : ∀ n < 16, (hexDigit n).toLower = 'e' → n = 14 := by decide

/-- No character of a segment is coded as a dot could be. -/
theorem percentEncode_not_dot {c : Char} {cs rest : List Char} :
    (percentEncode inSegmentSet (c :: cs)).map Char.toLower ≠ '%' :: '2' :: 'e' :: rest := by
  intro h
  rw [percentEncode_cons, percentEncode_singleton] at h
  split at h
  · next hplain =>
      have hlower : c.toLower = '%' := by simpa using congrArg List.head? h
      obtain rfl := eq_of_toLower (by decide) hlower
      exact absurd hplain (by decide)
  · next hcoded =>
      obtain ⟨b, more, hbytes⟩ := exists_utf8EncodeChar c
      rw [hbytes] at h
      simp only [List.flatMap_cons, percentByte, List.cons_append, List.nil_append, List.map_cons,
        List.cons_eq_cons] at h
      obtain ⟨-, htwo, he, -⟩ := h
      have hlt := b.toNat_lt
      have hhigh := hexDigit_two (b.toNat / 16) (by omega) htwo
      have hlow := hexDigit_fourteen (b.toNat % 16) (by omega) he
      have hcode : b.toNat = 46 := by omega
      have hdot := utf8EncodeChar_ascii (hbytes ▸ List.mem_cons_self) (by omega)
      obtain rfl : c = '.' := Char.ext (UInt32.toNat_inj.mp (hdot.trans hcode))
      exact hcoded (by decide)

/-- A segment that begins like a dot begins with one. -/
theorem percentEncode_dot {c : Char} {cs rest : List Char}
    (h : (percentEncode inSegmentSet (c :: cs)).map Char.toLower = '.' :: rest) :
    c = '.' ∧ (percentEncode inSegmentSet cs).map Char.toLower = rest := by
  rw [percentEncode_cons, percentEncode_singleton] at h
  split at h
  · next hplain =>
      obtain ⟨hlower, hrest⟩ := List.cons_eq_cons.mp h
      exact ⟨eq_of_toLower (by decide) hlower, hrest⟩
  · next hcoded =>
      obtain ⟨b, more, hbytes⟩ := exists_utf8EncodeChar c
      rw [hbytes] at h
      exact absurd (List.cons_eq_cons.mp h).1 (by decide)

/-- Of the segments that are handed over only `.` and `..` are steps in the path. -/
theorem dots_of_percentEncode {cs : List Char}
    (h : Url.isHere (percentEncode inSegmentSet cs) = true ∨
      Url.isAbove (percentEncode inSegmentSet cs) = true) : cs = ['.'] ∨ cs = ['.', '.'] := by
  cases cs with
  | nil => exact absurd h (by decide)
  | cons c cs =>
      have hend {cs : List Char} (h : (percentEncode inSegmentSet cs).map Char.toLower = []) :
          cs = [] := percentEncode_eq_nil.mp (List.map_eq_nil_iff.mp h)
      simp only [Url.isHere, Url.isAbove, Bool.or_eq_true, beq_iff_eq, List.any_cons, List.any_nil,
        Bool.or_false] at h
      rcases h with (hdot | hcode) | hdots | hcode | hmixed | hcode
      · obtain ⟨rfl, hrest⟩ := percentEncode_dot hdot
        obtain rfl := hend hrest
        exact .inl rfl
      · exact absurd hcode percentEncode_not_dot
      · have hpair : (percentEncode inSegmentSet (c :: cs)).map Char.toLower = ['.', '.'] := hdots
        obtain ⟨rfl, hrest⟩ := percentEncode_dot hpair
        cases cs with
        | nil => cases hrest
        | cons d ds =>
            obtain ⟨rfl, hnone⟩ := percentEncode_dot hrest
            obtain rfl := hend hnone
            exact .inr rfl
      · exact absurd hcode percentEncode_not_dot
      · obtain ⟨rfl, hrest⟩ := percentEncode_dot hmixed
        cases cs with
        | nil => cases hrest
        | cons d ds => exact absurd hrest percentEncode_not_dot
      · exact absurd hcode percentEncode_not_dot

-- ==================================================== decoding

theorem hexValue?_hexDigit : ∀ n < 16, hexValue? (hexDigit n) = some n := by decide

theorem percentDecode_percentByte (b : UInt8) (rest : List Char) :
    percentDecode (percentByte b ++ rest) = b :: percentDecode rest := by
  have hlt := b.toNat_lt
  rw [percentByte, List.cons_append, List.cons_append, List.cons_append, List.nil_append,
    percentDecode, hexValue?_hexDigit _ (by omega), hexValue?_hexDigit _ (by omega)]
  dsimp only
  rw [Nat.div_add_mod', UInt8.ofNat_toNat]

theorem percentDecode_percentBytes (bytes : List UInt8) (rest : List Char) :
    percentDecode (bytes.flatMap percentByte ++ rest) = bytes ++ percentDecode rest := by
  induction bytes with
  | nil => rfl
  | cons b bytes ih =>
      rw [List.flatMap_cons, List.append_assoc, percentDecode_percentByte, ih, List.cons_append]

/-- A character that begins no code stands for itself. -/
theorem percentDecode_cons {c : Char} {cs : List Char}
    (h : ∀ a b rest, c = '%' → cs = a :: b :: rest → hexValue? a = none ∨ hexValue? b = none) :
    percentDecode (c :: cs) = String.utf8EncodeChar c ++ percentDecode cs := by
  by_cases hread : ∃ a b rest, c = '%' ∧ cs = a :: b :: rest
  · obtain ⟨a, b, rest, rfl, rfl⟩ := hread
    rw [percentDecode]
    split
    · next x y hx hy =>
        rcases h a b rest rfl rfl with hnone | hnone
        · rw [hnone] at hx
          cases hx
        · rw [hnone] at hy
          cases hy
    · rfl
  · rw [percentDecode]
    exact fun a b rest hc hcs => hread ⟨a, b, rest, hc, hcs⟩

/-- A text is what its code stands for, if no percent sign of it stands for itself in the code. -/
theorem percentDecode_percentEncode {set : Char → Bool} {cs : List Char}
    (h : '%' ∈ cs → set '%' = true) (rest : List Char) :
    percentDecode (percentEncode set cs ++ rest) =
      cs.flatMap String.utf8EncodeChar ++ percentDecode rest := by
  induction cs with
  | nil => rfl
  | cons c cs ih =>
      rw [percentEncode_cons, percentEncode_singleton, List.append_assoc, List.flatMap_cons,
        List.append_assoc, ← ih fun hmem => h (List.mem_cons_of_mem _ hmem)]
      split
      · next hplain =>
          refine percentDecode_cons ?_
          rintro _ _ _ rfl -
          rw [h List.mem_cons_self] at hplain
          exact absurd hplain.2 (by decide)
      · exact percentDecode_percentBytes _ _

/-- The bytes of a text determine it. -/
theorem utf8_inj {cs ds : List Char}
    (h : cs.flatMap String.utf8EncodeChar = ds.flatMap String.utf8EncodeChar) : cs = ds := by
  have hbytes : (String.ofList cs).toByteArray = (String.ofList ds).toByteArray := by
    rw [String.toByteArray_ofList, String.toByteArray_ofList, List.utf8Encode, List.utf8Encode, h]
  exact String.ofList_injective (String.toByteArray_inj.mp hbytes)

/-- A percent sign is no digit, so what stands before one is read as it would be alone. -/
theorem percentDecode_append (cs rest : List Char) :
    percentDecode (cs ++ '%' :: rest) = percentDecode cs ++ percentDecode ('%' :: rest) := by
  have hdigit : hexValue? '%' = none := by decide
  induction cs using percentDecode.induct with
  | case1 => rfl
  | case2 a b more x y hy hx ih =>
      simp only [List.cons_append, percentDecode, hx, hy, ih]
  | case3 a b more hnone ih =>
      have hdigits : hexValue? a = none ∨ hexValue? b = none := by
        rw [Option.eq_none_iff_forall_ne_some, Option.eq_none_iff_forall_ne_some]
        by_contra! hread
        obtain ⟨⟨x, hx⟩, y, hy⟩ := hread
        exact hnone x y hx hy
      have hunread (more : List Char) : percentDecode ('%' :: a :: b :: more) =
          String.utf8EncodeChar '%' ++ percentDecode (a :: b :: more) := by
        refine percentDecode_cons ?_
        rintro _ _ _ - ⟨⟩
        exact hdigits
      simp only [List.cons_append] at ih ⊢
      rw [hunread, hunread, ih, List.append_assoc]
  | case4 c more hshort ih =>
      rw [List.cons_append, percentDecode_cons, percentDecode_cons, ih, List.append_assoc]
      · exact fun a b more' hc hmore => absurd hmore fun h => hshort a b more' hc h
      · intro a b more' hc hmore
        match more, hshort with
        | [], _ => exact .inl ((List.cons_eq_cons.mp hmore).1 ▸ hdigit)
        | [d], _ => exact .inr ((List.cons_eq_cons.mp (List.cons_eq_cons.mp hmore).2).1 ▸ hdigit)
        | d :: e :: more, hshort => exact absurd rfl fun h => hshort d e more hc h

/-- If a text with one code in front of it is the text with another behind it, the two codes stand
for the same bytes. -/
theorem perm_of_percentEncode {set : Char → Bool} {front back code : List Char}
    (hfront : '%' ∉ front) (hback : '%' ∉ back) (hset : ∀ c ∈ back.head?, set c = true)
    (h : percentEncode set front ++ code = code ++ percentEncode set back) :
    (front.flatMap String.utf8EncodeChar).Perm (back.flatMap String.utf8EncodeChar) := by
  cases back with
  | nil =>
      have hnil : percentEncode set front ++ code = code := h.trans (List.append_nil code)
      rw [List.append_left_eq_self, percentEncode_eq_nil] at hnil
      rw [hnil]
  | cons c back =>
      obtain ⟨more, hmore⟩ : ∃ more, percentEncode set (c :: back) = '%' :: more :=
        percentEncode_percent (hset c rfl) back
      have hbytes := congrArg percentDecode h
      rw [percentDecode_percentEncode (absurd · hfront), hmore, percentDecode_append, ← hmore,
        ← List.append_nil (percentEncode set (c :: back)),
        percentDecode_percentEncode (absurd · hback), percentDecode, List.append_nil] at hbytes
      rw [← List.perm_append_right_iff (percentDecode code), hbytes]
      exact List.perm_append_comm

/-- No character of ASCII comes from the end of a text to its front by being coded. -/
theorem mem_of_percentEncode {set : Char → Bool} {front back code : List Char}
    (hfront : '%' ∉ front) (hback : '%' ∉ back) (hset : ∀ c ∈ back.head?, set c = true)
    (h : percentEncode set front ++ code = code ++ percentEncode set back) {c : Char}
    (hc : c ∈ back) (hlt : c.toNat < 128) : c ∈ front := by
  have hbyte : UInt8.ofNat c.toNat ∈ String.utf8EncodeChar c := by
    have hle : c.toNat ≤ 127 := Nat.le_of_lt_succ hlt
    simp [String.utf8EncodeChar, hle]
  have hnat : (UInt8.ofNat c.toNat).toNat = c.toNat := by
    rw [UInt8.toNat_ofNat']
    omega
  have hmem := (perm_of_percentEncode hfront hback hset h).mem_iff.mpr
    (List.mem_flatMap.mpr ⟨c, hc, hbyte⟩)
  obtain ⟨d, hd, hsame⟩ := List.mem_flatMap.mp hmem
  have heq := utf8EncodeChar_ascii hsame (by omega)
  obtain rfl : d = c := Char.ext (UInt32.toNat_inj.mp (heq.trans hnat))
  exact hd

end FunctionConsole.Web
