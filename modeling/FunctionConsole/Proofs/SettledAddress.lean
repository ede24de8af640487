import FunctionConsole.Proofs.Address
import FunctionConsole.Proofs.TextEnds
import FunctionConsole.Settings
import Mathlib.Logic.Function.Iterate

/-!
# Settled addresses

An address of a server is trimmed once, and its slashes are dropped once. What is left is not empty,
since an address is assumed then; it does not begin with a blank and does not end in a slash. But a
blank that stood before the slashes is at the end then and stays there, and when the address is
cleaned once more, it is changed again.

Each time this happens the address has become shorter. So an address is settled when it was cleaned
as many times as it has characters, and one more (`cleanUrl_iterate`), and it always settles to the
same: `core` says what is left of it in the end.
-/

namespace FunctionConsole

namespace Settings

open Text (EndsInBlank)

-- ==================================================== what is left

/-- The address that is assumed where none is left. -/
def orAssumed (l : List Char) : String :=
  if l.isEmpty then ({} : ServerSettings).baseUrl else String.ofList l

/-- What is left of an address that is cleaned once. -/
def stripped (l : List Char) : List Char := Text.dropEndWhile (· == '/') (Text.trimChars l)

/-- A character that is at the end of no settled address. -/
def endsNothing (c : Char) : Bool := Text.isBlank c || c == '/'

/-- What is left of an address by and by: no blanks in front, and neither blanks nor slashes at its
end. -/
def core (l : List Char) : List Char := Text.dropEndWhile endsNothing (l.dropWhile Text.isBlank)

variable {url : String} {l : List Char}

/-- Neither a blank in front nor a slash at the end is left, of whatever text. -/
theorem first_of_stripped : ∀ c ∈ (stripped l).head?, Text.isBlank c = false := by
  intro c hc
  have htrimmed : c ∈ (l.dropWhile Text.isBlank).head? :=
    Text.mem_head?_of_dropEndWhile (Text.mem_head?_of_dropEndWhile hc)
  exact Text.first_of_dropWhile c htrimmed

theorem last_of_stripped : ∀ c ∈ (stripped l).getLast?, c ≠ '/' := by
  intro c hc
  simpa using Text.last_of_dropEndWhile c hc

/-- A blank that is left at the end stood before slashes, since a trimmed text has none there. -/
theorem stripped_parts (h : EndsInBlank (stripped l)) :
    ∃ slashes, slashes ≠ [] ∧ (∀ c ∈ slashes, c = '/') ∧
      Text.trimChars l = stripped l ++ slashes := by
  obtain ⟨slashes, hparts, hslashes⟩ := Text.dropEndWhile_parts (· == '/') (Text.trimChars l)
  refine ⟨slashes, ?_, fun c hc => by simpa using hslashes c hc, hparts⟩
  rintro rfl
  rw [List.append_nil] at hparts
  rw [stripped, ← hparts] at h
  exact Text.not_endsInBlank_dropEndWhile _ h

theorem endsInBlank_stripped_iff :
    EndsInBlank (stripped l) ↔ ∃ front slashes, EndsInBlank front ∧ slashes ≠ [] ∧
      (∀ c ∈ slashes, c = '/') ∧ Text.trimChars l = front ++ slashes := by
  constructor
  · intro hblank
    obtain ⟨slashes, hparts⟩ := stripped_parts hblank
    exact ⟨stripped l, slashes, hblank, hparts⟩
  · rintro ⟨front, slashes, ⟨c, hlast, hblank⟩, -, hslashes, hparts⟩
    obtain ⟨before, rfl⟩ := List.getLast?_eq_some_iff.mp hlast
    have hc : (c == '/') = false := by
      rw [beq_eq_false_iff_ne]
      rintro rfl
      cases hblank
    have hkept : Text.dropEndWhile (· == '/') (before ++ c :: slashes) =
        before ++ c :: Text.dropEndWhile (· == '/') slashes := Text.dropEndWhile_append before hc
    have hnone : Text.dropEndWhile (· == '/') slashes = [] := by
      rw [Text.dropEndWhile, List.reverse_eq_nil_iff, List.dropWhile_eq_nil_iff]
      intro d hd
      rw [hslashes d (List.mem_reverse.mp hd)]
      rfl
    rw [stripped, hparts, List.append_assoc, List.singleton_append, hkept, hnone]
    exact ⟨c, List.getLast?_concat, hblank⟩

/-- A blank that is left has at least the slash behind it to lose. -/
theorem length_stripped_lt (h : EndsInBlank (stripped l)) : (stripped l).length < l.length := by
  obtain ⟨slashes, hne, -, hparts⟩ := stripped_parts h
  have hslashes : 0 < slashes.length := List.length_pos_iff.mpr hne
  have htrimmed : (Text.trimChars l).length = (stripped l).length + slashes.length := by
    rw [hparts, List.length_append]
  have hl : (Text.trimChars l).length ≤ l.length :=
    (List.rdropWhile_prefix Text.isBlank _).length_le.trans
      (List.dropWhile_suffix Text.isBlank).length_le
  omega

theorem core_stripped (l : List Char) : core (stripped l) = core l := by
  rw [core, Text.dropWhile_of_first first_of_stripped, stripped, Text.trimChars,
    Text.dropAroundWhile, Text.dropEndWhile_dropEndWhile, Text.dropEndWhile_dropEndWhile, core]
  · intro c hc
    rw [endsNothing, hc, Bool.true_or]
  · intro c hc
    rw [endsNothing, hc, Bool.or_true]

-- ==================================================== clean addresses

/-- An address as it is left when it is cleaned once. -/
structure CleanUrl (url : String) : Prop where
  some : url ≠ ""
  first : ∀ c ∈ url.toList.head?, Text.isBlank c = false
  unslashed : ∀ c ∈ url.toList.getLast?, c ≠ '/'

/-- An address that is left as it is. -/
structure SettledUrl (url : String) : Prop extends CleanUrl url where
  unblank : ¬ EndsInBlank url.toList

theorem cleanUrl_eq (url : String) : cleanUrl url = orAssumed (stripped url.toList) := rfl

theorem toList_orAssumed (h : l ≠ []) : (orAssumed l).toList = l := by
  rw [orAssumed, if_neg (by simpa using h), String.toList_ofList]

theorem orAssumed_toList (h : url ≠ "") : orAssumed url.toList = url := by
  have hne : url.toList ≠ [] := fun hnil => h (String.toList_inj.mp hnil)
  exact String.toList_inj.mp (toList_orAssumed hne)

theorem settled_assumed : SettledUrl (orAssumed []) where
  some := by decide
  first := by
    intro c hc
    obtain rfl : 'h' = c := Option.some.inj hc
    decide
  unslashed := by
    intro c hc
    obtain rfl : '0' = c := Option.some.inj hc
    decide
  unblank := by
    rintro ⟨c, hc, hblank⟩
    obtain rfl : '0' = c := Option.some.inj hc
    cases hblank

theorem clean_orAssumed (hfirst : ∀ c ∈ l.head?, Text.isBlank c = false)
    (hunslashed : ∀ c ∈ l.getLast?, c ≠ '/') : CleanUrl (orAssumed l) := by
  by_cases hnil : l = []
  · rw [hnil]
    exact settled_assumed.toCleanUrl
  · have htoList := toList_orAssumed hnil
    refine ⟨fun hempty => hnil ?_, ?_, ?_⟩
    · rw [← htoList, hempty]
      rfl
    · rw [htoList]
      exact hfirst
    · rw [htoList]
      exact hunslashed

theorem endsInBlank_orAssumed_iff : EndsInBlank (orAssumed l).toList ↔ EndsInBlank l := by
  by_cases hnil : l = []
  · rw [hnil]
    exact iff_of_false settled_assumed.unblank fun hblank => hblank.ne_nil rfl
  · rw [toList_orAssumed hnil]

theorem clean_cleanUrl (url : String) : CleanUrl (cleanUrl url) :=
  clean_orAssumed first_of_stripped last_of_stripped

/-- What is left of an address is settled, unless it ends in a blank. -/
theorem settled_cleanUrl_iff : SettledUrl (cleanUrl url) ↔ ¬ EndsInBlank (cleanUrl url).toList :=
  ⟨fun h => h.unblank, fun h => ⟨clean_cleanUrl url, h⟩⟩

-- ==================================================== settled addresses

/-- The address that cleaning comes to in the end. -/
def settledUrl (url : String) : String := orAssumed (core url.toList)

theorem settled_settledUrl (url : String) : SettledUrl (settledUrl url) := by
  have hlast : ∀ c ∈ (core url.toList).getLast?, endsNothing c = false := Text.last_of_dropEndWhile
  refine ⟨clean_orAssumed ?_ ?_, ?_⟩
  · intro c hc
    exact Text.first_of_dropWhile c (Text.mem_head?_of_dropEndWhile hc)
  · rintro c hc rfl
    exact absurd (hlast _ hc) (by decide)
  · rw [settledUrl, endsInBlank_orAssumed_iff]
    rintro ⟨c, hc, hblank⟩
    have hkept := hlast c hc
    rw [endsNothing, hblank] at hkept
    cases hkept

namespace SettledUrl

theorem unblank_last (h : SettledUrl url) : ∀ c ∈ url.toList.getLast?, Text.isBlank c = false :=
  fun c hc => Bool.eq_false_iff.mpr fun hblank => h.unblank ⟨c, hc, hblank⟩

theorem core_eq (h : SettledUrl url) : core url.toList = url.toList := by
  have hlast : ∀ c ∈ url.toList.getLast?, endsNothing c = false := by
    intro c hc
    rw [endsNothing, h.unblank_last c hc, Bool.false_or]
    exact beq_eq_false_iff_ne.mpr (h.unslashed c hc)
  rw [core, Text.dropWhile_of_first h.first, Text.dropEndWhile_of_last hlast]

theorem stripped_eq (h : SettledUrl url) : stripped url.toList = url.toList := by
  have hlast : ∀ c ∈ url.toList.getLast?, (c == '/') = false :=
    fun c hc => beq_eq_false_iff_ne.mpr (h.unslashed c hc)
  rw [stripped, Text.trimChars, Text.dropAroundWhile_of_ends h.first h.unblank_last,
    Text.dropEndWhile_of_last hlast]

theorem cleanUrl_eq (h : SettledUrl url) : cleanUrl url = url := by
  rw [Settings.cleanUrl_eq, h.stripped_eq, orAssumed_toList h.some]

theorem settledUrl_eq (h : SettledUrl url) : settledUrl url = url := by
  rw [settledUrl, h.core_eq, orAssumed_toList h.some]

end SettledUrl

/-- Cleaning does not change what the address comes to. -/
theorem settledUrl_cleanUrl (url : String) : settledUrl (cleanUrl url) = settledUrl url := by
  by_cases hnil : stripped url.toList = []
  · have hcore : core url.toList = [] := by
      rw [← core_stripped, hnil]
      rfl
    rw [cleanUrl_eq, hnil, settled_assumed.settledUrl_eq, settledUrl, hcore]
  · rw [settledUrl, settledUrl, cleanUrl_eq, toList_orAssumed hnil, core_stripped]

-- ==================================================== cleaning again

/-- An address that is not settled yet has become shorter. -/
theorem length_cleanUrl_lt (h : EndsInBlank (cleanUrl url).toList) :
    (cleanUrl url).length < url.length := by
  have hblank : EndsInBlank (stripped url.toList) := endsInBlank_orAssumed_iff.mp h
  have hlt := length_stripped_lt hblank
  rw [← toList_orAssumed hblank.ne_nil, ← cleanUrl_eq, String.length_toList,
    String.length_toList] at hlt
  exact hlt

theorem settled_of_cleanUrl_eq (h : cleanUrl url = url) : SettledUrl url := by
  have hsettled : SettledUrl (cleanUrl url) := by
    refine settled_cleanUrl_iff.mpr fun hblank => ?_
    have hlt := length_cleanUrl_lt hblank
    rw [h] at hlt
    omega
  rw [h] at hsettled
  exact hsettled

-- the induction is on how often the address is cleaned: each time that it still has to be, it is
-- shorter to begin with
theorem cleanUrl_iterate {n : Nat} (h : url.length < n) : cleanUrl^[n] url = settledUrl url := by
  induction n generalizing url with
  | zero => omega
  | succ n ih =>
      rw [Function.iterate_succ_apply, ← settledUrl_cleanUrl]
      by_cases hblank : EndsInBlank (cleanUrl url).toList
      · have hlt := length_cleanUrl_lt hblank
        exact ih (by omega)
      · have hsettled := settled_cleanUrl_iff.mpr hblank
        rw [Function.iterate_fixed hsettled.cleanUrl_eq, hsettled.settledUrl_eq]

-- ==================================================== blanks between slashes

/-- An address with so many slashes at its end, each behind a blank. -/
def spacedSlashes : Nat → List Char
  | 0 => ['a']
  | n + 1 => spacedSlashes n ++ [' ', '/']

/-- Such an address with one more blank behind it. -/
def spacedUrl (n : Nat) : String := String.ofList (spacedSlashes n ++ [' '])

theorem head?_spacedSlashes (n : Nat) (l : List Char) :
    (spacedSlashes n ++ l).head? = some 'a' := by
  induction n generalizing l with
  | zero => rfl
  | succ n ih => rw [spacedSlashes, List.append_assoc, ih]

/-- Of these addresses one blank is dropped and the slash before it, and the next blank is left. -/
theorem stripped_spacedSlashes (n : Nat) :
    stripped (spacedSlashes (n + 1) ++ [' ']) = spacedSlashes n ++ [' '] := by
  have hparts : spacedSlashes (n + 1) ++ [' '] = (spacedSlashes n ++ [' ']) ++ '/' :: [' '] := by
    rw [spacedSlashes, List.append_assoc, List.append_assoc]
    rfl
  have hfirst : ∀ c ∈ (spacedSlashes (n + 1) ++ [' ']).head?, Text.isBlank c = false := by
    intro c hc
    rw [head?_spacedSlashes] at hc
    obtain rfl : 'a' = c := Option.some.inj hc
    decide
  have hslash : Text.isBlank '/' = false := by decide
  have hkept : Text.dropEndWhile (· == '/') (spacedSlashes n ++ ' ' :: ['/']) =
      spacedSlashes n ++ ' ' :: Text.dropEndWhile (· == '/') ['/'] :=
    Text.dropEndWhile_append _ (by decide)
  rw [stripped, Text.trimChars, Text.dropAroundWhile, Text.dropWhile_of_first hfirst, hparts,
    Text.dropEndWhile_append _ hslash, List.append_assoc]
  exact hkept

theorem cleanUrl_spacedUrl (n : Nat) : cleanUrl (spacedUrl (n + 1)) = spacedUrl n := by
  have hne : spacedSlashes n ++ [' '] ≠ [] := by simp
  rw [cleanUrl_eq, spacedUrl, spacedUrl, String.toList_ofList, stripped_spacedSlashes,
    ← String.toList_inj, toList_orAssumed hne, String.toList_ofList]

theorem iterate_spacedUrl (n : Nat) : cleanUrl^[n] (spacedUrl n) = "a " := by
  induction n with
  | zero => decide
  | succ n ih => rw [Function.iterate_succ_apply, cleanUrl_spacedUrl, ih]

end Settings

end FunctionConsole
