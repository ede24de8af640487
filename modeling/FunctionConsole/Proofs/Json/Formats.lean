import FunctionConsole.Proofs.Json.Brackets

/-!
# Formats that read back what they write

A format recovers a value if it reads the value's text back as the value. Each way to combine
formats keeps this: `recovers_list`, `recovers_convert`, `recovers_record` and the others say what
of the parts makes the whole recover. The text of a value also has to open a document, since a list
looks at the next character to find out whether it goes on, and the text of an optional value must
not be taken for `null`.
-/

namespace FunctionConsole.Json

open Reader

/-- The text that a format writes for a value is read back as the value, whatever follows it. -/
structure Format.Recovers {α : Type} (f : Format α) (a : α) : Prop where
  opens : Opens (write (f.encode a))
  reads : ∀ tail, Ends tail → Reads f.read (write (f.encode a)) a tail

namespace Format

section

variable {α β : Type} {f : Format α} {a : α}

/-- A value that is recovered from any text is recovered from its own. -/
theorem Recovers.decode (h : f.Recovers a) : f.decode (f.text a) = .ok a := by
  obtain ⟨p, hp⟩ := h.reads [] .nothing ⟨1, 0⟩
  rw [List.append_nil] at hp
  rw [Format.decode, Format.text, compact, String.toList_ofList, Reader.run, Cursor.ofSymbols, hp]
  rfl

-- ==================================================== single values

theorem recovers_string (s : String) : string.Recovers s where
  opens := rfl
  reads tail _ := (reads_string s tail).of_peek.beforeValue rfl

theorem head?_string (s : String) : (write (string.encode s)).head? ≠ some 'n' := by
  rintro ⟨⟩

theorem recovers_bool (b : Bool) : bool.Recovers b := by
  cases b with
  | false =>
      have hword (tail : List Symbol) : Reads falseWord ['f', 'a', 'l', 's', 'e'] () tail :=
        (Reads.eat 'f' _).andThen (.word ['a', 'l', 's', 'e'] tail)
      exact ⟨rfl, fun tail _ => ((hword tail).map _).beforeValue rfl⟩
  | true =>
      have hword (tail : List Symbol) : Reads trueWord ['t', 'r', 'u', 'e'] () tail :=
        (Reads.eat 't' _).andThen (.word ['r', 'u', 'e'] tail)
      exact ⟨rfl, fun tail _ => ((hword tail).map _).beforeValue rfl⟩

theorem writeNumber_eq_cons (n : Int) :
    ∃ c rest, writeNumber (.whole n) = c :: rest ∧ (c = '-' ∨ c.isDigit = true) := by
  cases n with
  | ofNat m =>
      obtain ⟨c, digits, hdigits, hc⟩ := isDigit_head_toDigits m
      exact ⟨c, digits, (writeNumber_natCast m).trans hdigits, .inr hc⟩
  | negSucc m => exact ⟨'-', _, writeNumber_negSucc m, .inl rfl⟩

theorem opens_of_isDigit {c : Char} (hc : c.isDigit = true) :
    (opening? (some c)).isSome = true := by
  have hnull : c ≠ 'n' := by rintro rfl; cases hc
  have htrue : c ≠ 't' := by rintro rfl; cases hc
  have hfalse : c ≠ 'f' := by rintro rfl; cases hc
  have hminus : c ≠ '-' := by rintro rfl; cases hc
  simp [opening?, hnull, htrue, hfalse, hminus, hc]

section

variable {lo hi : Int} {expected : String} {toInt : α → Int} {ofInt : Int → α}

/-- A value of a bounded whole number is recovered if its number is within the bounds, and these are
within the words of 64 bits. -/
theorem recovers_bounded (hlo : lo ≤ toInt a) (hhi : toInt a ≤ hi)
    (hword : Int64.minValue.toInt ≤ lo) (hword' : hi < UInt64.size) (hof : ofInt (toInt a) = a) :
    (bounded lo hi expected toInt ofInt).Recovers a := by
  obtain ⟨c, rest, htext, hc⟩ := writeNumber_eq_cons (toInt a)
  have hwrite : write ((bounded lo hi expected toInt ofInt).encode a) = c :: rest := htext
  have hopens : Opens (c :: rest) := by
    rcases hc with rfl | hc
    · rfl
    · exact opens_of_isDigit hc
  rw [← hwrite] at hopens
  refine ⟨hopens, fun tail htail => Reads.beforeValue hopens ?_⟩
  have hnumber := reads_signedNumber htail (Int.le_trans hword hlo) (Int.lt_of_le_of_lt hhi hword')
  have hwhole : whole? lo hi expected (.whole (toInt a)) = .ok (toInt a) := by
    simp [whole?, hlo, hhi]
  -- the number is read, made a value of the type, and chosen by its first character
  refine Reads.of_eq (hnumber.andThen_nil ?_) fun p => if_pos ?_
  · rw [hwhole]
    dsimp only
    rw [hof]
    exact .give a tail
  · rw [hwrite]
    rcases hc with rfl | hc
    · rfl
    · simp [digit?, Cursor.peek, hc]

theorem head?_bounded (a : α) :
    (write ((bounded lo hi expected toInt ofInt).encode a)).head? ≠ some 'n' := by
  obtain ⟨c, rest, htext, hc⟩ := writeNumber_eq_cons (toInt a)
  rw [show write ((bounded lo hi expected toInt ofInt).encode a) = c :: rest from htext]
  rintro ⟨⟩
  rcases hc with hc | hc <;> cases hc

end

theorem recovers_u32 (n : UInt32) : u32.Recovers n := by
  have hn : n.toNat < UInt32.size := n.toNat_lt_size
  refine recovers_bounded ?_ ?_ (by decide) (by decide) ?_
  · exact Int.natCast_nonneg _
  · exact Int.ofNat_le.mpr (Nat.le_pred_of_lt hn)
  · rw [Int.toNat_natCast, UInt32.ofNat_toNat]

theorem recovers_u64 (n : UInt64) : u64.Recovers n := by
  have hn : n.toNat < UInt64.size := n.toNat_lt_size
  refine recovers_bounded ?_ ?_ (by decide) (by decide) ?_
  · exact Int.natCast_nonneg _
  · exact Int.ofNat_le.mpr (Nat.le_pred_of_lt hn)
  · rw [Int.toNat_natCast, UInt64.ofNat_toNat]

theorem recovers_i64 (n : Int64) : i64.Recovers n := by
  refine recovers_bounded ?_ ?_ (by decide) (by decide) ?_
  · exact Int64.minValue_le_toInt n
  · exact Int64.toInt_le n
  · exact Int64.ofInt_toInt n

-- ==================================================== optional values

theorem recovers_none (f : Format α) : f.option.Recovers none := by
  have hword (tail : List Symbol) : Reads nullWord ['n', 'u', 'l', 'l'] () tail :=
    (Reads.eat 'n' _).andThen (.word ['u', 'l', 'l'] tail)
  refine ⟨rfl, fun tail _ => ?_⟩
  exact (hword tail).map fun _ => none

/-- A value that is there is recovered if its text is not taken for `null`. -/
theorem recovers_some (h : f.Recovers a) (hnull : (write (f.encode a)).head? ≠ some 'n') :
    f.option.Recovers (some a) := by
  refine ⟨h.opens, fun tail htail => ?_⟩
  refine ((h.reads tail htail).map some).of_eq fun p => ?_
  show f.option.read ⟨(write (f.encode a)).map some ++ tail, p⟩ = _
  obtain ⟨c, rest, htext, hc⟩ := h.opens.cons
  have hfirst : c ≠ 'n' := by
    rintro rfl
    exact hnull (by rw [htext]; rfl)
  rw [htext, option, List.map_cons, List.cons_append]
  dsimp only
  rw [skipBlanks_of_opens hc]
  exact if_neg (by simp [Cursor.peek, hfirst])

/-- Optional values are recovered if no value is taken for `null`. -/
theorem recovers_option (h : ∀ a, f.Recovers a)
    (hnull : ∀ a, (write (f.encode a)).head? ≠ some 'n') (o : Option α) : f.option.Recovers o := by
  cases o with
  | none => exact recovers_none f
  | some a => exact recovers_some (h a) (hnull a)

/-- A value that `null` would stand for the default of is written out. -/
theorem recovers_orNull (h : f.option.Recovers (some a)) (dflt : α) :
    (Format.orNull dflt f).Recovers a :=
  ⟨h.opens, fun tail htail => (h.reads tail htail).map fun o : Option α => o.getD dflt⟩

-- ==================================================== lists, maps and other types

theorem recovers_list {l : List α} (h : ∀ a ∈ l, f.Recovers a) : f.list.Recovers l := by
  have htext : write (f.list.encode l) = '[' :: allItems (fun a => write (f.encode a)) ']' l := by
    rw [← allItems_map write f.encode]
    exact write_array (l.map f.encode)
  refine ⟨rfl, fun tail _ => ?_⟩
  rw [htext]
  refine Reads.beforeValue rfl (Reads.of_peek ?_)
  exact reads_list (fun a ha => (h a ha).opens) (fun a ha => (h a ha).reads) tail

/-- A value of another type with the same documents. -/
theorem recovers_convert {forth : α → β} {back : β → α} {b : β} (h : f.Recovers (back b))
    (hb : forth (back b) = b) : (f.convert forth back).Recovers b := by
  refine ⟨h.opens, fun tail htail => ?_⟩
  have hread := (h.reads tail htail).map forth
  rwa [hb] at hread

-- ==================================================== maps

/-- A key above all the others is put behind them. -/
theorem putField_of_lt {key : String} {l : List (String × α)} (h : ∀ e ∈ l, e.1 < key) (a : α) :
    putField key a l = l ++ [(key, a)] := by
  induction l with
  | nil => rfl
  | cons e l ih =>
      obtain ⟨k, v⟩ := e
      have hk : k < key := h (k, v) List.mem_cons_self
      have hne : key ≠ k := fun heq => String.lt_irrefl k (heq ▸ hk)
      have hnlt : ¬ key < k := fun hlt => String.lt_irrefl k (String.lt_trans hk hlt)
      rw [putField, if_neg hne, if_neg hnlt, ih fun e he => h e (List.mem_cons_of_mem _ he)]
      rfl

/-- Entries with ascending keys are gathered in their order. -/
theorem gathers_entries {l : List (String × α)} (before : List (String × α))
    (hl : (before ++ l).Pairwise fun a b => a.1 < b.1) (h : ∀ e ∈ l, f.Recovers e.2) :
    Gathers (fun key l => colon.andThen fun _ => f.read.map fun a => putField key a l) before
      (l.map fun e => (e.1, f.encode e.2)) (before ++ l) := by
  -- the keys gathered before stay below those that are left, so that each entry is put last
  induction l generalizing before with
  | nil =>
      rw [List.append_nil]
      exact .nil before
  | cons e l ih =>
      have hlast : ∀ b ∈ before, b.1 < e.1 := fun b hb =>
        (List.pairwise_append.mp hl).2.2 b hb e List.mem_cons_self
      have happend : before ++ e :: l = (before ++ [e]) ++ l := by simp
      rw [happend] at hl ⊢
      refine .cons (before ++ [e]) (fun tail htail => ?_)
        (ih _ hl fun b hb => h b (List.mem_cons_of_mem e hb))
      rw [← putField_of_lt hlast e.2]
      exact (reads_colon _).andThen (((h e List.mem_cons_self).reads tail htail).map _)

/-- A map is recovered if its values are. -/
theorem recovers_entries {l : List (String × α)} (hl : l.Pairwise fun a b => a.1 < b.1)
    (h : ∀ e ∈ l, f.Recovers e.2) : (entries f).Recovers l := by
  refine ⟨rfl, fun tail _ => Reads.beforeValue rfl (Reads.of_peek ?_)⟩
  exact reads_object (gathers_entries [] hl h) (.give l tail)

-- ==================================================== enumerations

/-- A value of an enumeration is recovered if it is what its name stands for. -/
theorem recovers_enumeration {names : Names α} (h : names.find (names.nameOf a) = .ok a) :
    (enumeration names).Recovers a := by
  refine ⟨rfl, fun tail _ => Reads.beforeValue rfl ?_⟩
  have hname : Reads names.read (writeString (names.nameOf a)) a tail := by
    refine (reads_string (names.nameOf a) tail).andThen_nil ?_
    rw [h]
    exact .give a tail
  exact hname.of_eq fun p => rfl

end

end Format

-- ==================================================== records

/-- What is made of a value that is read after another is made of it at once. -/
theorem map_andThen {α β γ : Type} (r : Reader α) (f : α → Reader β) (g : β → γ) :
    (r.andThen f).map g = r.andThen fun a => (f a).map g := by
  funext c
  unfold Reader.map Reader.andThen
  cases r c <;> rfl

namespace Fields

/-- The keys of a record, in the order of their declaration. -/
def names {ρ : Type} : Fields ρ → List String
  | .nil => []
  | .cons f rest => f.name :: rest.names

/-- Every field of a record is recovered. -/
def Recovers {ρ : Type} : Fields ρ → ρ → Prop
  | .nil, _ => True
  | .cons f rest, r => f.format.Recovers r.1 ∧ rest.Recovers r.2

/-- A value has been read for every field. -/
def allSlots {ρ : Type} : (fs : Fields ρ) → ρ → fs.Slots
  | .nil, _ => ()
  | .cons _ rest, r => (some r.1, rest.allSlots r.2)

/-- How the value of a key is read into the slots of a record. -/
def step {ρ : Type} (fs : Fields ρ) (key : String) (s : fs.Slots) : Reader fs.Slots :=
  match fs.isSet? key s with
  | some true => Format.afterKey (.duplicateField key)
  | some false => colon.andThen fun _ => fs.readField key s
  | none => colon.andThen fun _ => skip.map fun _ => s

variable {α ρ : Type}

theorem finish_allSlots (fs : Fields ρ) (r : ρ) : fs.finish (fs.allSlots r) = .ok r := by
  induction fs with
  | nil => rfl
  | cons f rest ih =>
      show (rest.finish (rest.allSlots r.2)).map (fun t => (r.1, t)) = _
      rw [ih r.2]
      rfl

theorem names_encode (fs : Fields ρ) (r : ρ) : (fs.encode r).map (·.1) = fs.names := by
  induction fs with
  | nil => rfl
  | cons f rest ih => rw [encode, names, List.map_cons, ih r.2]

/-- The key of the first field fills the first slot. -/
theorem reads_step_head {f : Field α} {rest : Fields ρ} {a : α} (h : f.format.Recovers a)
    (s : rest.Slots) {tail : List Symbol} (htail : Ends tail) :
    Reads ((Fields.cons f rest).step f.name (none, s)) (':' :: write (f.format.encode a))
      (some a, s) tail := by
  have hset : (Fields.cons f rest).isSet? f.name (none, s) = some false := if_pos rfl
  have hfield : (Fields.cons f rest).readField f.name (none, s) =
      f.format.read.map fun a => (some a, s) := if_pos rfl
  unfold step
  rw [hset, hfield]
  exact (reads_colon _).andThen ((h.reads tail htail).map _)

/-- Any other key fills one of the other slots. -/
theorem step_tail {f : Field α} {rest : Fields ρ} {key : String} (hkey : key ≠ f.name)
    (o : Option α) (s : rest.Slots) :
    (Fields.cons f rest).step key (o, s) = (rest.step key s).map fun t => (o, t) := by
  have hset : (Fields.cons f rest).isSet? key (o, s) = rest.isSet? key s := if_neg hkey
  have hfield : (Fields.cons f rest).readField key (o, s) =
      (rest.readField key s).map fun t => (o, t) := if_neg hkey
  unfold step
  rw [hset, hfield]
  -- the key may belong to no field, to one that is there already, or to one still missing
  cases rest.isSet? key s with
  | none =>
      have hskip : (skip.map fun _ => s).map (fun t => (o, t)) = skip.map fun _ => (o, s) :=
        map_andThen skip _ _
      rw [map_andThen, hskip]
      rfl
  | some b =>
      cases b with
      | true => rfl
      | false => exact (map_andThen colon _ _).symm

/-- What the other fields gather leaves the first slot alone. -/
theorem gathers_tail {f : Field α} {rest : Fields ρ} {fields : List (String × Json)}
    {s s' : rest.Slots} (h : Gathers rest.step s fields s') (o : Option α)
    (hname : f.name ∉ fields.map (·.1)) :
    Gathers (Fields.cons f rest).step (o, s) fields (o, s') := by
  induction h with
  | nil s => exact .nil (o, s)
  | @cons s s'' s' key v fields hfield hrest ih =>
      rw [List.map_cons, List.mem_cons, not_or] at hname
      refine .cons (o, s') (fun tail htail => ?_) (ih hname.2)
      rw [step_tail (Ne.symm hname.1)]
      exact (hfield tail htail).map _

/-- The fields that a record is written as fill all of its slots. -/
theorem gathers_encode {fs : Fields ρ} {r : ρ} (h : fs.Recovers r) (hnames : fs.names.Nodup) :
    Gathers fs.step fs.noSlots (fs.encode r) (fs.allSlots r) := by
  induction fs with
  | nil => exact .nil ()
  | cons f rest ih =>
      rw [names, List.nodup_cons] at hnames
      refine .cons _ (fun tail htail => reads_step_head h.1 rest.noSlots htail) ?_
      refine gathers_tail (ih h.2 hnames.2) (some r.1) ?_
      rw [names_encode]
      exact hnames.1

end Fields

/-- A record whose keys are distinct is recovered if its fields are. -/
theorem Format.recovers_record {ρ : Type} (name : String) {fs : Fields ρ} {r : ρ}
    (h : fs.Recovers r) (hnames : fs.names.Nodup) : (Format.record name fs).Recovers r := by
  refine ⟨rfl, fun tail _ => Reads.beforeValue rfl (Reads.of_peek ?_)⟩
  refine reads_object (Fields.gathers_encode h hnames) ?_
  rw [Fields.finish_allSlots]
  exact .give r tail

end FunctionConsole.Json
