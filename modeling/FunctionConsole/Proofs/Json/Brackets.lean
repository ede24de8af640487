import FunctionConsole.Proofs.Json.Written

/-!
# Reading back lists and objects

A list or an object is read item by item up to its closing bracket. If every item that was written
is read back, so is the whole: `reads_list` and `reads_object`. What is made of the fields of an
object is up to the step that reads them; `Gathers` says where it gets by reading given fields, one
after another, and is what a record or a map has to show.
-/

namespace FunctionConsole.Json

open Reader

-- ==================================================== the texts between the brackets

section

variable {α β : Type} {text : α → List Char} {close : Char} {l : List α}

/-- What stands after the first item: the others, each after a comma, and the closing bracket. -/
def laterItems (text : α → List Char) (close : Char) (l : List α) : List Char :=
  l.flatMap (fun a => ',' :: text a) ++ [close]

/-- What stands after the opening bracket. -/
def allItems (text : α → List Char) (close : Char) : List α → List Char
  | [] => [close]
  | a :: l => text a ++ laterItems text close l

theorem laterItems_cons (text : α → List Char) (close : Char) (a : α) (l : List α) :
    laterItems text close (a :: l) = [','] ++ (text a ++ laterItems text close l) := by
  rw [laterItems, List.flatMap_cons, List.append_assoc]
  rfl

theorem allItems_map (text : β → List Char) (f : α → β) (close : Char) (l : List α) :
    allItems text close (l.map f) = allItems (fun a => text (f a)) close l := by
  cases l with
  | nil => rfl
  | cons a l => rw [List.map_cons, allItems, allItems, laterItems, laterItems, List.flatMap_map]

theorem ends_laterItems (text : α → List Char) {tail : List Symbol}
    (hclose : Ends (some close :: tail)) (l : List α) :
    Ends ((laterItems text close l).map some ++ tail) := by
  cases l with
  | nil => exact hclose
  | cons a l => exact .comma _

/-- There are more characters than items, so that reading a character an item is fuel enough. -/
theorem length_lt_allItems (close : Char) (h : ∀ a ∈ l, text a ≠ []) :
    l.length < (allItems text close l).length := by
  cases l with
  | nil => exact Nat.zero_lt_one
  | cons a l =>
      have ha := List.length_pos_iff.mpr (h a List.mem_cons_self)
      have hl : l.length ≤ (l.flatMap fun a => ',' :: text a).length :=
        length_le_flatMap fun b _ => List.cons_ne_nil _ _
      rw [allItems, laterItems, List.length_append, List.length_append, List.length_cons,
        List.length_singleton]
      omega

end

/-- The text of a field. -/
def writeField (field : String × Json) : List Char := writeString field.1 ++ ':' :: write field.2

theorem writeField_ne_nil (field : String × Json) : writeField field ≠ [] :=
  List.cons_ne_nil _ _

theorem writeItems_append (items : List Json) :
    writeItems items ++ [']'] = allItems write ']' items := by
  cases items with
  | nil => rfl
  | cons v items =>
      -- what follows an item depends on whether there is another one, so the first stands apart
      induction items generalizing v with
      | nil => rfl
      | cons w items ih =>
          rw [allItems, laterItems_cons, writeItems, List.append_assoc]
          exact congrArg (write v ++ ',' :: ·) (ih w)

theorem writeFields_append (fields : List (String × Json)) :
    writeFields fields ++ ['\x7d'] = allItems writeField '\x7d' fields := by
  cases fields with
  | nil => rfl
  | cons f fields =>
      induction fields generalizing f with
      | nil => rfl
      | cons g fields ih =>
          rw [allItems, laterItems_cons, writeFields, List.append_assoc]
          exact congrArg (writeField f ++ ',' :: ·) (ih g)

theorem write_array (items : List Json) :
    write (.array items) = '[' :: allItems write ']' items := by
  rw [write, List.cons_append, writeItems_append]

theorem write_object (fields : List (String × Json)) :
    write (.object fields) = '\x7b' :: allItems writeField '\x7d' fields := by
  rw [write, List.cons_append, writeFields_append]

-- ==================================================== lists

section

variable {α : Type} {item : Reader α} {l : List α} {tail : List Symbol}

theorem reads_listNext_close (first : Bool) (tail : List Symbol) :
    Reads (listNext first) [] .close ([']'].map some ++ tail) := by
  intro p
  cases first <;> exact ⟨p, rfl⟩

theorem reads_listNext_first {text : List Char} (h : Opens text) (tail : List Symbol) :
    Reads (listNext true) [] .item (text.map some ++ tail) := by
  intro p
  obtain ⟨c, rest, rfl, hc⟩ := h.cons
  have hbracket := ne_of_opens hc (d := ']') (by decide)
  refine ⟨p, ?_⟩
  simp [listNext, skipBlanks_of_opens hc, Cursor.atEnd, Cursor.peek, hbracket]

theorem reads_listNext_comma {text : List Char} (h : Opens text) (tail : List Symbol) :
    Reads (listNext false) [','] .item (text.map some ++ tail) := by
  intro p
  obtain ⟨c, rest, rfl, hc⟩ := h.cons
  have hbracket := ne_of_opens hc (d := ']') (by decide)
  have hcomma : Cursor.skipBlanks ⟨some ',' :: some c :: (rest.map some ++ tail), p⟩ =
      ⟨some ',' :: some c :: (rest.map some ++ tail), p⟩ := rfl
  refine ⟨p.after (some ','), ?_⟩
  simp [listNext, hcomma, skipBlanks_of_opens hc, Cursor.advance, Cursor.atEnd, Cursor.peek,
    hbracket]

/-- A list goes on with its end, or with one more item. -/
theorem listGo_succ (item : Reader α) (n : Nat) (first : Bool) :
    list.go item (n + 1) first = (listNext first).andThen fun next =>
      match next with
      | .close => eat.map fun _ => []
      | .item => item.andThen fun a => (list.go item n false).map (a :: ·) := by
  funext c
  rw [list.go, Reader.andThen]
  dsimp only
  cases listNext first c with
  | error e => rfl
  | ok p =>
      obtain ⟨next, c'⟩ := p
      cases next <;> rfl

theorem reads_listGo_close (item : Reader α) (n : Nat) (first : Bool) (tail : List Symbol) :
    Reads (list.go item (n + 1) first) [']'] [] tail := by
  rw [listGo_succ]
  exact (reads_listNext_close first tail).andThen ((Reads.eat ']' tail).map _)

/-- One more item, after the comma if there has to be one. -/
theorem reads_listGo_item {n : Nat} {first : Bool} {comma text text' : List Char} {a : α}
    (hnext : Reads (listNext first) comma .item ((text ++ text').map some ++ tail))
    (ha : Reads item text a (text'.map some ++ tail))
    (hl : Reads (list.go item n false) text' l tail) :
    Reads (list.go item (n + 1) first) (comma ++ (text ++ text')) (a :: l) tail := by
  rw [listGo_succ]
  exact hnext.andThen (ha.andThen (hl.map (a :: ·)))

section

variable {text : α → List Char} (hopens : ∀ a ∈ l, Opens (text a))
  (hreads : ∀ a ∈ l, ∀ tail, Ends tail → Reads item (text a) a tail)

include hopens hreads

/-- The items of a list after the first are read up to its bracket. -/
theorem reads_laterItems (tail : List Symbol) {n : Nat} (hn : l.length < n) :
    Reads (list.go item n false) (laterItems text ']' l) l tail := by
  -- each item takes one unit of fuel, and the closing bracket the last
  induction l generalizing n with
  | nil =>
      obtain ⟨m, rfl⟩ := Nat.exists_eq_succ_of_ne_zero (Nat.ne_of_gt hn)
      exact reads_listGo_close item m false tail
  | cons a l ih =>
      obtain ⟨m, rfl⟩ := Nat.exists_eq_succ_of_ne_zero (Nat.ne_of_gt (Nat.zero_lt_of_lt hn))
      have hl := ih (fun b hb => hopens b (List.mem_cons_of_mem a hb))
        (fun b hb => hreads b (List.mem_cons_of_mem a hb)) (Nat.lt_of_succ_lt_succ hn)
      have ha := hreads a List.mem_cons_self _ (ends_laterItems text (.list tail) l)
      have hopen := (hopens a List.mem_cons_self).append (laterItems text ']' l)
      rw [laterItems_cons]
      exact reads_listGo_item (reads_listNext_comma hopen tail) ha hl

theorem reads_allItems (tail : List Symbol) {n : Nat} (hn : l.length < n) :
    Reads (list.go item n true) (allItems text ']' l) l tail := by
  obtain ⟨m, rfl⟩ := Nat.exists_eq_succ_of_ne_zero (Nat.ne_of_gt (Nat.zero_lt_of_lt hn))
  cases l with
  | nil => exact reads_listGo_close item m true tail
  | cons a l =>
      have hl := reads_laterItems (fun b hb => hopens b (List.mem_cons_of_mem a hb))
        (fun b hb => hreads b (List.mem_cons_of_mem a hb)) tail (Nat.lt_of_succ_lt_succ hn)
      have ha := hreads a List.mem_cons_self _ (ends_laterItems text (.list tail) l)
      have hopen := (hopens a List.mem_cons_self).append (laterItems text ']' l)
      have hall := reads_listGo_item (reads_listNext_first hopen tail) ha hl
      exact hall

/-- A list whose items are read back is read back. -/
theorem reads_list (tail : List Symbol) :
    Reads (Reader.list item) ('[' :: allItems text ']' l) l tail := by
  have hlength := length_lt_allItems ']' fun a ha => (hopens a ha).ne_nil
  have hfuel : l.length < ('[' :: allItems text ']' l).length + tail.length + 1 := by
    rw [List.length_cons]
    omega
  have hitems := reads_allItems hopens hreads tail hfuel
  intro p
  obtain ⟨p', hp'⟩ := hitems (p.after (some '['))
  refine ⟨p', ?_⟩
  rw [Reader.list, List.length_append, List.length_map]
  exact hp'

end

end

-- ==================================================== objects

/-- By reading these fields in this order, the step gets from what has been gathered first to what
has been gathered last. -/
inductive Gathers {σ : Type} (step : String → σ → Reader σ) :
    σ → List (String × Json) → σ → Prop
  | nil (s : σ) : Gathers step s [] s
  | cons {s s'' : σ} (s' : σ) {key : String} {v : Json} {fields : List (String × Json)}
      (hfield : ∀ tail, Ends tail → Reads (step key s) (':' :: write v) s' tail)
      (hrest : Gathers step s' fields s'') : Gathers step s ((key, v) :: fields) s''

theorem reads_colon (tail : List Symbol) : Reads colon [':'] () tail :=
  fun _ => ⟨_, rfl⟩

section

variable {σ α : Type} {step : String → σ → Reader σ} {finish : σ → Reader α} {s s' : σ}
  {a : α} {fields : List (String × Json)} {text : List Char} {tail : List Symbol}

theorem reads_fieldNext_close (first : Bool) (tail : List Symbol) :
    Reads (fieldNext first) [] .close (['\x7d'].map some ++ tail) := by
  intro p
  cases first <;> exact ⟨p, rfl⟩

theorem reads_fieldNext_first (tail : List Symbol) :
    Reads (fieldNext true) [] .item (some '"' :: tail) :=
  fun p => ⟨p, rfl⟩

theorem reads_fieldNext_comma (tail : List Symbol) :
    Reads (fieldNext false) [','] .item (some '"' :: tail) :=
  fun _ => ⟨_, rfl⟩

/-- An object goes on with its end, or with one more field. -/
theorem objectGo_succ (step : String → σ → Reader σ) (finish : σ → Reader α) (n : Nat)
    (first : Bool) (s : σ) :
    object.go step finish (n + 1) first s = (fieldNext first).andThen fun next =>
      match next with
      | .close => eat.andThen fun _ => finish s
      | .item =>
        Reader.string.andThen fun key => (step key s).andThen (object.go step finish n false) := by
  funext c
  rw [object.go, Reader.andThen]
  dsimp only
  cases fieldNext first c with
  | error e => rfl
  | ok p =>
      obtain ⟨next, c'⟩ := p
      cases next <;> rfl

/-- The closing bracket ends an object, which is then made of what has been gathered. -/
theorem reads_objectGo_close (hfinish : Reads (finish s) [] a tail) (n : Nat) (first : Bool) :
    Reads (object.go step finish (n + 1) first s) ['\x7d'] a tail := by
  rw [objectGo_succ]
  exact (reads_fieldNext_close first tail).andThen ((Reads.eat '\x7d' tail).andThen_nil hfinish)

/-- One more field, after the comma if there has to be one. -/
theorem reads_objectGo_field {n : Nat} {first : Bool} {comma : List Char} {key : String} {v : Json}
    (hnext : Reads (fieldNext first) comma .item ((writeField (key, v) ++ text).map some ++ tail))
    (hfield : Reads (step key s) (':' :: write v) s' (text.map some ++ tail))
    (hrest : Reads (object.go step finish n false s') text a tail) :
    Reads (object.go step finish (n + 1) first s) (comma ++ (writeField (key, v) ++ text)) a
      tail := by
  rw [objectGo_succ]
  refine hnext.andThen ?_
  rw [writeField, List.append_assoc]
  exact (reads_string key _).andThen (hfield.andThen hrest)

/-- The fields of an object after the first are read up to its bracket. -/
theorem reads_laterFields {last : σ} (hgathers : Gathers step s fields last)
    (hfinish : Reads (finish last) [] a tail) {n : Nat} (hn : fields.length < n) :
    Reads (object.go step finish n false s) (laterItems writeField '\x7d' fields) a tail := by
  -- the induction is on what the fields gather, since the step may do anything with a field
  induction hgathers generalizing n with
  | nil s =>
      obtain ⟨m, rfl⟩ := Nat.exists_eq_succ_of_ne_zero (Nat.ne_of_gt hn)
      exact reads_objectGo_close hfinish m false
  | @cons s s'' s' key v fields hfield hrest ih =>
      obtain ⟨m, rfl⟩ := Nat.exists_eq_succ_of_ne_zero (Nat.ne_of_gt (Nat.zero_lt_of_lt hn))
      have hlater := ih hfinish (Nat.lt_of_succ_lt_succ hn)
      have hvalue := hfield _ (ends_laterItems writeField (.object tail) fields)
      rw [laterItems_cons]
      exact reads_objectGo_field (reads_fieldNext_comma _) hvalue hlater

theorem reads_allFields {last : σ} (hgathers : Gathers step s fields last)
    (hfinish : Reads (finish last) [] a tail) {n : Nat} (hn : fields.length < n) :
    Reads (object.go step finish n true s) (allItems writeField '\x7d' fields) a tail := by
  obtain ⟨m, rfl⟩ := Nat.exists_eq_succ_of_ne_zero (Nat.ne_of_gt (Nat.zero_lt_of_lt hn))
  cases hgathers with
  | nil => exact reads_objectGo_close hfinish m true
  | @cons _ _ s' key v fields hfield hrest =>
      have hlater := reads_laterFields hrest hfinish (Nat.lt_of_succ_lt_succ hn)
      have hvalue := hfield _ (ends_laterItems writeField (.object tail) fields)
      exact reads_objectGo_field (reads_fieldNext_first _) hvalue hlater

/-- An object whose fields can be gathered is read back as what is made of them. -/
theorem reads_object {start last : σ} (hgathers : Gathers step start fields last)
    (hfinish : Reads (finish last) [] a tail) :
    Reads (Reader.object start step finish) (write (.object fields)) a tail := by
  have hlength : fields.length < (allItems writeField '\x7d' fields).length :=
    length_lt_allItems '\x7d' fun f _ => writeField_ne_nil f
  have hfuel : fields.length <
      ('\x7b' :: allItems writeField '\x7d' fields).length + tail.length + 1 := by
    rw [List.length_cons]
    omega
  have hfields := reads_allFields hgathers hfinish hfuel
  rw [write_object]
  intro p
  obtain ⟨p', hp'⟩ := hfields (p.after (some '\x7b'))
  refine ⟨p', ?_⟩
  rw [Reader.object, List.length_append, List.length_map]
  exact hp'

end

end FunctionConsole.Json
