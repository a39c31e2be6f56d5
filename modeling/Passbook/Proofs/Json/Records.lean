import Mathlib.Data.List.Nodup
import Passbook.Proofs.Json.Cells
import Passbook.Proofs.Json.Skipping

/-! # Reading records

A record is read from the list of its cells (`record_of_list`) or from an object. The members of an
object are read one by one (`members_of_listed`): one that has the name of a column fills the slot of
the column, unless another has filled it before, and any other is passed over. What all members together
come to (`outcome`) does not depend on their order, on the members that are passed over or on the blanks
between them (`record_of_members`). In particular a record is read back as it is written
(`record_takes`). -/

namespace Passbook.Json

open Text Reader

variable {columns : List Column} {cells : List Cell} {text rest : List Char}

/-! ## Items between brackets -/

section

variable {α : Type} {Writes : α → List Char → Prop} {items : List α} {item : α}

/-- The items, each written in one of the ways that it may be, with commas between them, with blanks
wherever they may stand, and with a comma before them if they are not the first. -/
inductive Listed (Writes : α → List Char → Prop) : (first : Bool) → List α → List Char → Prop
  | nil {first : Bool} {blanks : List Char} : Blank blanks → Listed Writes first [] blanks
  | first {blanks text rest : List Char} {item : α} {items : List α} : Blank blanks →
      Writes item text → Listed Writes false items rest →
      Listed Writes true (item :: items) (blanks ++ (text ++ rest))
  | later {blanks blanks' text rest : List Char} {item : α} {items : List α} : Blank blanks →
      Blank blanks' → Writes item text → Listed Writes false items rest →
      Listed Writes false (item :: items) (blanks ++ ',' :: (blanks' ++ (text ++ rest)))

theorem Listed.comma (h : Listed Writes true (item :: items) text) :
    Listed Writes false (item :: items) (',' :: text) := by
  cases h with
  | first hblanks hitem hitems => exact .later blank_nil hblanks hitem hitems

/-- What follows an item does not continue a numeral, if the bracket at the end does not. -/
theorem Listed.endsNumeral (h : Listed Writes false items text) (hrest : EndsNumeral rest) :
    EndsNumeral (text ++ rest) := by
  cases h with
  | nil hblanks => exact hblanks.endsNumeral hrest
  | later hblanks =>
    rw [List.append_assoc]
    exact hblanks.endsNumeral (endsNumeral_cons (by decide))

theorem Listed.length_le {first : Bool} (h : Listed Writes first items text)
    (hne : ∀ item text, Writes item text → text ≠ []) : items.length ≤ text.length := by
  induction h with
  | nil => exact Nat.zero_le _
  | first _ hitem _ ih | later _ _ hitem _ ih =>
    have hpos := List.length_pos_iff.mpr (hne _ _ hitem)
    simp only [List.length_append, List.length_cons]
    omega

theorem Listed.map {β : Type} {Writes : β → List Char → Prop} {f : α → β} {first : Bool}
    (h : Listed (fun item => Writes (f item)) first items text) :
    Listed Writes first (items.map f) text := by
  induction h with
  | nil hblanks => exact .nil hblanks
  | first hblanks hitem _ ih => exact .first hblanks hitem ih
  | later hblanks hblanks' hitem _ ih => exact .later hblanks hblanks' hitem ih

/-- Items with single commas between them. -/
theorem listed_intercalate {written : α → String} :
    ∀ items : List α, (∀ item ∈ items, Writes item (written item).toList) →
      Listed Writes true items (",".intercalate (items.map written)).toList
  | [], _ => .nil blank_nil
  | [item], h => by
    have hitem := h item List.mem_cons_self
    have hend : Listed Writes false [] [] := .nil blank_nil
    simpa using Listed.first blank_nil hitem hend
  | item :: next :: items, h => by
    obtain ⟨hitem, hitems⟩ := List.forall_mem_cons.mp h
    have hlisted := Listed.first blank_nil hitem (listed_intercalate (next :: items) hitems).comma
    simpa [String.toList_intercalate, List.intercalate_cons_cons] using hlisted

end

/-! ## Lists -/

namespace Reader

theorem startElement_first {blanks : List Char} {c : Char} (hblanks : Blank blanks)
    (hspace : isSpace c = false) (hclosing : c ≠ ']') (rest : List Char) :
    startElement true (blanks ++ c :: rest) = .ok ((), c :: rest) := by
  rw [startElement, bind_of_ok (peek_blanks hblanks hspace rest), if_neg hclosing]
  rfl

theorem startElement_later {blanks blanks' : List Char} {c : Char} (hblanks : Blank blanks)
    (hblanks' : Blank blanks') (hspace : isSpace c = false) (hclosing : c ≠ ']') (rest : List Char) :
    startElement false (blanks ++ ',' :: (blanks' ++ c :: rest)) = .ok ((), c :: rest) := by
  have hadvance : ∀ text : List Char, advance (',' :: text) = .ok ((), text) := fun _ => rfl
  rw [startElement, bind_of_ok (peek_blanks hblanks rfl _), if_neg (by decide), if_neg (by decide),
    if_pos rfl, bind_of_ok (hadvance _), bind_of_ok (peek_blanks hblanks' hspace rest),
    if_neg hclosing]
  rfl

end Reader

/-- A cell is read where an element starts, and then those after it. -/
theorem elements_cons {first : Bool} {column : Column} {cell : Cell} {value later : List Char}
    (hcell : cell.WrittenAs value) (htype : cell.type = column.type) (hends : EndsNumeral later)
    (hstart : startElement first text = .ok ((), value ++ later))
    (hlater : elements false columns later = .ok (cells, rest)) :
    elements first (column :: columns) text = .ok (cell :: cells, rest) := by
  have hvalue := hcell.read_takes later hends
  rw [htype] at hvalue
  rw [elements, bind_of_ok hstart, bind_of_ok hvalue, bind_of_ok hlater]
  rfl

/-- The cells of a list are read in the order of the columns. -/
theorem elements_of_listed {first : Bool} (h : Listed Cell.WrittenAs first cells text)
    (htypes : cells.map Cell.type = columns.map (·.type)) (rest : List Char) :
    elements first columns (text ++ ']' :: rest) = .ok (cells, rest) := by
  induction h generalizing columns with
  | nil hblanks =>
    obtain rfl : columns = [] := List.map_eq_nil_iff.mp htypes.symm
    rw [elements, bind_of_ok (expect_blanks hblanks rfl rest)]
    rfl
  | first hblanks hcell hcells ih =>
    obtain ⟨column, columns, rfl, htype, htypes⟩ := List.map_eq_cons_iff.mp htypes.symm
    obtain ⟨c, value, rfl, hspace, hclosing⟩ := hcell.isJson.exists_cons
    have hends := hcells.endsNumeral (endsNumeral_cons (by decide) : EndsNumeral (']' :: rest))
    refine elements_cons hcell htype.symm hends ?_ (ih htypes.symm)
    have hstart := startElement_first hblanks hspace hclosing
    simpa using hstart _
  | later hblanks hblanks' hcell hcells ih =>
    obtain ⟨column, columns, rfl, htype, htypes⟩ := List.map_eq_cons_iff.mp htypes.symm
    obtain ⟨c, value, rfl, hspace, hclosing⟩ := hcell.isJson.exists_cons
    have hends := hcells.endsNumeral (endsNumeral_cons (by decide) : EndsNumeral (']' :: rest))
    refine elements_cons hcell htype.symm hends ?_ (ih htypes.symm)
    have hstart := startElement_later hblanks hblanks' hspace hclosing
    simpa using hstart _

/-! ## Members -/

/-- The text is a member of an object: it has the name of a column and a value of the column's type, or
the name of no column and any value. A name may be spelled in many ways. -/
inductive WritesMember (columns : List Column) : Option (Column × Cell) → List Char → Prop
  | known {column : Column} {cell : Cell} {key between between' text : List Char} :
      column ∈ columns → cell.type = column.type → Spells column.name.toList key →
      Blank between → Blank between' → cell.WrittenAs text →
      WritesMember columns (some (column, cell))
        ('"' :: (key ++ '"' :: (between ++ ':' :: (between' ++ text))))
  | unknown {name : String} {key between between' text : List Char} :
      (∀ column ∈ columns, column.name ≠ name) → Spells name.toList key →
      Blank between → Blank between' → IsJson .value text →
      WritesMember columns none
        ('"' :: (key ++ '"' :: (between ++ ':' :: (between' ++ text))))

theorem WritesMember.exists_cons {item : Option (Column × Cell)}
    (h : WritesMember columns item text) : ∃ key, text = '"' :: key := by
  cases h <;> exact ⟨_, rfl⟩

/-- What the members have come to at their end: the fields that were read, or the refusal of a second
member with the name of a column. -/
def taken (read : List (Column × Cell)) :
    List (Option (Column × Cell)) → Except ReadError (List (Column × Cell))
  | [] => .ok read
  | none :: items => taken read items
  | some field :: items =>
    if field.1 ∈ read.map (·.1) then .error (.mismatch (.duplicateField field.1.name))
    else taken (read ++ [field]) items

/-- The slots of the columns when the given fields have been read. -/
def slotsOf (columns : List Column) (read : List (Column × Cell)) : List (Option Cell) :=
  columns.map fun column => read.lookup column

namespace Reader

/-- The members end with the object. -/
theorem members_of_end {fuel : Nat} {first : Bool} {slots : List (Option Cell)}
    (hstart : startMember first text = .ok (false, rest)) :
    members columns (fuel + 1) first slots text = .ok (slots, rest) := by
  rw [members, bind_of_ok hstart]
  rfl

theorem startMember_end {blanks : List Char} (hblanks : Blank blanks) (first : Bool)
    (rest : List Char) :
    startMember first (blanks ++ '\x7d' :: rest) = .ok (false, '\x7d' :: rest) := by
  rw [startMember, bind_of_ok (peek_blanks hblanks rfl _)]
  rfl

theorem startMember_first {blanks : List Char} (hblanks : Blank blanks) (rest : List Char) :
    startMember true (blanks ++ '"' :: rest) = .ok (true, '"' :: rest) := by
  rw [startMember, bind_of_ok (peek_blanks hblanks rfl _)]
  rfl

theorem startMember_later {blanks blanks' : List Char} (hblanks : Blank blanks)
    (hblanks' : Blank blanks') (rest : List Char) :
    startMember false (blanks ++ ',' :: (blanks' ++ '"' :: rest)) = .ok (true, '"' :: rest) := by
  have hadvance : ∀ text : List Char, advance (',' :: text) = .ok ((), text) := fun _ => rfl
  rw [startMember, bind_of_ok (peek_blanks hblanks rfl _), if_neg (by decide), if_neg (by decide),
    if_pos (by decide), bind_of_ok (hadvance _), bind_of_ok (peek_blanks hblanks' rfl _)]
  rfl

end Reader

section

variable {read : List (Column × Cell)} {column : Column} {cell : Cell}

theorem lookup_eq_none_iff : read.lookup column = none ↔ column ∉ read.map (·.1) := by
  rw [List.lookup_eq_none_iff, List.mem_map]
  constructor
  · rintro h ⟨field, hfield, rfl⟩
    exact absurd rfl (bne_iff_ne.mp (h field hfield))
  · intro h field hfield
    exact bne_iff_ne.mpr fun heq => h ⟨field, hfield, heq.symm⟩

/-- A column is found by its name. -/
theorem exists_findIdx? (hnames : (columns.map (·.name)).Nodup) (h : column ∈ columns) :
    ∃ i, columns.findIdx? (·.name == column.name) = some i ∧ columns[i]? = some column := by
  obtain ⟨i, hi, rfl⟩ := List.mem_iff_getElem.mp h
  refine ⟨i, ?_, List.getElem?_eq_getElem hi⟩
  refine List.findIdx?_eq_some_iff_getElem.mpr ⟨hi, beq_self_eq_true _, fun j hj heq => ?_⟩
  have hj' : j < columns.length := Nat.lt_trans hj hi
  have hne := List.pairwise_iff_getElem.mp hnames j i (by rwa [List.length_map])
    (by rwa [List.length_map]) hj
  rw [List.getElem_map, List.getElem_map] at hne
  exact hne (eq_of_beq heq)

theorem slotsOf_set {i : Nat} (hnames : (columns.map (·.name)).Nodup)
    (hcolumn : columns[i]? = some column) (hnew : column ∉ read.map (·.1)) :
    (slotsOf columns read).set i (some cell) = slotsOf columns (read ++ [(column, cell)]) := by
  obtain ⟨hi, hget⟩ := List.getElem?_eq_some_iff.mp hcolumn
  refine List.ext_getElem (by simp [slotsOf]) fun j hj hj' => ?_
  rw [List.length_set, slotsOf, List.length_map] at hj
  rw [List.getElem_set]
  simp only [slotsOf, List.getElem_map, List.lookup_append]
  split
  · rename_i heq
    subst heq
    rw [hget, lookup_eq_none_iff.mpr hnew]
    simp
  · rename_i hne
    have hother : columns[j] ≠ column := by
      rw [← hget]
      exact fun heq => hne ((hnames.of_map _).getElem_inj_iff.mp heq).symm
    have hlast : [(column, cell)].lookup columns[j] = none := by
      rw [List.lookup_cons, beq_false_of_ne hother]
      rfl
    rw [hlast, Option.or_none]

/-- A member of a column that was not read before fills the slot of the column. -/
theorem members_known {fuel : Nat} {first : Bool} {key between between' value : List Char}
    (hnames : (columns.map (·.name)).Nodup) (hcolumn : column ∈ columns)
    (htype : cell.type = column.type) (hkey : Spells column.name.toList key)
    (hbetween : Blank between) (hbetween' : Blank between') (hcell : cell.WrittenAs value)
    (hends : EndsNumeral rest)
    (hstart : startMember first text = .ok (true,
      '"' :: (key ++ '"' :: (between ++ ':' :: (between' ++ (value ++ rest)))))) :
    members columns (fuel + 1) first (slotsOf columns read) text =
      if column ∈ read.map (·.1) then .error (.mismatch (.duplicateField column.name))
      else members columns fuel false (slotsOf columns (read ++ [(column, cell)])) rest := by
  obtain ⟨i, hfound, hget⟩ := exists_findIdx? hnames hcolumn
  have hslot : (slotsOf columns read)[i]?.join = read.lookup column := by
    rw [slotsOf, List.getElem?_map, hget]
    rfl
  rw [members, bind_of_ok hstart]
  simp only [if_true]
  rw [bind_of_ok (quoted_spells hkey _)]
  simp only [String.ofList_toList, hfound, hslot]
  by_cases hread : column ∈ read.map (·.1)
  · have hsome : (read.lookup column).isSome = true :=
      Option.isSome_iff_ne_none.mpr fun hnone => lookup_eq_none_iff.mp hnone hread
    rw [if_pos hread, hsome]
    rfl
  · have hnone : (read.lookup column).isSome = false := by
      rw [lookup_eq_none_iff.mpr hread, Option.isSome_none]
    have hvalue := hcell.read_takes rest hends
    rw [htype] at hvalue
    have hblanks := (skipsBlanks_read column.type _ _ hbetween').trans hvalue
    rw [if_neg hread, hnone]
    simp only [Bool.false_eq_true, if_false]
    rw [bind_of_ok (expect_blanks hbetween rfl _)]
    simp only [hget]
    rw [bind_of_ok hblanks, slotsOf_set hnames hget hread]

/-- A member with the name of no column is passed over. -/
theorem members_unknown {fuel : Nat} {first : Bool} {name : String}
    {key between between' value : List Char} {slots : List (Option Cell)}
    (hname : ∀ column ∈ columns, column.name ≠ name) (hkey : Spells name.toList key)
    (hbetween : Blank between) (hbetween' : Blank between') (hvalue : IsJson .value value)
    (hends : EndsNumeral rest)
    (hstart : startMember first text = .ok (true,
      '"' :: (key ++ '"' :: (between ++ ':' :: (between' ++ (value ++ rest)))))) :
    members columns (fuel + 1) first slots text = members columns fuel false slots rest := by
  have hfound : columns.findIdx? (·.name == name) = none :=
    List.findIdx?_eq_none_iff.mpr fun column hcolumn =>
      beq_eq_false_iff_ne.mpr (hname column hcolumn)
  have hpassed := skipValue_takes hbetween' hvalue rest hends
  rw [List.append_assoc] at hpassed
  rw [members, bind_of_ok hstart]
  simp only [if_true]
  rw [bind_of_ok (quoted_spells hkey _)]
  simp only [String.ofList_toList, hfound]
  rw [bind_of_ok (expect_blanks hbetween rfl _), bind_of_ok hpassed]

end

/-- One member is read, and then those after it. -/
theorem members_cons {item : Option (Column × Cell)} {items : List (Option (Column × Cell))}
    {fuel : Nat} {first : Bool} {member : List Char} (hnames : (columns.map (·.name)).Nodup)
    (hitem : WritesMember columns item member) (hends : EndsNumeral rest)
    (hstart : startMember first text = .ok (true, member ++ rest))
    {result : List (Column × Cell) → List (Option Cell) × List Char}
    (hrest : ∀ read, members columns fuel false (slotsOf columns read) rest =
      (taken read items).map result) (read : List (Column × Cell)) :
    members columns (fuel + 1) first (slotsOf columns read) text =
      (taken read (item :: items)).map result := by
  cases hitem with
  | known hcolumn htype hkey hbetween hbetween' hcell =>
    rw [members_known hnames hcolumn htype hkey hbetween hbetween' hcell hends
      (by simpa using hstart), taken]
    split
    · rfl
    · exact hrest _
  | unknown hname hkey hbetween hbetween' hvalue =>
    rw [members_unknown hname hkey hbetween hbetween' hvalue hends (by simpa using hstart)]
    exact hrest read

/-- The members of an object come to what is told by the fields in them. -/
theorem members_of_listed {items : List (Option (Column × Cell))} {first : Bool}
    (hnames : (columns.map (·.name)).Nodup) (h : Listed (WritesMember columns) first items text)
    (rest : List Char) {fuel : Nat} (hfuel : items.length < fuel) (read : List (Column × Cell)) :
    members columns fuel first (slotsOf columns read) (text ++ '\x7d' :: rest) =
      (taken read items).map fun fields => (slotsOf columns fields, '\x7d' :: rest) := by
  have hend : EndsNumeral ('\x7d' :: rest) := endsNumeral_cons (by decide)
  -- The fields that were read before are the state of the loop, so they vary in the induction.
  induction h generalizing read fuel with
  | nil hblanks =>
    obtain ⟨fuel, rfl⟩ := Nat.exists_eq_add_of_lt hfuel
    exact members_of_end (startMember_end hblanks _ rest)
  | first hblanks hitem hitems ih =>
    obtain ⟨fuel, rfl⟩ := Nat.exists_eq_add_of_lt hfuel
    obtain ⟨key, rfl⟩ := hitem.exists_cons
    have hstart := startMember_first hblanks
    refine members_cons hnames hitem (hitems.endsNumeral hend) ?_ (ih ?_) read
    · simpa using hstart _
    · rw [List.length_cons]
      omega
  | later hblanks hblanks' hitem hitems ih =>
    obtain ⟨fuel, rfl⟩ := Nat.exists_eq_add_of_lt hfuel
    obtain ⟨key, rfl⟩ := hitem.exists_cons
    have hstart := startMember_later hblanks hblanks'
    refine members_cons hnames hitem (hitems.endsNumeral hend) ?_ (ih ?_) read
    · simpa using hstart _
    · rw [List.length_cons]
      omega

/-! ## What the members come to -/

/-- What the members of an object come to: the cells of the record in the order of the columns, or the
first problem. -/
def outcome (columns : List Column) (items : List (Option (Column × Cell))) :
    Except ReadError (List Cell) :=
  taken [] items >>= fun fields => filled columns (slotsOf columns fields)

/-- The members that have the name of a column. -/
def fields (items : List (Option (Column × Cell))) : List (Column × Cell) := items.filterMap id

section

variable {read : List (Column × Cell)} {items : List (Option (Column × Cell))} {column : Column}
  {cell : Cell}

theorem fields_some (field : Column × Cell) (items : List (Option (Column × Cell))) :
    fields (some field :: items) = field :: fields items := rfl

theorem WritesMember.known_cons {item : Option (Column × Cell)} (h : WritesMember columns item text)
    (hitems : ∀ field ∈ fields items, field.1 ∈ columns ∧ field.2.type = field.1.type) :
    ∀ field ∈ fields (item :: items), field.1 ∈ columns ∧ field.2.type = field.1.type := by
  cases h with
  | known hcolumn htype => exact List.forall_mem_cons.mpr ⟨⟨hcolumn, htype⟩, hitems⟩
  | unknown => exact hitems

theorem known_of_listed {first : Bool} (h : Listed (WritesMember columns) first items text) :
    ∀ field ∈ fields items, field.1 ∈ columns ∧ field.2.type = field.1.type := by
  induction h with
  | nil => nofun
  | first _ hitem _ ih | later _ _ hitem _ ih => exact hitem.known_cons ih

theorem taken_of_nodup (h : ((read ++ fields items).map (·.1)).Nodup) :
    taken read items = .ok (read ++ fields items) := by
  induction items generalizing read with
  | nil => rw [fields, List.filterMap_nil, List.append_nil]; rfl
  | cons item items ih =>
    cases item with
    | none => exact ih h
    | some field =>
      rw [fields_some, List.append_cons] at h ⊢
      have hnew : field.1 ∉ read.map (·.1) := by
        rw [List.map_append, List.map_append] at h
        exact fun hread => (List.nodup_append.mp (List.nodup_append.mp h).1).2.2 _ hread _
          List.mem_cons_self rfl
      rw [taken, if_neg hnew]
      exact ih h

/-- The first member whose column was read before is refused. -/
theorem taken_of_not_nodup (hread : (read.map (·.1)).Nodup)
    (h : ¬ ((read ++ fields items).map (·.1)).Nodup) : ∃ field ∈ fields items,
      1 < ((read ++ fields items).map (·.1)).count field.1 ∧
      taken read items = .error (.mismatch (.duplicateField field.1.name)) := by
  induction items generalizing read with
  | nil => exact absurd hread (by rwa [fields, List.filterMap_nil, List.append_nil] at h)
  | cons item items ih =>
    cases item with
    | none => exact ih hread h
    | some field =>
      rw [fields_some] at h ⊢
      by_cases hold : field.1 ∈ read.map (·.1)
      · refine ⟨field, List.mem_cons_self, ?_, by rw [taken, if_pos hold]⟩
        have hpos := List.count_pos_iff.mpr hold
        rw [List.map_append, List.count_append, List.map_cons, List.count_cons_self]
        omega
      · have hread' : ((read ++ [field]).map (·.1)).Nodup := by
          rw [List.map_append]
          refine List.nodup_append.mpr ⟨hread, List.nodup_singleton _, ?_⟩
          rintro other hmem _ hlast rfl
          obtain rfl : other = field.1 := List.mem_singleton.mp hlast
          exact hold hmem
        rw [List.append_cons] at h ⊢
        obtain ⟨again, hmem, hcount, htaken⟩ := ih hread' h
        exact ⟨again, List.mem_cons_of_mem _ hmem, hcount, by rw [taken, if_neg hold, htaken]⟩

theorem lookup_eq_some_iff (h : (read.map (·.1)).Nodup) :
    read.lookup column = some cell ↔ (column, cell) ∈ read := by
  constructor
  · intro hlookup
    obtain ⟨before, after, rfl, -⟩ := List.lookup_eq_some_iff.mp hlookup
    exact List.mem_append_right _ List.mem_cons_self
  · intro hmem
    cases hlookup : read.lookup column with
    | none => exact absurd (List.mem_map_of_mem hmem) (lookup_eq_none_iff.mp hlookup)
    | some other =>
      obtain ⟨before, after, hread, -⟩ := List.lookup_eq_some_iff.mp hlookup
      have hother : (column, other) ∈ read := hread ▸ List.mem_append_right _ List.mem_cons_self
      cases List.inj_on_of_nodup_map h hother hmem rfl
      rfl

/-- Slots that are filled in any order hold the cells in the order of the columns. -/
theorem slotsOf_of_perm (hnames : (columns.map (·.name)).Nodup)
    (hlength : cells.length = columns.length) (h : read.Perm (columns.zip cells)) :
    slotsOf columns read = cells.map some := by
  have hcolumns : (columns.zip cells).map (·.1) = columns :=
    List.map_fst_zip (Nat.le_of_eq hlength.symm)
  have hnodup : (read.map (·.1)).Nodup := by
    rw [(h.map (·.1)).nodup_iff, hcolumns]
    exact hnames.of_map _
  refine List.ext_getElem (by simp [slotsOf, hlength]) fun i hi hi' => ?_
  rw [slotsOf, List.length_map] at hi
  rw [List.length_map] at hi'
  simp only [slotsOf, List.getElem_map]
  rw [lookup_eq_some_iff hnodup, h.mem_iff]
  have hzip : i < (columns.zip cells).length := by
    rw [List.length_zip, Nat.lt_min]
    exact ⟨hi, hi'⟩
  have hget := List.getElem_mem hzip
  rwa [List.getElem_zip] at hget

theorem filled_map_some (hlength : cells.length = columns.length) :
    filled columns (cells.map some) = .ok cells := by
  induction columns generalizing cells with
  | nil => rw [List.length_eq_zero_iff.mp hlength]; rfl
  | cons column columns ih =>
    obtain ⟨cell, cells, rfl⟩ := List.exists_cons_of_length_eq_add_one hlength
    rw [List.map_cons, filled, ih (Nat.succ.inj hlength)]
    rfl

/-- If each column has a slot that is filled but some, the first of these is missing. -/
theorem filled_of_find? (h : columns.find? (fun column => column ∉ read.map (·.1)) = some column) :
    filled columns (slotsOf columns read) = .error (.mismatch (.missingField column.name)) := by
  induction columns with
  | nil => cases h
  | cons other columns ih =>
    rw [List.find?_cons] at h
    rw [slotsOf, List.map_cons]
    cases hlookup : read.lookup other with
    | none =>
      rw [decide_eq_true (lookup_eq_none_iff.mp hlookup)] at h
      cases h
      rfl
    | some cell =>
      have hread : ¬ other ∉ read.map (·.1) := fun hnew => by
        rw [lookup_eq_none_iff.mpr hnew] at hlookup
        cases hlookup
      rw [decide_eq_false hread] at h
      have hlater := ih h
      rw [slotsOf] at hlater
      simp only [filled, hlater]
      rfl

/-! ### The three outcomes -/

/-- If each column has one member, all cells are there. -/
theorem outcome_of_perm (hnames : (columns.map (·.name)).Nodup)
    (hlength : cells.length = columns.length) (h : (fields items).Perm (columns.zip cells)) :
    outcome columns items = .ok cells := by
  have hcolumns : (columns.zip cells).map (·.1) = columns :=
    List.map_fst_zip (Nat.le_of_eq hlength.symm)
  have hnodup : ((fields items).map (·.1)).Nodup := by
    rw [(h.map (·.1)).nodup_iff, hcolumns]
    exact hnames.of_map _
  have htaken : taken [] items = .ok (fields items) := taken_of_nodup hnodup
  rw [outcome, htaken]
  exact (congrArg (filled columns) (slotsOf_of_perm hnames hlength h)).trans (filled_map_some hlength)

/-- If no column has two members, the first column without one is missing. -/
theorem outcome_of_find? (hnodup : ((fields items).map (·.1)).Nodup)
    (h : columns.find? (fun column => column ∉ (fields items).map (·.1)) = some column) :
    outcome columns items = .error (.mismatch (.missingField column.name)) := by
  have htaken : taken [] items = .ok (fields items) := taken_of_nodup hnodup
  rw [outcome, htaken]
  exact filled_of_find? h

/-- If a column has two members, one that has them is refused. -/
theorem outcome_of_not_nodup (h : ¬ ((fields items).map (·.1)).Nodup) : ∃ field ∈ fields items,
    1 < ((fields items).map (·.1)).count field.1 ∧
      outcome columns items = .error (.mismatch (.duplicateField field.1.name)) := by
  obtain ⟨field, hmem, hcount, htaken⟩ := @taken_of_not_nodup [] items List.nodup_nil h
  exact ⟨field, hmem, hcount, by rw [outcome, htaken]; rfl⟩

end

/-! ## Records -/

/-- A record is read from an object whatever the order of its members. -/
theorem record_of_members {items : List (Option (Column × Cell))} {blanks : List Char}
    (hnames : (columns.map (·.name)).Nodup) (hblanks : Blank blanks)
    (h : Listed (WritesMember columns) true items text) (rest : List Char) :
    record columns (blanks ++ '\x7b' :: (text ++ '\x7d' :: rest)) =
      (outcome columns items).map (·, rest) := by
  have hfuel : items.length < (text ++ '\x7d' :: rest).length + 1 := by
    have hle := h.length_le fun item member hitem => by
      obtain ⟨key, rfl⟩ := hitem.exists_cons
      exact nofun
    rw [List.length_append]
    omega
  have hmembers := members_of_listed hnames h rest hfuel []
  have hslots : slotsOf columns [] = columns.map fun _ => none := rfl
  have hadvance : ∀ text : List Char, advance ('\x7b' :: text) = .ok ((), text) := fun _ => rfl
  have hget : ∀ text : List Char, (get : Reader (List Char)) text = .ok (text, text) := fun _ => rfl
  rw [hslots] at hmembers
  rw [record, bind_of_ok (peek_blanks hblanks rfl _), if_neg (by decide), if_pos rfl,
    bind_of_ok (hadvance _), bind_of_ok (hget _), outcome]
  cases htaken : taken [] items with
  | error error =>
    rw [htaken] at hmembers
    rw [bind_of_error hmembers]
    rfl
  | ok fields =>
    rw [htaken] at hmembers
    have hlift : ∀ text : List Char, (liftM (filled columns (slotsOf columns fields)) :
        Reader (List Cell)) text = (filled columns (slotsOf columns fields)).map (·, text) :=
      fun _ => by cases filled columns (slotsOf columns fields) <;> rfl
    have hslots := hlift ('\x7d' :: rest)
    rw [bind_of_ok hmembers]
    change _ = (filled columns (slotsOf columns fields)).map (·, rest)
    cases hfilled : filled columns (slotsOf columns fields) with
    | error error =>
      rw [hfilled] at hslots
      exact bind_of_error hslots
    | ok cells =>
      rw [hfilled] at hslots
      exact (bind_of_ok hslots).trans (bind_of_ok (expect_cons rfl rest))

/-- A record is read from the list of its cells. -/
theorem record_of_list {blanks : List Char} (hblanks : Blank blanks)
    (h : Listed Cell.WrittenAs true cells text)
    (htypes : cells.map Cell.type = columns.map (·.type)) (rest : List Char) :
    record columns (blanks ++ '[' :: (text ++ ']' :: rest)) = .ok (cells, rest) := by
  have hadvance : ∀ text : List Char, advance ('[' :: text) = .ok ((), text) := fun _ => rfl
  rw [record, bind_of_ok (peek_blanks hblanks rfl _), if_pos rfl, bind_of_ok (hadvance _)]
  exact elements_of_listed h htypes rest

/-! ## Written records -/

theorem type_of_mem_zip (htypes : cells.map Cell.type = columns.map (·.type))
    {member : Column × Cell} (h : member ∈ columns.zip cells) : member.2.type = member.1.type := by
  obtain ⟨i, hi, rfl⟩ := List.mem_iff_getElem.mp h
  rw [List.length_zip, Nat.lt_min] at hi
  have hget := List.getElem_of_eq htypes (i := i) (by rw [List.length_map]; exact hi.2)
  rw [List.getElem_map, List.getElem_map] at hget
  rw [List.getElem_zip]
  exact hget

/-- The members that are written for a record, as they are read. -/
theorem listed_members (hplain : ∀ column ∈ columns, Plain column.name.toList)
    (htypes : cells.map Cell.type = columns.map (·.type))
    (hwritten : ∀ cell ∈ cells, cell.WrittenAs cell.text.toList) :
    Listed (WritesMember columns) true ((columns.zip cells).map some)
      (",".intercalate ((columns.zip cells).map fun (column, cell) =>
        quote column.name ++ ":" ++ cell.text)).toList := by
  refine Listed.map (listed_intercalate (columns.zip cells) fun member hmember => ?_)
  obtain ⟨hcolumn, hcell⟩ := List.of_mem_zip hmember
  have hknown := WritesMember.known hcolumn (type_of_mem_zip htypes hmember)
    (.of_plain (hplain _ hcolumn)) blank_nil blank_nil (hwritten _ hcell)
  simpa [quote] using hknown

/-- A record is read back as it is written. -/
theorem record_takes (hnames : (columns.map (·.name)).Nodup)
    (hplain : ∀ column ∈ columns, Plain column.name.toList)
    (htypes : cells.map Cell.type = columns.map (·.type))
    (hstorable : ∀ cell ∈ cells, cell.IsStorable) (hyear : ∀ cell ∈ cells, cell.HasShortYear) :
    (record columns).Takes (recordText columns cells).toList cells := by
  intro rest _
  have hlength : cells.length = columns.length := by
    have hlengths := congrArg List.length htypes
    rwa [List.length_map, List.length_map] at hlengths
  have hlisted := listed_members hplain htypes fun cell hcell =>
    Cell.writtenAs_text (hstorable cell hcell) (hyear cell hcell)
  have hfields : fields ((columns.zip cells).map some) = columns.zip cells := by
    simp [fields, List.filterMap_map]
  have hrecord := record_of_members hnames blank_nil hlisted rest
  rw [outcome_of_perm hnames hlength (.of_eq hfields)] at hrecord
  refine (congrArg (record columns) ?_).trans hrecord
  simp [recordText]

end Passbook.Json
