import Mathlib.Data.List.Perm.Basic
import Passbook.Proofs.Json.RoundTrip

/-! # Fields in any order

What is read from an object does not depend on the order of its members, on how its names and values
are spelled, on the blanks between them, or on members that have other names than the fields, whatever
their values are (`fields_in_any_order`). If each field has one member, the value with these fields is
read, as it is from the list of its cells; else the object is refused, because of a field that has two
members, or because of the first one that has none. -/

namespace Passbook

open Json Json.Reader

variable {α : Type} {columns : List Column} {cells : α → List Cell}
  {build? : List Cell → Option α} {items : List (Option (Column × Cell))} {text : String}

namespace Json

/-- The text is an object with the given members. -/
inductive WritesObject (columns : List Column) (items : List (Option (Column × Cell))) :
    List Char → Prop
  | mk {before inner after : List Char} : Blank before →
      Listed (WritesMember columns) true items inner → Blank after →
      WritesObject columns items (before ++ '\x7b' :: (inner ++ '\x7d' :: after))

/-- The text is the list of the cells. -/
inductive WritesList (cells : List Cell) : List Char → Prop
  | mk {before inner after : List Char} : Blank before → Listed Cell.WrittenAs true cells inner →
      Blank after → WritesList cells (before ++ '[' :: (inner ++ ']' :: after))

theorem Reader.whole_of_error {reader : Reader α} {error : ReadError}
    (h : reader text.toList = .error error) : reader.whole text = .error error := by
  rw [Reader.whole, StateT.run, h]
  rfl

/-- What is read from an object is told by what its members come to. -/
theorem whole_of_object (hnames : (columns.map (·.name)).Nodup)
    (h : WritesObject columns items text.toList) :
    (record columns).whole text = outcome columns items := by
  generalize htext : text.toList = chars at h
  obtain ⟨hbefore, hlisted, hafter⟩ := h
  have hrecord := htext ▸ record_of_members hnames hbefore hlisted _
  cases houtcome : outcome columns items with
  | error error =>
    rw [houtcome] at hrecord
    exact whole_of_error hrecord
  | ok cells =>
    rw [houtcome] at hrecord
    exact whole_of_blank hrecord hafter

theorem whole_of_list {cells : List Cell} (htypes : cells.map Cell.type = columns.map (·.type))
    (h : WritesList cells text.toList) : (record columns).whole text = .ok cells := by
  generalize htext : text.toList = chars at h
  obtain ⟨hbefore, hlisted, hafter⟩ := h
  exact whole_of_blank (htext ▸ record_of_list hbefore hlisted htypes _) hafter

theorem known_of_object (h : WritesObject columns items text.toList) :
    ∀ field ∈ fields items, field.1 ∈ columns ∧ field.2.type = field.1.type := by
  generalize text.toList = chars at h
  obtain ⟨-, hlisted, -⟩ := h
  exact known_of_listed hlisted

theorem recordAs_of_error {error : ReadError} (h : (record columns).whole text = .error error) :
    recordAs columns build? text = .error error := by
  rw [recordAs, h]
  rfl

/-- Fields in any order are the columns in their order, each with a cell. -/
theorem exists_zip_of_perm {read : List (Column × Cell)} (h : (read.map (·.1)).Perm columns) :
    ∃ cells, cells.length = columns.length ∧ read.Perm (columns.zip cells) := by
  have hcomp : Relation.Comp (List.Forall₂ fun (field : Column × Cell) column => field.1 = column)
      List.Perm read columns :=
    ⟨_, List.forall₂_map_right_iff.mpr (List.forall₂_same.mpr fun _ _ => rfl), h⟩
  rw [List.forall₂_comp_perm_eq_perm_comp_forall₂] at hcomp
  obtain ⟨ordered, hperm, hcolumns⟩ := hcomp
  have hmap : ordered.map (·.1) = columns :=
    List.forall₂_eq_eq_eq ▸ List.forall₂_map_left_iff.mpr hcolumns
  refine ⟨ordered.map (·.2), ?_, List.zip_of_prod hmap rfl ▸ hperm⟩
  rw [← hmap, List.length_map, List.length_map]

/-- The cells of fields that have the types of their columns have these types. -/
theorem types_of_zip {cells : List Cell} (hlength : cells.length = columns.length)
    (h : ∀ field ∈ columns.zip cells, field.2.type = field.1.type) :
    cells.map Cell.type = columns.map (·.type) := by
  have hcolumns : (columns.zip cells).map (·.1) = columns :=
    List.map_fst_zip (Nat.le_of_eq hlength.symm)
  have hcells : (columns.zip cells).map (·.2) = cells := List.map_snd_zip (Nat.le_of_eq hlength)
  calc cells.map Cell.type
      = ((columns.zip cells).map (·.2)).map Cell.type := by rw [hcells]
    _ = ((columns.zip cells).map (·.1)).map (·.type) := by
      rw [List.map_map, List.map_map]
      exact List.map_congr_left h
    _ = columns.map (·.type) := by rw [hcolumns]

end Json

/-- A reader of records with the given columns does not care for the order of members. -/
structure ReadsFields (columns : List Column) (cells : α → List Cell)
    (ofJson : String → Except ReadError α) : Prop where
  /-- If each column has one member, the value with these fields is read, also from any list of its
  cells. -/
  complete : ∀ text items, WritesObject columns items text.toList →
    ((fields items).map (·.1)).Perm columns →
    ∃ value, (fields items).Perm (columns.zip (cells value)) ∧ ofJson text = .ok value ∧
      ∀ list : String, WritesList (cells value) list.toList → ofJson list = .ok value
  /-- If no column has two members and some have none, the first of these is missing. -/
  missing : ∀ text items, WritesObject columns items text.toList →
    ((fields items).map (·.1)).Nodup → ∀ column,
    columns.find? (fun column => column ∉ (fields items).map (·.1)) = some column →
    ofJson text = .error (.mismatch (.missingField column.name))
  /-- If a column has two members, one that has them is refused. -/
  repeated : ∀ text items, WritesObject columns items text.toList →
    ¬ ((fields items).map (·.1)).Nodup →
    ∃ column ∈ columns, 1 < ((fields items).map (·.1)).count column ∧
      ofJson text = .error (.mismatch (.duplicateField column.name))

/-- A record whose cells make a value whenever they have the types of the columns. -/
theorem ReadsFields.of_record (hnames : (columns.map (·.name)).Nodup)
    (hbuild : ∀ read : List Cell, read.map Cell.type = columns.map (·.type) →
      ∃ value, build? read = some value ∧ read = cells value) :
    ReadsFields columns cells (recordAs columns build?) where
  complete text items hobject hperm := by
    obtain ⟨read, hlength, hfields⟩ := exists_zip_of_perm hperm
    have htypes : read.map Cell.type = columns.map (·.type) :=
      types_of_zip hlength fun field hfield =>
        (known_of_object hobject field (hfields.mem_iff.mpr hfield)).2
    obtain ⟨value, hvalue, rfl⟩ := hbuild read htypes
    have hwhole := whole_of_object hnames hobject
    rw [outcome_of_perm hnames hlength hfields] at hwhole
    refine ⟨value, hfields, ?_, fun list hlist => ?_⟩
    · rw [recordAs_of_whole hwhole, hvalue]
    · rw [recordAs_of_whole (whole_of_list htypes hlist), hvalue]
  missing text items hobject hnodup column hcolumn := by
    have hwhole := whole_of_object hnames hobject
    rw [outcome_of_find? hnodup hcolumn] at hwhole
    exact recordAs_of_error hwhole
  repeated text items hobject hrepeated := by
    obtain ⟨field, hfield, hcount, houtcome⟩ := outcome_of_not_nodup hrepeated
    have hwhole := whole_of_object hnames hobject
    rw [houtcome] at hwhole
    exact ⟨field.1, (known_of_object hobject field hfield).1, hcount, recordAs_of_error hwhole⟩

/-- If a value is read from an object, the members with the names of its fields are its fields. -/
theorem ReadsFields.perm_of_ok {ofJson : String → Except ReadError α}
    (h : ReadsFields columns cells ofJson) (hcolumns : columns.Nodup)
    (hobject : WritesObject columns items text.toList) {value : α} (hok : ofJson text = .ok value) :
    (fields items).Perm (columns.zip (cells value)) := by
  -- Fields that are missing or repeated are refused, so each has one member.
  by_cases hnodup : ((fields items).map (·.1)).Nodup
  · cases hfind : columns.find? (fun column => column ∉ (fields items).map (·.1)) with
    | some column =>
      have herror := h.missing text items hobject hnodup column hfind
      cases hok.symm.trans herror
    | none =>
      have hperm : ((fields items).map (·.1)).Perm columns := by
        refine (List.perm_ext_iff_of_nodup hnodup hcolumns).mpr fun column =>
          ⟨fun hmem => ?_, fun hmem => ?_⟩
        · obtain ⟨field, hfield, rfl⟩ := List.mem_map.mp hmem
          exact (known_of_object hobject field hfield).1
        · simpa using List.find?_eq_none.mp hfind column hmem
      obtain ⟨other, hfields, hother, -⟩ := h.complete text items hobject hperm
      cases hok.symm.trans hother
      exact hfields
  · obtain ⟨column, -, -, herror⟩ := h.repeated text items hobject hnodup
    cases hok.symm.trans herror

theorem Account.exists_of_types {read : List Cell}
    (h : read.map Cell.type = Account.columns.map (·.type)) :
    ∃ account : Account, ofCells? read = some account ∧ read = account.cells := by
  match read, h with
  | [.integer id, .uuid owner, .integer balance, .accountKind kind, .instant createdAt,
      .instant updatedAt], _ => exact ⟨⟨id, owner, balance, kind, createdAt, updatedAt⟩, rfl, rfl⟩

theorem Entry.exists_of_types {read : List Cell}
    (h : read.map Cell.type = Entry.columns.map (·.type)) :
    ∃ entry : Entry, ofCells? read = some entry ∧ read = entry.cells := by
  match read, h with
  | [.uuid id, .uuid transfer, .integer account, .integer amount, .integer balanceAfter, .side side,
      .instant createdAt], _ =>
    exact ⟨⟨id, transfer, account, amount, balanceAfter, side, createdAt⟩, rfl, rfl⟩

theorem Command.exists_of_types {read : List Cell}
    (h : read.map Cell.type = Command.columns.map (·.type)) :
    ∃ command : Command, ofCells? read = some command ∧ read = command.cells := by
  match read, h with
  | [.uuid sender, .integer source, .integer target, .integer amount], _ =>
    exact ⟨⟨sender, source, target, amount⟩, rfl, rfl⟩

theorem Account.readsFields : ReadsFields Account.columns Account.cells Account.ofJson :=
  .of_record (by decide) fun _ => Account.exists_of_types

theorem Entry.readsFields : ReadsFields Entry.columns Entry.cells Entry.ofJson :=
  .of_record (by decide) fun _ => Entry.exists_of_types

theorem Command.readsFields : ReadsFields Command.columns Command.cells Command.ofJson :=
  .of_record (by decide) fun _ => Command.exists_of_types

/-- The kind of an account that is read from an object is told by its member `type`. -/
theorem Account.kind_of_type {account : Account}
    (hobject : WritesObject Account.columns items text.toList) (hok : ofJson text = .ok account)
    (cell : Cell) :
    (⟨"type", .accountKind⟩, cell) ∈ fields items ↔ cell = .accountKind account.kind := by
  have hperm := Account.readsFields.perm_of_ok (by decide) hobject hok
  rw [hperm.mem_iff]
  simp [Account.columns, Account.cells]

/-- The side of an entry that is read from an object is told by its member `type`. -/
theorem Entry.side_of_type {entry : Entry}
    (hobject : WritesObject Entry.columns items text.toList) (hok : ofJson text = .ok entry)
    (cell : Cell) : (⟨"type", .side⟩, cell) ∈ fields items ↔ cell = .side entry.side := by
  have hperm := Entry.readsFields.perm_of_ok (by decide) hobject hok
  rw [hperm.mem_iff]
  simp [Entry.columns, Entry.cells]

/-- Accounts, entries and commands are read from objects with their fields in any order, among any
other members; and no member but `type` tells the kind of an account or the side of an entry. -/
theorem fields_in_any_order :
    ReadsFields Account.columns Account.cells Account.ofJson ∧
    ReadsFields Entry.columns Entry.cells Entry.ofJson ∧
    ReadsFields Command.columns Command.cells Command.ofJson ∧
    (∀ (text : String) items account, WritesObject Account.columns items text.toList →
      Account.ofJson text = .ok account → ∀ cell,
      ((⟨"type", .accountKind⟩, cell) ∈ fields items ↔ cell = .accountKind account.kind)) ∧
    (∀ (text : String) items entry, WritesObject Entry.columns items text.toList →
      Entry.ofJson text = .ok entry → ∀ cell,
      ((⟨"type", .side⟩, cell) ∈ fields items ↔ cell = .side entry.side)) :=
  ⟨Account.readsFields, Entry.readsFields, Command.readsFields,
    fun _ _ _ hobject hok => Account.kind_of_type hobject hok,
    fun _ _ _ hobject hok => Entry.side_of_type hobject hok⟩

/-- A command with its members in another order, one of them spelled with an escape, blanks between
them, and a note among them that no field reads. -/
def Command.shuffledText : String :=
  "\x7b\"note\":\x7b\"\\ud800\":[-0.5e+10]\x7d,\"amount\" :7,\"\\u0074o_account_id\":2," ++
    "\n\"from_account_id\":1,\"sender_user_id\":\"00000000-0000-0000-0000-000000000000\"\x7d"

/-- The members of the shuffled text that hold fields. -/
def Command.shuffledItems : List (Option (Column × Cell)) :=
  [none, some (⟨"amount", .integer⟩, .integer 7), some (⟨"to_account_id", .integer⟩, .integer 2),
    some (⟨"from_account_id", .integer⟩, .integer 1), some (⟨"sender_user_id", .uuid⟩, .uuid .nil)]

/-- The note: half of a pair names a list with a numeral that no integer is. -/
theorem Command.isJson_note : IsJson .value "\x7b\"\\ud800\":[-0.5e+10]\x7d".toList := by
  have hexponent : IsExponent ('e' :: (['+'] ++ ['1', '0'])) :=
    .digits (.inl rfl) (by decide) ⟨by decide, List.all_eq_true.mp rfl⟩
  have hnumeral : IsNumeral ('-' :: (['0'] ++ (('.' :: ['5']) ++ ('e' :: (['+'] ++ ['1', '0']))))) :=
    .negative .zero (.digits ⟨by decide, List.all_eq_true.mp rfl⟩) hexponent
  have hlist := IsJson.nested (.element blank_nil (.numeral hnumeral) blank_nil)
  have hkey : IsText ['\\', 'u', 'd', '8', '0', '0'] :=
    .unit (List.all_eq_true.mp rfl) .nil
  have hmember := IsJson.nested (.member blank_nil hkey blank_nil blank_nil hlist blank_nil)
  exact hmember

theorem Command.writesObject_shuffled :
    WritesObject Command.columns shuffledItems shuffledText.toList := by
  have hblank : Blank [' '] := by simp [Blank]; decide
  have hline : Blank ['\n'] := by simp [Blank]; decide
  have hinteger : ∀ value : Int, minMoney ≤ value ∧ value ≤ maxMoney →
      (Cell.integer value).WrittenAs (Cell.integer value).text.toList :=
    fun value hvalue => Cell.writtenAs_text hvalue trivial
  have hkey : Spells "note".toList "note".toList := .of_plain (by decide)
  have hnote : WritesMember Command.columns none _ :=
    .unknown (by decide) hkey blank_nil blank_nil isJson_note
  have hamount : WritesMember Command.columns (some (⟨"amount", .integer⟩, .integer 7)) _ :=
    .known (by decide) rfl (.of_plain (by decide)) hblank blank_nil (hinteger 7 (by decide))
  have hkey : Spells "to_account_id".toList ("\\u0074".toList ++ "o_account_id".toList) :=
    .unit (by decide) (.of_plain (by decide))
  have htarget : WritesMember Command.columns (some (⟨"to_account_id", .integer⟩, .integer 2)) _ :=
    .known (by decide) rfl hkey blank_nil blank_nil (hinteger 2 (by decide))
  have hsource : WritesMember Command.columns (some (⟨"from_account_id", .integer⟩, .integer 1)) _ :=
    .known (by decide) rfl (.of_plain (by decide)) blank_nil blank_nil (hinteger 1 (by decide))
  have hsender : WritesMember Command.columns (some (⟨"sender_user_id", .uuid⟩, .uuid .nil)) _ :=
    .known (by decide) rfl (.of_plain (by decide)) blank_nil blank_nil
      (Cell.writtenAs_text trivial trivial)
  have hlisted : Listed (WritesMember Command.columns) true shuffledItems _ :=
    .first blank_nil hnote (.later blank_nil blank_nil hamount (.later blank_nil blank_nil htarget
      (.later blank_nil hline hsource (.later blank_nil blank_nil hsender (.nil blank_nil)))))
  have hobject := WritesObject.mk blank_nil hlisted blank_nil
  refine Eq.mp (congrArg _ ?_) hobject
  decide +kernel

/-- The shuffled text and a list of its fields are read as the same command. -/
theorem fields_in_any_order_shuffled :
    WritesObject Command.columns Command.shuffledItems Command.shuffledText.toList ∧
    Command.ofJson Command.shuffledText = .ok ⟨.nil, 1, 2, 7⟩ ∧
    Command.ofJson "[\"00000000-0000-0000-0000-000000000000\",1,2,7]" = .ok ⟨.nil, 1, 2, 7⟩ := by
  obtain ⟨-, -, hcommand, -⟩ := fields_in_any_order
  obtain ⟨⟨sender, source, target, amount⟩, hperm, hobject, hlist⟩ :=
    hcommand.complete _ _ Command.writesObject_shuffled (by decide)
  have hfields := fun field => (hperm.mem_iff (a := field)).mp
  obtain ⟨rfl, rfl, rfl, rfl⟩ : 7 = amount ∧ 2 = target ∧ 1 = source ∧ .nil = sender := by
    simpa [fields, Command.shuffledItems, Command.columns, Command.cells] using hfields
  have hstorable : AllStorable (Command.cells ⟨.nil, 1, 2, 7⟩) := by
    simp [AllStorable, Command.cells, Cell.IsStorable, minMoney, maxMoney]
  have hyears : AllShortYears (Command.cells ⟨.nil, 1, 2, 7⟩) := by
    simp [AllShortYears, Command.cells, Cell.HasShortYear]
  have hcells : Listed Cell.WrittenAs true (Command.cells ⟨.nil, 1, 2, 7⟩) _ :=
    listed_intercalate _ fun cell hcell =>
      Cell.writtenAs_text (hstorable cell hcell) (hyears cell hcell)
  refine ⟨Command.writesObject_shuffled, hobject, hlist _ ?_⟩
  refine Eq.mp (congrArg _ ?_) (WritesList.mk blank_nil hcells blank_nil)
  decide +kernel

end Passbook
