import Passbook.Proofs.Json.Accepted

/-! # The round trip of the ledger's JSON

Every amount, balance, kind, side, account, entry and command is read back from its JSON text, and
what is read from any text, in whatever spelling, is written as a text that stands for the same value
(`json_roundTrips`). Instants lie in the years 0000 to 9999, which are written with four digits. -/

namespace Passbook

open Json Json.Reader

variable {α : Type} {json : α → String} {ofJson : String → Except ReadError α}
  {IsValid HasShortYears : α → Prop}

/-- A writer and a reader agree. Not every value of a record's type can be stored, so those that can be
are told by `IsValid`; whatever is read from a text is one of them. -/
structure RoundTrips (json : α → String) (ofJson : String → Except ReadError α)
    (IsValid HasShortYears : α → Prop) : Prop where
  /-- A value is read back from its text. -/
  ofJson_json : ∀ value, IsValid value → HasShortYears value → ofJson (json value) = .ok value
  /-- A value that was read from any text is read back from its own, and is written the same way. -/
  ofJson_json_of_ofJson : ∀ text value, ofJson text = .ok value → HasShortYears value →
    IsValid value ∧ ∃ again, ofJson (json value) = .ok again ∧ again = value ∧ json again = json value

theorem RoundTrips.of_valid
    (hwritten : ∀ value, IsValid value → HasShortYears value → ofJson (json value) = .ok value)
    (hread : ∀ text value, ofJson text = .ok value → IsValid value) :
    RoundTrips json ofJson IsValid HasShortYears where
  ofJson_json := hwritten
  ofJson_json_of_ofJson text value h hyears :=
    ⟨hread text value h, value, hwritten value (hread text value h) hyears, rfl, rfl⟩

/-- Blanks may follow what is read as a whole text. -/
theorem Json.Reader.whole_of_blank {reader : Reader α} {text : String} {value : α} {rest : List Char}
    (h : reader text.toList = .ok (value, rest)) (hrest : Blank rest) :
    reader.whole text = .ok value := by
  rw [Reader.whole, StateT.run, h]
  exact if_pos (List.all_eq_true.mpr hrest)

/-- What is written is read as a whole text. -/
theorem Json.Reader.Takes.whole {reader : Reader α} {text : String} {value : α}
    (h : reader.Takes text.toList value) : reader.whole text = .ok value := by
  have hread := h [] endsNumeral_nil
  rw [List.append_nil] at hread
  exact whole_of_blank hread blank_nil

/-- A reader of single values that has no more values than it can write. -/
theorem RoundTrips.of_takes {reader : Reader α} (h : ∀ value, reader.Takes (json value).toList value) :
    RoundTrips json reader.whole (fun _ => True) (fun _ => True) :=
  .of_valid (fun value _ _ => (h value).whole) (fun _ _ _ => trivial)

/-! ## Single values -/

theorem Amount.reader_takes (amount : Amount) : reader.Takes amount.json.toList amount := by
  intro rest hrest
  have hinteger := integer_takes (Int.le_trans (by decide) (Int.le_of_lt amount.value_pos))
    amount.value_le rest hrest
  rw [Amount.json, Cell.text, reader, bind_of_ok hinteger, ofInt_value]
  rfl

theorem Balance.reader_takes (balance : Balance) : reader.Takes balance.json.toList balance := by
  intro rest hrest
  have hstored : stored? balance.value = some balance := dif_pos ⟨balance.le_value, balance.value_le⟩
  have hinteger := integer_takes balance.le_value balance.value_le rest hrest
  rw [Balance.json, Cell.text, reader, bind_of_ok hinteger, hstored]
  rfl

/-! ## Records -/

/-- All values in the fields can be stored. -/
def AllStorable (cells : List Cell) : Prop := ∀ cell ∈ cells, cell.IsStorable

/-- All instants in the fields lie in the years 0000 to 9999. -/
def AllShortYears (cells : List Cell) : Prop := ∀ cell ∈ cells, cell.HasShortYear

variable {columns : List Column} {build? : List Cell → Option α} {text : String}

theorem recordAs_of_whole {cells : List Cell} (h : (record columns).whole text = .ok cells) :
    recordAs columns build? text = match build? cells with
      | some value => .ok value
      | none => .error (.mismatch .other) := by
  rw [recordAs, h]
  rfl

theorem exists_of_recordAs {value : α} (h : recordAs columns build? text = .ok value) :
    ∃ cells, AllStorable cells ∧ build? cells = some value := by
  cases hrecord : (record columns).whole text with
  | error error =>
    rw [recordAs, hrecord] at h
    cases h
  | ok cells =>
    rw [recordAs_of_whole hrecord] at h
    split at h
    · rename_i hcells
      cases h
      exact ⟨cells, (record_yields columns).whole hrecord, hcells⟩
    · cases h

/-- A record's values are told by their cells, of which there is one for each column, in order. -/
theorem RoundTrips.of_record (columns : List Column) {cells : α → List Cell}
    (hnames : (columns.map (·.name)).Nodup)
    (hplain : ∀ column ∈ columns, Plain column.name.toList)
    (htypes : ∀ value, (cells value).map Cell.type = columns.map (·.type))
    (hbuild : ∀ value, build? (cells value) = some value)
    (hinverse : ∀ read value, build? read = some value → read = cells value) :
    RoundTrips (fun value => recordText columns (cells value)) (recordAs columns build?)
      (fun value => AllStorable (cells value)) (fun value => AllShortYears (cells value)) := by
  refine .of_valid (fun value hvalid hyears => ?_) (fun text value h => ?_)
  · have hrecord := (record_takes hnames hplain (htypes value) hvalid hyears).whole
    rw [recordAs_of_whole hrecord, hbuild]
  · obtain ⟨read, hread, hvalue⟩ := exists_of_recordAs h
    exact hinverse read value hvalue ▸ hread

theorem Account.eq_cells_of_ofCells? {read : List Cell} {account : Account}
    (h : ofCells? read = some account) : read = account.cells := by
  unfold ofCells? at h
  split at h
  · cases h
    rfl
  · cases h

theorem Entry.eq_cells_of_ofCells? {read : List Cell} {entry : Entry}
    (h : ofCells? read = some entry) : read = entry.cells := by
  unfold ofCells? at h
  split at h
  · cases h
    rfl
  · cases h

theorem Command.eq_cells_of_ofCells? {read : List Cell} {command : Command}
    (h : ofCells? read = some command) : read = command.cells := by
  unfold ofCells? at h
  split at h
  · cases h
    rfl
  · cases h

theorem Account.roundTrips : RoundTrips Account.json Account.ofJson
    (fun account => AllStorable account.cells) (fun account => AllShortYears account.cells) :=
  .of_record Account.columns (by decide) (by simp [Account.columns, Plain])
    (fun _ => rfl) Account.ofCells?_cells (fun _ _ => Account.eq_cells_of_ofCells?)

theorem Entry.roundTrips : RoundTrips Entry.json Entry.ofJson
    (fun entry => AllStorable entry.cells) (fun entry => AllShortYears entry.cells) :=
  .of_record Entry.columns (by decide) (by simp [Entry.columns, Plain])
    (fun _ => rfl) Entry.ofCells?_cells (fun _ _ => Entry.eq_cells_of_ofCells?)

theorem Command.roundTrips : RoundTrips Command.json Command.ofJson
    (fun command => AllStorable command.cells) (fun command => AllShortYears command.cells) :=
  .of_record Command.columns (by decide) (by simp [Command.columns, Plain])
    (fun _ => rfl) Command.ofCells?_cells (fun _ _ => Command.eq_cells_of_ofCells?)

/-- Writers and readers of the ledger's JSON agree. All amounts and balances can be stored, as they are
in range by construction, and all kinds and sides. -/
theorem json_roundTrips :
    RoundTrips Amount.json Amount.ofJson (fun _ => True) (fun _ => True) ∧
    RoundTrips Balance.json Balance.ofJson (fun _ => True) (fun _ => True) ∧
    RoundTrips AccountKind.json AccountKind.ofJson (fun _ => True) (fun _ => True) ∧
    RoundTrips Side.json Side.ofJson (fun _ => True) (fun _ => True) ∧
    RoundTrips Account.json Account.ofJson
      (fun account => AllStorable account.cells) (fun account => AllShortYears account.cells) ∧
    RoundTrips Entry.json Entry.ofJson
      (fun entry => AllStorable entry.cells) (fun entry => AllShortYears entry.cells) ∧
    RoundTrips Command.json Command.ofJson
      (fun command => AllStorable command.cells) (fun command => AllShortYears command.cells) :=
  ⟨.of_takes Amount.reader_takes, .of_takes Balance.reader_takes, .of_takes accountKind_takes,
    .of_takes side_takes, Account.roundTrips, Entry.roundTrips, Command.roundTrips⟩

/-- An entry written in a leap second. -/
def leapEntry : Entry :=
  ⟨⟨0xAB⟩, ⟨0xAC⟩, -5, 0, minMoney, .credit, ⟨1483228799, 1250000000⟩⟩

/-- The fields of the entry as a list, with the time of New York. -/
def leapEntryText : String :=
  "[\"\x7b00000000-0000-0000-0000-0000000000AB\x7d\",\"000000000000000000000000000000ac\"," ++
    "-5,0,-9223372036854775808,\"CREDIT\",\"2016-12-31 18:59:60.25-05:00\"]"

/-- The entry is read from another text and then from its own. -/
theorem json_roundTrips_leapEntry : AllShortYears leapEntry.cells ∧
    Entry.ofJson leapEntryText = .ok leapEntry ∧ Entry.ofJson leapEntry.json = .ok leapEntry := by
  obtain ⟨-, -, -, -, -, hentry, -⟩ := json_roundTrips
  have hread : Entry.ofJson leapEntryText = .ok leapEntry := by decide +kernel
  have hyears : AllShortYears leapEntry.cells := by
    simp only [AllShortYears, leapEntry, Entry.cells, List.forall_mem_cons, Cell.HasShortYear,
      Instant.HasShortYear]
    exact ⟨trivial, trivial, trivial, trivial, trivial, trivial, by decide, nofun⟩
  obtain ⟨-, again, hagain, rfl, -⟩ := hentry.ofJson_json_of_ofJson _ _ hread hyears
  exact ⟨hyears, hread, hagain⟩

end Passbook
