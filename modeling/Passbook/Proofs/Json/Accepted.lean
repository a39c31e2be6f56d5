import Passbook.Proofs.Json.Records

/-! # What readers return

Whatever text a reader takes, the value it returns has a certain property (`Reader.Yields`): an integer
is one of 64 bits, an instant is told to the nanosecond, and the cells of a record are values that
fields can have. The property passes through the steps of a reader by `Yields.bind`. -/

namespace Passbook.Json

open Text

variable {α β : Type} {P : α → Prop} {Q : β → Prop}

namespace Reader

/-- Every value that the reader returns has the property. -/
def Yields (reader : Reader α) (P : α → Prop) : Prop :=
  ∀ text value rest, reader text = .ok (value, rest) → P value

theorem yields_true (reader : Reader α) : reader.Yields fun _ => True := fun _ _ _ _ => trivial

theorem yields_pure {value : α} (h : P value) : Yields (pure value) P := by
  rintro text _ rest ⟨⟩
  exact h

theorem yields_throw (error : ReadError) : Yields (throw error) P := by
  rintro text value rest ⟨⟩

theorem Yields.bind {reader : Reader α} {f : α → Reader β} (h : reader.Yields P)
    (hf : ∀ value, P value → (f value).Yields Q) : (reader >>= f).Yields Q := by
  intro text value rest hread
  change (reader text >>= fun result => f result.1 result.2) = _ at hread
  cases hfirst : reader text with
  | error error =>
    rw [hfirst] at hread
    cases hread
  | ok first =>
    rw [hfirst] at hread
    exact hf first.1 (h _ _ _ hfirst) _ _ _ hread

/-- Nothing is asked of the first of two steps. -/
theorem yields_bind {reader : Reader α} {f : α → Reader β} (h : ∀ value, (f value).Yields Q) :
    (reader >>= f).Yields Q :=
  (yields_true reader).bind fun value _ => h value

theorem Yields.map {reader : Reader α} {f : α → β} (h : reader.Yields fun value => Q (f value)) :
    Yields (f <$> reader) Q := by
  rw [← bind_pure_comp]
  exact h.bind fun _ => yields_pure

theorem yields_throw_bind (error : ReadError) (f : α → Reader β) :
    Yields (throw error >>= f) Q := by
  rintro text value rest ⟨⟩

theorem Yields.ite {p : Prop} [Decidable p] {reader reader' : Reader α} (h : reader.Yields P)
    (h' : reader'.Yields P) : Yields (if p then reader else reader') P := by
  split
  · exact h
  · exact h'

/-- What is true of all that a reader returns is true of what it makes of the whole of a text. -/
theorem Yields.whole {reader : Reader α} {text : String} {value : α} (h : reader.Yields P)
    (hread : reader.whole text = .ok value) : P value := by
  cases hfirst : reader text.toList with
  | error error =>
    rw [Reader.whole, StateT.run, hfirst] at hread
    cases hread
  | ok first =>
    rw [Reader.whole, StateT.run, hfirst] at hread
    change (if first.2.all isSpace then Except.ok first.1 else .error ReadError.malformed) = _ at hread
    split at hread
    · cases hread
      exact h _ _ _ hfirst
    · cases hread

theorem wrongType_yields (start : Char) : Yields (wrongType start) P := by
  have hrefused : ∀ _ : Unit, Yields (throw (.mismatch .other) : Reader α) P := fun _ => yields_throw _
  simp only [wrongType]
  exact .ite (hrefused ()) <| .ite (yields_bind fun _ => yields_bind fun _ => hrefused ()) <|
    .ite (yields_bind fun _ => hrefused ()) <| .ite (yields_bind hrefused) <|
    .ite (yields_bind hrefused) <| .ite (yields_bind hrefused) (yields_bind hrefused)

end Reader

/-! ## Numerals -/

/-- An integer that a numeral stands for has 64 bits. -/
def Numeral.IsStorable : Numeral → Prop
  | .integer value => minMoney ≤ value ∧ value ≤ maxMoney
  | .unfit => True

theorem integral_isStorable (negative : Bool) (kept : Nat) : (integral negative kept).IsStorable := by
  unfold integral
  split
  · split
    · rename_i h
      exact ⟨h.2, Int.le_trans (Int.neg_nonpos_of_nonneg (Int.natCast_nonneg _)) (by decide)⟩
    · trivial
  · split
    · rename_i h
      exact ⟨Int.le_trans (by decide) (Int.natCast_nonneg _), h⟩
    · trivial

variable {kept : Nat} {exponent : Int} {text : List Char} {result : Numeral × List Char}

theorem eq_unfit_of_scaled {rest : List Char} (h : scaled kept exponent rest = .ok result) :
    result.1 = .unfit := by
  unfold scaled at h
  split at h
  · cases h
  · cases h
    rfl

theorem eq_unfit_of_exponentPart (h : exponentPart kept exponent text = .ok result) :
    result.1 = .unfit := by
  unfold exponentPart at h
  split at h
  split at h
  · cases h
  · split at h
    · exact eq_unfit_of_scaled h
    · cases h

theorem eq_unfit_of_exponentPart? (h : exponentPart? kept exponent text = .ok result) :
    result.1 = .unfit := by
  unfold exponentPart? at h
  split at h
  · exact eq_unfit_of_exponentPart h
  · exact eq_unfit_of_exponentPart h
  · exact eq_unfit_of_scaled h

theorem eq_unfit_of_fractionPart (h : fractionPart kept exponent text = .ok result) :
    result.1 = .unfit := by
  unfold fractionPart at h
  simp only at h
  split at h
  · exact eq_unfit_of_exponentPart? h
  · split at h
    · exact eq_unfit_of_exponentPart? h
    · cases h

theorem isStorable_of_afterKept {negative : Bool} (h : afterKept negative kept text = .ok result) :
    result.1.IsStorable := by
  unfold afterKept at h
  split at h
  · rw [eq_unfit_of_fractionPart h]
    trivial
  · rw [eq_unfit_of_exponentPart h]
    trivial
  · rw [eq_unfit_of_exponentPart h]
    trivial
  · cases h
    exact integral_isStorable ..

theorem isStorable_of_numeral {negative : Bool} (h : numeral negative text = .ok result) :
    result.1.IsStorable := by
  unfold numeral at h
  split at h
  · cases h
  · split at h
    · cases h
    · exact isStorable_of_afterKept h
  · split at h
    · cases h
    · simp only at h
      split at h
      · unfold afterLong at h
        split at h
        · rw [eq_unfit_of_fractionPart h]
          trivial
        · rw [eq_unfit_of_exponentPart? h]
          trivial
      · exact isStorable_of_afterKept h

namespace Reader

/-! ## Values -/

theorem signedNumeral_yields : signedNumeral.Yields Numeral.IsStorable := by
  intro text value rest h
  unfold signedNumeral at h
  split at h
  · exact isStorable_of_numeral h
  · exact isStorable_of_numeral h

theorem integer_yields : integer.Yields fun value => minMoney ≤ value ∧ value ≤ maxMoney := by
  refine yields_bind fun start => .ite (signedNumeral_yields.bind fun value hvalue => ?_)
    (wrongType_yields start)
  cases value with
  | integer value => exact yields_pure hvalue
  | unfit => exact yields_throw _

theorem quotedAs_yields {ofChars? : List Char → Option α}
    (h : ∀ chars value, ofChars? chars = some value → P value) : (quotedAs ofChars?).Yields P := by
  refine yields_bind fun chars => ?_
  split
  · rename_i hread
    exact yields_pure (h _ _ hread)
  · exact yields_throw _

/-! ## Records -/

theorem columnType_yields (type : ColumnType) : type.read.Yields Cell.IsStorable := by
  cases type with
  | integer => exact integer_yields.map
  | uuid => exact (yields_true _).map
  | instant =>
    exact Yields.map (Q := Cell.IsStorable) (quotedAs_yields fun _ _ => Instant.isExact_of_ofChars?)
  | accountKind => exact (yields_true _).map
  | side => exact (yields_true _).map

theorem elements_yields (first : Bool) (columns : List Column) :
    (elements first columns).Yields fun cells => ∀ cell ∈ cells, cell.IsStorable := by
  induction columns generalizing first with
  | nil => exact yields_bind fun _ => yields_pure nofun
  | cons column columns ih =>
    exact yields_bind fun _ => (columnType_yields _).bind fun cell hcell =>
      (ih false).bind fun cells hcells => yields_pure (List.forall_mem_cons.mpr ⟨hcell, hcells⟩)

/-- Every slot that is filled has a value that fields can have. -/
def Filled (slots : List (Option Cell)) : Prop := ∀ slot ∈ slots, ∀ cell ∈ slot, cell.IsStorable

theorem members_yields {columns : List Column} {slots : List (Option Cell)} (h : Filled slots)
    (fuel : Nat) (first : Bool) : (members columns fuel first slots).Yields Filled := by
  induction fuel generalizing first slots with
  | zero => exact yields_throw _
  | succ fuel ih =>
    simp only [members]
    refine yields_bind fun another => .ite (yields_bind fun key => ?_) (yields_pure h)
    split
    · exact yields_bind fun _ => yields_bind fun _ => ih h false
    · rename_i i _
      refine .ite (yields_throw_bind _ _) (yields_bind fun _ => ?_)
      split
      · rename_i column _
        refine (columnType_yields column.type).bind fun cell hcell => ih ?_ false
        intro slot hslot other hother
        rcases List.mem_or_eq_of_mem_set hslot with hslot | rfl
        · exact h slot hslot other hother
        · cases hother
          exact hcell
      · exact yields_throw_bind _ _

theorem mem_of_filled {columns : List Column} {slots : List (Option Cell)} {cells : List Cell}
    (h : filled columns slots = .ok cells) {cell : Cell} (hcell : cell ∈ cells) : some cell ∈ slots := by
  induction columns generalizing slots cells with
  | nil =>
    cases h
    cases hcell
  | cons column columns ih =>
    cases slots with
    | nil => cases h
    | cons slot slots =>
      cases slot with
      | none => cases h
      | some first =>
        simp only [filled] at h
        cases hrest : filled columns slots with
        | error error =>
          rw [hrest] at h
          cases h
        | ok rest =>
          rw [hrest] at h
          cases h
          rcases List.mem_cons.mp hcell with rfl | hcell
          · exact List.mem_cons_self
          · exact List.mem_cons_of_mem _ (ih hrest hcell)

theorem record_yields (columns : List Column) :
    (record columns).Yields fun cells => ∀ cell ∈ cells, cell.IsStorable := by
  refine yields_bind fun start => .ite (yields_bind fun _ => elements_yields true columns) <|
    .ite ?_ (wrongType_yields start)
  have hnone : Filled (columns.map fun _ => none) := by
    intro slot hslot cell hcell
    obtain ⟨_, -, rfl⟩ := List.mem_map.mp hslot
    cases hcell
  refine yields_bind fun _ => yields_bind fun text => (members_yields hnone _ true).bind
    fun slots hslots => ?_
  have hfilled : Yields (liftM (filled columns slots) : Reader (List Cell))
      fun cells => ∀ cell ∈ cells, cell.IsStorable := by
    intro text cells rest hread cell hcell
    cases hcells : filled columns slots with
    | error error =>
      rw [hcells] at hread
      cases hread
    | ok found =>
      rw [hcells] at hread
      cases hread
      exact hslots _ (mem_of_filled hcells hcell) cell rfl
  exact hfilled.bind fun cells hcells => yields_bind fun _ => yields_pure hcells

end Reader

end Passbook.Json
