import Passbook.Proofs.Json.Grammar

/-! # Any value can be passed over

The machine that passes over values takes every well-formed value off the front of a text, however
deep it nests (`Reader.skipValue_takes`): it comes to the end of the value with the frames that were
open before, and goes on with these (`resume`). The induction is on the grammar; what stands between
brackets leads from the state in which an element starts to the one after an element. -/

namespace Passbook.Json

open Text

namespace Skip

variable {state state' state'' : Skip} {frames frames' frames'' : List Frame}
  {text text' rest : List Char} {c : Char}

/-- The machine takes the text, whatever follows it, and comes to another state. -/
def Leads (state : Skip) (frames : List Frame) (text : List Char) (state' : Skip)
    (frames' : List Frame) : Prop :=
  ∀ rest, run state frames (text ++ rest) = run state' frames' rest

theorem Leads.refl (state : Skip) (frames : List Frame) : Leads state frames [] state frames :=
  fun _ => rfl

theorem Leads.cons (h : ∀ rest, step state frames c (text ++ rest) = .ok (.more state' frames'))
    (h' : Leads state' frames' text state'' frames'') :
    Leads state frames (c :: text) state'' frames'' := by
  intro rest
  rw [List.cons_append, run, h rest]
  exact h' rest

theorem leads_of_step (h : ∀ rest, step state frames c rest = .ok (.more state' frames')) :
    Leads state frames [c] state' frames' :=
  .cons h (.refl state' frames')

theorem Leads.trans (h : Leads state frames text state' frames')
    (h' : Leads state' frames' text' state'' frames'') :
    Leads state frames (text ++ text') state'' frames'' := by
  intro rest
  rw [List.append_assoc, h, h']

/-- What follows a value: the text after it, or the rest of the innermost frame that is open. -/
def resume (frames : List Frame) (rest : List Char) : Except ReadError (List Char) :=
  match frames with
  | [] => .ok rest
  | frames => run after frames rest

theorem run_of_closed (h : step state frames c rest = .ok (closed frames')) :
    run state frames (c :: rest) = resume frames' rest := by
  rw [run, h]
  cases frames' <;> rfl

/-! ## Blanks -/

/-- The states in which blanks are passed over. -/
inductive PassesBlanks : Skip → List Frame → Prop
  | value (frames : List Frame) : PassesBlanks value frames
  | opened (frame : Frame) (frames : List Frame) : PassesBlanks opened (frame :: frames)
  | key (frames : List Frame) : PassesBlanks key frames
  | colon (frames : List Frame) : PassesBlanks colon frames
  | after (frame : Frame) (frames : List Frame) : PassesBlanks after (frame :: frames)

theorem leads_blanks (h : PassesBlanks state frames) {blanks : List Char} (hblanks : Blank blanks) :
    Leads state frames blanks state frames := by
  induction blanks with
  | nil => exact .refl state frames
  | cons c blanks ih =>
    obtain ⟨hc, hblanks⟩ := List.forall_mem_cons.mp hblanks
    refine .cons (fun rest => ?_) (ih hblanks)
    cases h <;> simp [step, stepValue, stepKey, stepAfter, hc]

/-! ## Words and quoted texts -/

theorem run_word {letters : List Char} (h : letters ≠ []) (frames : List Frame) (rest : List Char) :
    run (word letters) frames (letters ++ rest) = resume frames rest := by
  induction letters with
  | nil => exact absurd rfl h
  | cons letter letters ih =>
    cases letters with
    | nil => exact run_of_closed (by simp [step])
    | cons next letters =>
      rw [← ih nofun]
      exact leads_of_step (fun _ => by simp [step]) _

/-- Four digits take at least four bytes, so no unit is taken for one that is cut short. -/
theorem leads_unit {p q r s : Char} (h : ∀ digit ∈ [p, q, r, s], (hexDigit? digit).isSome = true)
    (isKey : Bool) (frames : List Frame) :
    Leads (unit isKey 4) frames [p, q, r, s] (.text isKey) frames := by
  simp only [List.forall_mem_cons] at h
  obtain ⟨hp, hq, hr, hs, -⟩ := h
  have hlong : 4 ≤ p.utf8Size + (q.utf8Size + (r.utf8Size + s.utf8Size)) := by
    have hp := p.utf8Size_pos
    have hq := q.utf8Size_pos
    have hr := r.utf8Size_pos
    have hs := s.utf8Size_pos
    omega
  have hfirst : ∀ rest, step (unit isKey 4) frames p ([q, r, s] ++ rest) =
      .ok (.more (unit isKey 3) frames) := fun _ => by simp [step, hp, Nat.not_lt.mpr hlong]
  have hsecond : Leads (unit isKey 3) frames [q] (unit isKey 2) frames :=
    leads_of_step fun _ => by simp [step, hq]
  have hthird : Leads (unit isKey 2) frames [r] (unit isKey 1) frames :=
    leads_of_step fun _ => by simp [step, hr]
  have hlast : Leads (unit isKey 1) frames [s] (.text isKey) frames :=
    leads_of_step fun _ => by simp [step, hs]
  exact .cons hfirst (hsecond.trans (hthird.trans hlast))

theorem leads_text (h : IsText text) (isKey : Bool) (frames : List Frame) :
    Leads (.text isKey) frames text (.text isKey) frames := by
  have hescape : Leads (.text isKey) frames ['\\'] (escape isKey) frames :=
    leads_of_step fun _ => by simp [step]
  induction h with
  | nil => exact .refl _ _
  | plain hquote hbackslash hle _ ih =>
    exact .cons (fun _ => by simp [step, hquote, hbackslash, Char.not_lt.mpr hle]) ih
  | @escape c text hc _ ih =>
    have hu : c ≠ 'u' := by
      rintro rfl
      cases hc
    have hletter : Leads (escape isKey) frames [c] (.text isKey) frames :=
      leads_of_step fun _ => by simp [step, hu, hc]
    exact hescape.trans (hletter.trans ih)
  | unit hdigits _ ih =>
    have hunit : Leads (escape isKey) frames ['u'] (unit isKey 4) frames :=
      leads_of_step fun _ => by simp [step]
    exact hescape.trans (hunit.trans ((leads_unit hdigits isKey frames).trans ih))

/-- A quoted text that is a value ends with its closing quote. -/
theorem run_text (h : IsText text) (frames : List Frame) (rest : List Char) :
    run (.text false) frames (text ++ '"' :: rest) = resume frames rest :=
  (leads_text h false frames _).trans (run_of_closed rfl)

theorem leads_key (h : IsText text) (frames : List Frame) :
    Leads (.text true) frames (text ++ ['"']) colon frames :=
  (leads_text h true frames).trans (leads_of_step fun _ => rfl)

/-! ## Numerals -/

/-- The states in which a numeral may end. -/
def EndsHere (state : Skip) : Prop :=
  state = zero ∨ state = digits ∨ state = fraction ∨ state = exponentDigits

theorem run_of_endsNumeral (h : EndsHere state) (hrest : EndsNumeral rest) (frames : List Frame) :
    run state frames rest = resume frames rest := by
  cases rest with
  | nil => rcases h with rfl | rfl | rfl | rfl <;> cases frames <;> rfl
  | cons c rest =>
    obtain ⟨hdigit, hpoint, he, hE⟩ := hrest c rfl
    have hstep : step state frames c rest = stepAfter c frames := by
      rcases h with rfl | rfl | rfl | rfl <;>
        simp [step, stepNumber, isDigit_eq, hdigit, hpoint, he, hE]
    rw [run, hstep]
    cases frames <;> rfl

theorem leads_digits (h : state = digits ∨ state = fraction ∨ state = exponentDigits)
    (hdigits : ∀ c ∈ text, c.isDigit = true) (frames : List Frame) :
    Leads state frames text state frames := by
  induction text with
  | nil => exact .refl state frames
  | cons c text ih =>
    obtain ⟨hc, htext⟩ := List.forall_mem_cons.mp hdigits
    refine .cons (fun _ => ?_) (ih htext)
    rcases h with rfl | rfl | rfl <;> simp [step, stepNumber, isDigit_eq, hc]

/-- The first digit of an exponent, with a sign before it or none. -/
theorem leads_sign {sign : List Char} (hsign : sign ∈ [[], ['+'], ['-']]) (hc : c.isDigit = true)
    (frames : List Frame) : Leads exponent frames (sign ++ [c]) exponentDigits frames := by
  have hdigit : Leads exponentSign frames [c] exponentDigits frames :=
    leads_of_step fun _ => by simp [step, isDigit_eq, hc]
  simp only [List.mem_cons, List.not_mem_nil, or_false] at hsign
  rcases hsign with rfl | rfl | rfl
  · have hsign : ¬ (c = '+' ∨ c = '-') := by
      rintro (rfl | rfl) <;> cases hc
    exact leads_of_step fun _ => by simp [step, hsign, isDigit_eq, hc]
  · exact Leads.trans (leads_of_step fun _ => rfl) hdigit
  · exact Leads.trans (leads_of_step fun _ => rfl) hdigit

theorem run_exponent (hexponent : IsExponent text)
    (h : state = zero ∨ state = digits ∨ state = fraction) (hrest : EndsNumeral rest)
    (frames : List Frame) : run state frames (text ++ rest) = resume frames rest := by
  cases hexponent with
  | absent => exact run_of_endsNumeral (h.imp_right (·.imp_right .inl)) hrest frames
  | @digits e sign text he hsign hdigits =>
    obtain ⟨hne, hdigits⟩ := hdigits
    obtain ⟨d, text, rfl⟩ := List.exists_cons_of_ne_nil hne
    obtain ⟨hd, htext⟩ := List.forall_mem_cons.mp hdigits
    have hletter : Leads state frames [e] exponent frames := leads_of_step fun _ => by
      rcases h with rfl | rfl | rfl <;> rcases he with rfl | rfl <;> rfl
    have hlater := leads_digits (.inr (.inr rfl)) htext frames
    have hall := hletter.trans ((leads_sign hsign hd frames).trans hlater)
    rw [List.append_assoc] at hall
    exact (hall rest).trans (run_of_endsNumeral (.inr (.inr (.inr rfl))) hrest frames)

theorem run_fraction {fraction exponent : List Char} (hfraction : IsFraction fraction)
    (hexponent : IsExponent exponent) (h : state = zero ∨ state = digits)
    (hrest : EndsNumeral rest) (frames : List Frame) :
    run state frames (fraction ++ (exponent ++ rest)) = resume frames rest := by
  cases hfraction with
  | absent => exact run_exponent hexponent (h.imp_right .inl) hrest frames
  | @digits text hdigits =>
    obtain ⟨hne, hdigits⟩ := hdigits
    obtain ⟨d, text, rfl⟩ := List.exists_cons_of_ne_nil hne
    obtain ⟨hd, htext⟩ := List.forall_mem_cons.mp hdigits
    have hpoint : Leads state frames ['.'] point frames := leads_of_step fun _ => by
      rcases h with rfl | rfl <;> rfl
    have hfirst : Leads point frames [d] .fraction frames := leads_of_step fun _ => by
      simp [step, isDigit_eq, hd]
    have hlater := leads_digits (.inr (.inl rfl)) htext frames
    exact ((hpoint.trans (hfirst.trans hlater)) _).trans
      (run_exponent hexponent (.inr (.inr rfl)) hrest frames)

/-- Where the digits before a decimal point lead, from the start of a value or after a sign. -/
theorem leads_whole (h : IsWhole text) (hstart : state = value ∨ state = minus)
    (frames : List Frame) :
    Leads state frames text zero frames ∨ Leads state frames text digits frames := by
  cases h with
  | zero => exact .inl (leads_of_step fun _ => by rcases hstart with rfl | rfl <;> rfl)
  | @digits c text hc hzero hdigits =>
    have hne : ∀ d : Char, d.isDigit = false → c ≠ d := by
      rintro _ hd rfl
      cases hc.symm.trans hd
    have hfirst : Leads state frames [c] digits frames := leads_of_step fun _ => by
      rcases hstart with rfl | rfl <;>
        simp [step, stepValue, Reader.isSpace_of_isDigit hc, isDigit_eq, hc, hzero, hne]
    exact .inr (hfirst.trans (leads_digits (.inl rfl) hdigits frames))

theorem run_unsigned {whole fraction exponent : List Char} (hwhole : IsWhole whole)
    (hfraction : IsFraction fraction) (hexponent : IsExponent exponent)
    (hstart : state = value ∨ state = minus) (hrest : EndsNumeral rest) (frames : List Frame) :
    run state frames (whole ++ (fraction ++ exponent) ++ rest) = resume frames rest := by
  rw [List.append_assoc, List.append_assoc]
  rcases leads_whole hwhole hstart frames with hleads | hleads
  · exact (hleads _).trans (run_fraction hfraction hexponent (.inl rfl) hrest frames)
  · exact (hleads _).trans (run_fraction hfraction hexponent (.inr rfl) hrest frames)

theorem run_numeral (h : IsNumeral text) (hrest : EndsNumeral rest) (frames : List Frame) :
    run value frames (text ++ rest) = resume frames rest := by
  cases h with
  | positive hwhole hfraction hexponent =>
    exact run_unsigned hwhole hfraction hexponent (.inl rfl) hrest frames
  | negative hwhole hfraction hexponent =>
    have hminus : Leads value frames ['-'] minus frames := leads_of_step fun _ => rfl
    exact (hminus _).trans (run_unsigned hwhole hfraction hexponent (.inr rfl) hrest frames)

/-! ## Values -/

theorem run_isWord (h : text ∈ words) (frames : List Frame) (rest : List Char) :
    run value frames (text ++ rest) = resume frames rest := by
  simp only [words, List.mem_cons, List.not_mem_nil, or_false] at h
  rcases h with rfl | rfl | rfl
  · exact run_word (by decide : ['u', 'l', 'l'] ≠ []) frames rest
  · exact run_word (by decide : ['r', 'u', 'e'] ≠ []) frames rest
  · exact run_word (by decide : ['a', 'l', 's', 'e'] ≠ []) frames rest

/-- A frame that has just been opened goes on as after a comma, unless it is closed at once. -/
theorem run_opened {blanks : List Char} {frame : Frame} (hblanks : Blank blanks)
    (hspace : isSpace c = false) (hclosing : c ≠ closing frame) :
    run opened (frame :: frames) (blanks ++ c :: rest) =
      run (element frame) (frame :: frames) (blanks ++ c :: rest) := by
  have hopened := leads_blanks (.opened frame frames) hblanks (c :: rest)
  have helement : PassesBlanks (element frame) (frame :: frames) := by
    cases frame with
    | list => exact .value _
    | object => exact .key _
  rw [hopened, leads_blanks helement hblanks, run, run]
  have hstep : step opened (frame :: frames) c rest =
      step (element frame) (frame :: frames) c rest := by
    cases frame <;> simp [step, element, hspace, hclosing]
  rw [hstep]

/-- What the machine makes of a part of a text, with the given frames open around it. -/
def Passes (frames : List Frame) (text : List Char) : Part → Prop
  | .value => ∀ rest, EndsNumeral rest → run value frames (text ++ rest) = resume frames rest
  | .items frame => ∀ rest, EndsNumeral rest →
      run (element frame) (frame :: frames) (text ++ rest) = run after (frame :: frames) rest

theorem passes_quoted (h : IsText text) (frames : List Frame) :
    Passes frames ('"' :: (text ++ ['"'])) .value := by
  intro rest _
  have hquote : Leads value frames ['"'] (.text false) frames := leads_of_step fun _ => rfl
  rw [List.cons_append, List.append_assoc]
  exact (hquote _).trans (run_text h frames rest)

theorem leads_opening (frame : Frame) (frames : List Frame) :
    Leads value frames [frame.opening] opened (frame :: frames) :=
  leads_of_step fun _ => by cases frame <;> rfl

theorem passes_empty (frame : Frame) {blanks : List Char} (h : Blank blanks) (frames : List Frame) :
    Passes frames (frame.opening :: (blanks ++ [closing frame])) .value := by
  intro rest _
  have hopened := (leads_opening frame frames).trans (leads_blanks (.opened frame frames) h)
  rw [List.cons_append, List.append_assoc]
  exact (hopened _).trans (run_of_closed (by cases frame <;> rfl))

theorem passes_nested {frame : Frame} (htext : IsJson (.items frame) text)
    (h : Passes frames text (.items frame)) :
    Passes frames (frame.opening :: (text ++ [closing frame])) .value := by
  intro rest _
  obtain ⟨blanks, c, items, hblanks, rfl, hspace, hclosing⟩ := htext.exists_of_items rfl
  have hends : EndsNumeral (closing frame :: rest) := by
    cases frame <;> exact endsNumeral_cons (by decide)
  have hitems := h (closing frame :: rest) hends
  rw [List.append_assoc, List.cons_append, ← run_opened hblanks hspace hclosing] at hitems
  rw [List.cons_append, List.append_assoc, List.append_assoc, List.cons_append]
  refine ((leads_opening frame frames) _).trans (hitems.trans (run_of_closed ?_))
  cases frame <;> rfl

theorem passes_element {before after : List Char} (hbefore : Blank before) (hafter : Blank after)
    (h : Passes (.list :: frames) text .value) :
    Passes frames (before ++ (text ++ after)) (.items .list) := by
  intro rest hrest
  rw [List.append_assoc, List.append_assoc]
  exact ((leads_blanks (.value _) hbefore) _).trans ((h _ (hafter.endsNumeral hrest)).trans
    ((leads_blanks (.after .list frames) hafter) rest))

theorem passes_member {before key between between' after : List Char} (hbefore : Blank before)
    (hkey : IsText key) (hbetween : Blank between) (hbetween' : Blank between')
    (hafter : Blank after) (h : Passes (.object :: frames) text .value) :
    Passes frames
      (before ++ '"' :: (key ++ '"' :: (between ++ ':' :: (between' ++ (text ++ after)))))
      (.items .object) := by
  intro rest hrest
  have hquote : Leads Skip.key (.object :: frames) ['"'] (.text true) (.object :: frames) :=
    leads_of_step fun _ => rfl
  have hcolon : Leads colon (.object :: frames) [':'] value (.object :: frames) :=
    leads_of_step fun _ => rfl
  have hname := (leads_blanks (.key _) hbefore).trans (hquote.trans (leads_key hkey _))
  have hvalue := hname.trans ((leads_blanks (.colon _) hbetween).trans
    (hcolon.trans (leads_blanks (.value _) hbetween')))
  have hread := (hvalue _).trans ((h _ (hafter.endsNumeral hrest)).trans
    ((leads_blanks (.after .object frames) hafter) rest))
  simpa [element] using hread

theorem passes_comma {frame : Frame} (h : Passes frames text (.items frame))
    (h' : Passes frames text' (.items frame)) :
    Passes frames (text ++ ',' :: text') (.items frame) := by
  intro rest hrest
  have hcomma : Leads after (frame :: frames) [','] (element frame) (frame :: frames) :=
    leads_of_step fun _ => rfl
  rw [List.append_assoc, List.cons_append]
  exact (h _ (endsNumeral_cons (by decide))).trans ((hcomma _).trans (h' rest hrest))

/-- Every well-formed part of a text is passed over, whatever is open around it. -/
theorem passes {part : Part} (h : IsJson part text) (frames : List Frame) :
    Passes frames text part := by
  -- A value within brackets has one frame more around it than the brackets have.
  induction h generalizing frames with
  | word hword => exact fun rest _ => run_isWord hword frames rest
  | numeral hnumeral => exact fun rest hrest => run_numeral hnumeral hrest frames
  | quoted htext => exact passes_quoted htext frames
  | empty frame hblanks => exact passes_empty frame hblanks frames
  | nested htext ih => exact passes_nested htext (ih frames)
  | element hbefore _ hafter ih => exact passes_element hbefore hafter (ih _)
  | member hbefore hkey hbetween hbetween' _ hafter ih =>
    exact passes_member hbefore hkey hbetween hbetween' hafter (ih _)
  | comma _ _ ih ih' => exact passes_comma (ih frames) (ih' frames)

end Skip

/-- The value of a field that nobody reads may be any well-formed value, with blanks before it. -/
theorem Reader.skipValue_takes {blanks text : List Char} (hblanks : Blank blanks)
    (h : IsJson .value text) : Reader.skipValue.Takes (blanks ++ text) () := by
  intro rest hrest
  have hpassed := ((Skip.leads_blanks (.value []) hblanks) (text ++ rest)).trans
    (Skip.passes h [] rest hrest)
  rw [List.append_assoc, Reader.skipValue, hpassed]
  rfl

end Passbook.Json
