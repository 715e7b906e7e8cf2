import UsbHost.Proofs.Json.Scanning

/-! # How scalars are spelled

The grammar that JSON has for numbers and strings.  Whatever it derives is scanned to a
token of its own that no reader takes for misspelt (`IsScalar.scansTo`), though it may be
a number that is out of range or a string with half of a surrogate pair.

The proofs follow the machine from one state to the next (`LexState.Leads`).  All that
has to be known of a number on its way is how far it has come, and of a string that no
piece is a bare control character.
-/
namespace UsbHost.Json

/-! ## The grammar -/

/-- At least one decimal digit. -/
structure IsDigits (text : List Char) : Prop where
  ne_nil : text ≠ []
  isDigit : ∀ d ∈ text, d.isDigit

/-- A whole number without sign, of which a zero is the first digit only if it is the last. -/
inductive IsWhole : List Char → Prop where
  | zero : IsWhole ['0']
  | digits {d : Char} {ds : List Char} (isDigit : d.isDigit) (ne_zero : d ≠ '0')
      (more : ∀ d ∈ ds, d.isDigit) : IsWhole (d :: ds)

/-- The fraction of a number, or nothing. -/
inductive IsFraction : List Char → Prop where
  | absent : IsFraction []
  | present {ds : List Char} (digits : IsDigits ds) : IsFraction ('.' :: ds)

/-- The exponent of a number, or nothing. -/
inductive IsExponent : List Char → Prop where
  | absent : IsExponent []
  | present {mark : Char} {sign ds : List Char} (mark_mem : mark ∈ ['e', 'E'])
      (sign_mem : sign ∈ [[], ['+'], ['-']]) (digits : IsDigits ds) :
      IsExponent (mark :: (sign ++ ds))

inductive IsNumber : List Char → Prop where
  | parts {sign whole fraction exponent : List Char} (sign_mem : sign ∈ [[], ['-']])
      (isWhole : IsWhole whole) (isFraction : IsFraction fraction)
      (isExponent : IsExponent exponent) :
      IsNumber (sign ++ (whole ++ (fraction ++ exponent)))

/-- The digits of a code. -/
def hexDigits : List Char := "0123456789abcdefABCDEF".toList

/-- What stands for one character of a string, or for half of a surrogate pair. -/
inductive IsPart : List Char → Prop where
  | plain {c : Char} (ne_quote : c ≠ '"') (ne_backslash : c ≠ '\\')
      (not_control : isControl c = false) : IsPart [c]
  | letter {c : Char} (mem : c ∈ ['"', '\\', '/', 'b', 'f', 'n', 'r', 't']) : IsPart ['\\', c]
  | code {a b c d : Char} (mem : ∀ x ∈ [a, b, c, d], x ∈ hexDigits) :
      IsPart ['\\', 'u', a, b, c, d]

inductive IsString : List Char → Prop where
  | parts {parts : List (List Char)} (isPart : ∀ part ∈ parts, IsPart part) :
      IsString ('"' :: (parts.flatten ++ ['"']))

/-- A value that has no parts. -/
inductive IsScalar : List Char → Prop where
  | name {text : List Char} (mem : text ∈ ["null".toList, "true".toList, "false".toList]) :
      IsScalar text
  | number {text : List Char} (h : IsNumber text) : IsScalar text
  | string {text : List Char} (h : IsString text) : IsScalar text

/-- No control character stands for itself. -/
def NoControl (pieces : List Piece) : Prop := ∀ c, .control c ∉ pieces

/-- The token of a scalar that is spelled as the grammar has it. -/
inductive Token.Scalar : Token → Prop where
  | null : Scalar .null
  | bool (b : Bool) : Scalar (.bool b)
  | number (n : Numeral) : Scalar (.number n)
  | string {pieces : List Piece} (h : NoControl pieces) : Scalar (.string pieces .closed)

/-! ## From one state to the next -/

namespace LexState

/-- The text takes the machine from one state to another, and completes no token. -/
def Leads (s : LexState) (text : List Char) (s' : LexState) : Prop :=
  ∀ read more, s.run read (text ++ more) = s'.run read more

variable {s s' s'' : LexState} {text text' : List Char}

theorem Leads.refl (s : LexState) : s.Leads [] s := fun _ _ => rfl

theorem Leads.single {c : Char} (h : s.step c = ([], some s')) : s.Leads [c] s' := fun read more =>
  run_step h read more

theorem Leads.append (h : s.Leads text s') (h' : s'.Leads text' s'') :
    s.Leads (text ++ text') s'' := by
  intro read more
  rw [List.append_assoc, h, h']

theorem Leads.cons {c : Char} (hc : s.step c = ([], some s')) (h : s'.Leads text s'') :
    s.Leads (c :: text) s'' := (Leads.single hc).append h

end LexState

open LexState (Leads)

/-! ## Numbers -/

theorem phase_addWhole (p : Numeral.Partial) (d : Char) : (p.addWhole d).phase = .whole := by
  unfold Numeral.Partial.addWhole
  dsimp only
  split <;> rfl

theorem phase_addFraction (p : Numeral.Partial) (d : Char) :
    (p.addFraction d).phase = .fraction := by
  unfold Numeral.Partial.addFraction
  dsimp only
  split <;> rfl

section Numbers
variable {p : Numeral.Partial} {ds sign whole fraction exponent : List Char}

/-- Digits continue a number that has come to digits of its own kind. -/
theorem leads_digits (hds : ∀ d ∈ ds, d.isDigit) (hphase : p.phase ∈ [.whole, .fraction, .power]) :
    ∃ p', p'.phase = p.phase ∧ (LexState.number p).Leads ds (.number p') := by
  induction ds generalizing p with
  | nil => exact ⟨p, rfl, .refl _⟩
  | cons d ds ih =>
    obtain ⟨hd, hds⟩ := List.forall_mem_cons.mp hds
    obtain ⟨q, hq, hnext⟩ : ∃ q, q.phase = p.phase ∧ p.next? d = some q := by
      simp only [List.mem_cons, List.not_mem_nil, or_false] at hphase
      rcases hphase with h | h | h
      · exact ⟨p.addWhole d, by rw [phase_addWhole, h], by simp [Numeral.Partial.next?, h, hd]⟩
      · exact ⟨p.addFraction d, by rw [phase_addFraction, h],
          by simp [Numeral.Partial.next?, h, hd]⟩
      · exact ⟨p.addPower d, h.symm, by simp [Numeral.Partial.next?, h, hd]⟩
    obtain ⟨p', hp', hleads⟩ := ih hds (hq ▸ hphase)
    refine ⟨p', hp'.trans hq, .cons ?_ hleads⟩
    rw [LexState.step, hnext]

/-- Digits follow what has to be followed by a digit. -/
theorem IsDigits.leads (hds : IsDigits ds) (phase : Numeral.Phase)
    (hphase : phase ∈ [.whole, .fraction, .power])
    (hfirst : ∀ d, d.isDigit → ∃ q, q.phase = phase ∧ p.next? d = some q) :
    ∃ p', p'.phase = phase ∧ (LexState.number p).Leads ds (.number p') := by
  obtain ⟨d, ds, rfl⟩ := List.exists_cons_of_ne_nil hds.ne_nil
  obtain ⟨hd, hmore⟩ := List.forall_mem_cons.mp hds.isDigit
  obtain ⟨q, hq, hnext⟩ := hfirst d hd
  obtain ⟨p', hp', hleads⟩ := leads_digits hmore (hq ▸ hphase)
  refine ⟨p', hp'.trans hq, .cons ?_ hleads⟩
  rw [LexState.step, hnext]

theorem mem_of_isDigit {d : Char} (h : d.isDigit) : d ∈ "0123456789".toList := by
  simp only [Char.isDigit, Bool.and_eq_true, decide_eq_true_eq] at h
  have hlow : 48 ≤ d.toNat := h.1
  have hhigh : d.toNat < 58 := Nat.lt_succ_of_le h.2
  have hall : ∀ n < 58, 48 ≤ n → Char.ofNat n ∈ "0123456789".toList := by decide
  rw [← Char.ofNat_toNat d]
  exact hall _ hhigh hlow

theorem step_start_of_isDigit {d : Char} (h : d.isDigit) (hzero : d ≠ '0') :
    LexState.start.step d =
      ([], some (.number (Numeral.Partial.addWhole { phase := .whole } d))) := by
  have hall : ("0123456789".toList.all fun d => d = '0' ∨ LexState.start.step d =
      ([], some (.number (Numeral.Partial.addWhole { phase := .whole } d)))) = true := by decide
  have hd := List.all_eq_true.mp hall d (mem_of_isDigit h)
  exact (of_decide_eq_true hd).resolve_left hzero

theorem IsWhole.leads (h : IsWhole whole) (hsign : sign ∈ [[], ['-']]) :
    ∃ p, p.phase ∈ [.zero, .whole] ∧ LexState.start.Leads (sign ++ whole) (.number p) := by
  simp only [List.mem_cons, List.not_mem_nil, or_false] at hsign
  cases h with
  | zero =>
    rcases hsign with rfl | rfl
    · exact ⟨{ phase := .zero }, by decide, .single rfl⟩
    · exact ⟨{ phase := .zero, negative := true }, by decide, .cons rfl (.single rfl)⟩
  | @digits d ds hd hzero hds =>
    have hfirst : ∃ q, q.phase = .whole ∧ LexState.start.Leads (sign ++ [d]) (.number q) := by
      rcases hsign with rfl | rfl
      · exact ⟨_, phase_addWhole .., .single (step_start_of_isDigit hd hzero)⟩
      · refine ⟨_, phase_addWhole { phase := .sign, negative := true } d, .cons rfl (.single ?_)⟩
        simp [LexState.step, Numeral.Partial.next?, hd, hzero]
    obtain ⟨q, hq, hstart⟩ := hfirst
    obtain ⟨p, hp, hleads⟩ := leads_digits hds (by rw [hq]; decide)
    refine ⟨p, by rw [hp, hq]; decide, ?_⟩
    simpa using hstart.append hleads

theorem IsFraction.leads (h : IsFraction fraction) (hp : p.phase ∈ [.zero, .whole]) :
    ∃ q, q.phase ∈ [.zero, .whole, .fraction] ∧
      (LexState.number p).Leads fraction (.number q) := by
  cases h with
  | absent => exact ⟨p, by grind, .refl _⟩
  | present digits =>
    obtain ⟨q, hq, hleads⟩ := digits.leads (p := { p with phase := .point }) .fraction (by decide)
      fun d hd => ⟨_, phase_addFraction _ d, by rw [Numeral.Partial.next?]; exact if_pos hd⟩
    refine ⟨q, by rw [hq]; decide, .cons ?_ hleads⟩
    simp only [List.mem_cons, List.not_mem_nil, or_false] at hp
    rcases hp with h | h <;> simp [LexState.step, Numeral.Partial.next?, h]

theorem IsExponent.leads (h : IsExponent exponent) (hp : p.phase ∈ [.zero, .whole, .fraction]) :
    ∃ q, q.mayEnd none ∧ (LexState.number p).Leads exponent (.number q) := by
  simp only [List.mem_cons, List.not_mem_nil, or_false] at hp
  cases h with
  | absent => exact ⟨p, by rcases hp with h | h | h <;> simp [Numeral.Partial.mayEnd, h], .refl _⟩
  | @present mark sign ds hmark hsign digits =>
    have hmark : (LexState.number p).Leads [mark] (.number { p with phase := .mark }) := by
      refine .single ?_
      simp only [List.mem_cons, List.not_mem_nil, or_false] at hmark
      rcases hp with h | h | h <;> rcases hmark with rfl | rfl <;>
        simp [LexState.step, Numeral.Partial.next?, h]
    -- With a sign or without one, digits have to come next.
    obtain ⟨q, hsigned, hfirst⟩ : ∃ q,
        (LexState.number { p with phase := .mark }).Leads sign (.number q) ∧
        ∀ d, d.isDigit → ∃ q', q'.phase = .power ∧ q.next? d = some q' := by
      simp only [List.mem_cons, List.not_mem_nil, or_false] at hsign
      rcases hsign with rfl | rfl | rfl
      · refine ⟨_, .refl _, fun d hd => ⟨{ p with phase := .mark }.addPower d, rfl, ?_⟩⟩
        have hplus : d ≠ '+' := by rintro rfl; exact absurd hd (by decide)
        have hminus : d ≠ '-' := by rintro rfl; exact absurd hd (by decide)
        simp [Numeral.Partial.next?, hplus, hminus, hd]
      · exact ⟨{ p with phase := .markSign }, .single rfl, fun d hd => ⟨_, rfl, if_pos hd⟩⟩
      · exact ⟨{ p with phase := .markSign, powerNegative := true }, .single rfl,
          fun d hd => ⟨_, rfl, if_pos hd⟩⟩
    obtain ⟨p', hp', hleads⟩ := digits.leads .power (by decide) hfirst
    refine ⟨p', by simp [Numeral.Partial.mayEnd, hp'], ?_⟩
    simpa using hmark.append (hsigned.append hleads)

theorem IsNumber.scansTo {text : List Char} (h : IsNumber text) :
    ∃ n, ScansTo text [.number n] := by
  obtain ⟨hsign, hwhole, hfraction, hexponent⟩ := h
  obtain ⟨p, hp, hstart⟩ := hwhole.leads hsign
  obtain ⟨q, hq, hmiddle⟩ := hfraction.leads hp
  obtain ⟨r, hr, hend⟩ := hexponent.leads hq
  refine ⟨r.value, fun read more hmore => ?_⟩
  rw [← List.append_assoc, (hstart.append (hmiddle.append hend)) read more]
  exact run_number hr read hmore

end Numbers

/-! ## Strings -/

/-- Inside a string, where a character may begin. -/
inductive Quoting.Open : Quoting → Prop where
  | plain : Open .plain
  | lead (code : Nat) : Open (.lead code)

/-- Inside a string of which no piece is a bare control character. -/
def InString (s : LexState) : Prop :=
  ∃ pieces place, s = .string pieces place ∧ NoControl pieces ∧ place.Open

section Strings
variable {pieces : List Piece} {place : Quoting}

theorem NoControl.char (h : NoControl pieces) (c : Char) : NoControl (.char c :: pieces) := by
  intro d hd
  rcases List.mem_cons.mp hd with hd | hd
  · cases hd
  · exact h d hd

theorem NoControl.surrogate (h : NoControl pieces) (code : Nat) :
    NoControl (.surrogate code :: pieces) := by
  intro d hd
  rcases List.mem_cons.mp hd with hd | hd
  · cases hd
  · exact h d hd

/-- A code is followed by what may begin a character. -/
theorem afterHex_open (h : NoControl pieces) (high : Option Nat) (code : Nat) :
    NoControl (afterHex pieces high code).1 ∧ (afterHex pieces high code).2.Open := by
  unfold afterHex
  split
  · split
    · exact ⟨h.char _, .plain⟩
    · split
      · exact ⟨h.surrogate _, .lead _⟩
      · exact ⟨(h.surrogate _).char _, .plain⟩
  · split
    · exact ⟨h.surrogate _, .plain⟩
    · split
      · exact ⟨h, .lead _⟩
      · exact ⟨h.char _, .plain⟩

theorem leads_plain (h : NoControl pieces) (hplace : place.Open) {c : Char} (hquote : c ≠ '"')
    (hbackslash : c ≠ '\\') (hcontrol : isControl c = false) :
    ∃ s, InString s ∧ (LexState.string pieces place).Leads [c] s := by
  cases hplace with
  | plain =>
    refine ⟨_, ⟨_, _, rfl, h.char c, .plain⟩, .single ?_⟩
    simp [LexState.step, Quoting.step, Quoting.plainStep, hquote, hbackslash, hcontrol]
  | lead code =>
    refine ⟨_, ⟨_, _, rfl, (h.surrogate code).char c, .plain⟩, .single ?_⟩
    simp [LexState.step, Quoting.step, Quoting.plainStep, hquote, hbackslash, hcontrol]

/-- A backslash begins an escape, which knows of a leading surrogate half before it. -/
theorem step_backslash (pieces : List Piece) (hplace : place.Open) :
    ∃ high, (LexState.string pieces place).step '\\' =
      ([], some (.string pieces (.escape high))) := by
  cases hplace with
  | plain => exact ⟨none, rfl⟩
  | lead code => exact ⟨some code, rfl⟩

theorem leads_letter (h : NoControl pieces) (high : Option Nat) {c : Char}
    (hc : c ∈ ['"', '\\', '/', 'b', 'f', 'n', 'r', 't']) :
    ∃ s, InString s ∧ (LexState.string pieces (.escape high)).Leads [c] s := by
  obtain ⟨hu, hsome⟩ : c ≠ 'u' ∧ (escaped? c).isSome := by
    simp only [List.mem_cons, List.not_mem_nil, or_false] at hc
    rcases hc with rfl | rfl | rfl | rfl | rfl | rfl | rfl | rfl <;> decide
  obtain ⟨e, he⟩ := Option.isSome_iff_exists.mp hsome
  cases high with
  | none =>
    refine ⟨_, ⟨_, _, rfl, h.char e, .plain⟩, .single ?_⟩
    simp [LexState.step, Quoting.step, hu, he]
  | some code =>
    refine ⟨_, ⟨_, _, rfl, (h.surrogate code).char e, .plain⟩, .single ?_⟩
    simp [LexState.step, Quoting.step, hu, he]

/-- A digit of a code that is not its last. -/
theorem step_hexDigit {c : Char} {n : Nat} (hc : Text.hexDigit? c = some n) {count : Nat}
    (hcount : count ≠ 3) (pieces : List Piece) (high : Option Nat) (value : Nat) :
    (LexState.string pieces (.hex high count value)).step c =
      ([], some (.string pieces (.hex high (count + 1) (value * 16 + n)))) := by
  simp [LexState.step, Quoting.step, hc, hcount]

theorem leads_code (h : NoControl pieces) (high : Option Nat) {a b c d : Char}
    (hcode : ∀ x ∈ [a, b, c, d], x ∈ hexDigits) :
    ∃ s, InString s ∧ (LexState.string pieces (.escape high)).Leads ['u', a, b, c, d] s := by
  have hall : hexDigits.all (fun x => (Text.hexDigit? x).isSome) = true := by decide
  have hdigit (x : Char) (hx : x ∈ [a, b, c, d]) : ∃ n, Text.hexDigit? x = some n :=
    Option.isSome_iff_exists.mp (List.all_eq_true.mp hall x (hcode x hx))
  obtain ⟨k, ha⟩ := hdigit a (by simp)
  obtain ⟨l, hb⟩ := hdigit b (by simp)
  obtain ⟨m, hc⟩ := hdigit c (by simp)
  obtain ⟨n, hd⟩ := hdigit d (by simp)
  obtain ⟨hpieces, hplace⟩ := afterHex_open h high ((((0 * 16 + k) * 16 + l) * 16 + m) * 16 + n)
  refine ⟨_, ⟨_, _, rfl, hpieces, hplace⟩, .cons rfl ?_⟩
  refine .cons (step_hexDigit ha (by decide) ..) (.cons (step_hexDigit hb (by decide) ..)
    (.cons (step_hexDigit hc (by decide) ..) (.single ?_)))
  simp [LexState.step, Quoting.step, hd]

theorem IsPart.leads {part : List Char} (hpart : IsPart part) {s : LexState} (h : InString s) :
    ∃ s', InString s' ∧ s.Leads part s' := by
  obtain ⟨pieces, place, rfl, hpieces, hplace⟩ := h
  cases hpart with
  | plain hquote hbackslash hcontrol => exact leads_plain hpieces hplace hquote hbackslash hcontrol
  | letter hc =>
    obtain ⟨high, hstep⟩ := step_backslash pieces hplace
    obtain ⟨s', hs', hleads⟩ := leads_letter hpieces high hc
    exact ⟨s', hs', .cons hstep hleads⟩
  | code hcode =>
    obtain ⟨high, hstep⟩ := step_backslash pieces hplace
    obtain ⟨s', hs', hleads⟩ := leads_code hpieces high hcode
    exact ⟨s', hs', .cons hstep hleads⟩

theorem leads_parts {parts : List (List Char)} (hparts : ∀ part ∈ parts, IsPart part)
    {s : LexState} (h : InString s) : ∃ s', InString s' ∧ s.Leads parts.flatten s' := by
  induction parts generalizing s with
  | nil => exact ⟨s, h, .refl s⟩
  | cons part parts ih =>
    obtain ⟨hpart, hparts⟩ := List.forall_mem_cons.mp hparts
    obtain ⟨s', hs', hfirst⟩ := hpart.leads h
    obtain ⟨s'', hs'', hrest⟩ := ih hparts hs'
    exact ⟨s'', hs'', hfirst.append hrest⟩

theorem IsString.scansTo {text : List Char} (h : IsString text) :
    ∃ pieces, NoControl pieces ∧ ScansTo text [.string pieces .closed] := by
  obtain ⟨hparts⟩ := h
  obtain ⟨s, ⟨pieces, place, rfl, hpieces, hplace⟩, hleads⟩ :=
    leads_parts hparts (s := .string [] .plain) ⟨[], .plain, rfl, by simp [NoControl], .plain⟩
  have hopen : LexState.start.step '"' = ([], some (.string [] .plain)) := rfl
  obtain ⟨all, hall, hclose⟩ : ∃ all, NoControl all ∧ (LexState.string pieces place).step '"' =
      ([.string all.reverse .closed], some .start) := by
    cases hplace with
    | plain => exact ⟨pieces, hpieces, rfl⟩
    | lead code => exact ⟨_, hpieces.surrogate code, rfl⟩
  refine ⟨all.reverse, fun c => by simpa using hall c, fun read more _ => ?_⟩
  have htext := (Leads.cons hopen hleads) read ('"' :: more)
  rw [LexState.run_step hclose] at htext
  simpa using htext

end Strings

/-- **A scalar is scanned to one token**, which is no misspelt one. -/
theorem IsScalar.scansTo {text : List Char} (h : IsScalar text) :
    ∃ t, Token.Scalar t ∧ ScansTo text [t] := by
  cases h with
  | name mem =>
    simp only [List.mem_cons, List.not_mem_nil, or_false] at mem
    rcases mem with rfl | rfl | rfl
    · exact ⟨.null, .null, fun _ _ _ => rfl⟩
    · exact ⟨.bool true, .bool true, fun _ _ _ => rfl⟩
    · exact ⟨.bool false, .bool false, fun _ _ _ => rfl⟩
  | number h =>
    obtain ⟨n, hn⟩ := h.scansTo
    exact ⟨.number n, .number n, hn⟩
  | string h =>
    obtain ⟨pieces, hpieces, hscan⟩ := h.scansTo
    exact ⟨.string pieces .closed, .string hpieces, hscan⟩

end UsbHost.Json
