import UsbHost.Json.Printer
import UsbHost.Json.Token

/-! # What was written is scanned as it was meant

A value has its tokens (`Json.tokens`), and both layouts of it are scanned to these
(`Fits.scansTo_render`, `Fits.scansTo_renderPretty`), as long as its numbers fit 64 bits.  A part of
a text is scanned to tokens of its own, whatever comes before and after it (`ScansTo`); only after a
number it matters what comes next, which has to be a mark or a blank.
-/
namespace UsbHost.Json

/-! ## The tokens of a value -/

/-- The token of a string. -/
def literal (s : String) : Token := .string (s.toList.map .char) .closed

/-- The parts with commas between them. -/
def separated (parts : List (List Token)) : List Token := (parts.intersperse [.comma]).flatten

/-- The tokens of a value. -/
def tokens : Json → List Token
  | .null => [.null]
  | .bool b => [.bool b]
  | .number n => [.number (.integer n)]
  | .string s => [literal s]
  | .array items => .openArray :: (separated (items.map tokens) ++ [.closeArray])
  | .object members =>
    .openObject :: (separated (members.map fun m => literal m.1 :: .colon :: m.2.tokens)
      ++ [.closeObject])
termination_by v => sizeOf v
decreasing_by
  · have := List.sizeOf_lt_of_mem ‹_ ∈ items›
    simp; omega
  · have := List.sizeOf_lt_of_mem ‹_ ∈ members›
    cases m; simp at *; omega

/-- The tokens of a member. -/
def memberTokens (m : String × Json) : List Token := literal m.1 :: .colon :: m.2.tokens

theorem tokens_object (members : List (String × Json)) :
    (object members).tokens =
      .openObject :: (separated (members.map memberTokens) ++ [.closeObject]) := by
  rw [tokens]
  rfl

/-- The numbers fit 64 bits, and arrays and objects are nested at most `depth` deep. -/
inductive Fits : (depth : Nat) → Json → Prop where
  | null {depth : Nat} : Fits depth .null
  | bool {depth : Nat} (b : Bool) : Fits depth (.bool b)
  | number {depth : Nat} {n : Int} (low : -0x8000000000000000 ≤ n)
      (high : n < 0x10000000000000000) : Fits depth (.number n)
  | string {depth : Nat} (s : String) : Fits depth (.string s)
  | array {depth : Nat} {items : List Json} (fit : ∀ v ∈ items, Fits depth v) :
      Fits (depth + 1) (.array items)
  | object {depth : Nat} {members : List (String × Json)} (fit : ∀ m ∈ members, Fits depth m.2) :
      Fits (depth + 1) (.object members)

@[simp] theorem separated_singleton (part : List Token) : separated [part] = part := by
  simp [separated]

theorem separated_cons_cons (part next : List Token) (parts : List (List Token)) :
    separated (part :: next :: parts) = part ++ .comma :: separated (next :: parts) := by
  simp [separated]

@[simp] theorem joined_singleton (separator part : List Char) : joined separator [part] = part := by
  simp [joined]

theorem joined_cons_cons (separator part next : List Char) (parts : List (List Char)) :
    joined separator (part :: next :: parts) =
      part ++ (separator ++ joined separator (next :: parts)) := by
  simp [joined]

/-! ## Scanning a part of a text -/

/-- A number may stand before the text. -/
def Delimits (text : List Char) : Prop :=
  ∀ c ∈ text.head?, c ∈ [',', ':', ']', '}', ' ', '\n', '\t', '\r']

/-- The text is scanned to the tokens, whatever comes before and after it. -/
def ScansTo (text : List Char) (tokens : List Token) : Prop :=
  ∀ read more, Delimits more →
    LexState.start.run read (text ++ more) = LexState.start.run (tokens.reverse ++ read) more

theorem LexState.run_step {s s' : LexState} {c : Char} {tokens : List Token}
    (h : s.step c = (tokens, some s')) (read : List Token) (more : List Char) :
    s.run read (c :: more) = s'.run (tokens.reverse ++ read) more := by
  rw [LexState.run, h]

theorem scan_eq_of_scansTo {text : List Char} {tokens : List Token} (h : ScansTo text tokens) :
    scan text = tokens := by
  have hrun := h [] [] (by simp [Delimits])
  rw [List.append_nil] at hrun
  rw [scan, hrun]
  simp [LexState.run, LexState.finish]

namespace ScansTo

variable {text text' : List Char} {tokens tokens' : List Token}

theorem nil : ScansTo [] [] := fun _ _ _ => rfl

theorem append (h : ScansTo text tokens) (h' : ScansTo text' tokens')
    (hd : ∀ more, Delimits more → Delimits (text' ++ more)) :
    ScansTo (text ++ text') (tokens ++ tokens') := by
  intro read more hmore
  rw [List.append_assoc, h _ _ (hd more hmore), h' _ _ hmore, List.reverse_append,
    List.append_assoc]

/-- A mark is a token by itself. -/
theorem mark {c : Char} {t : Token} (hc : startStep c = ([t], some .start))
    (h : ScansTo text tokens) : ScansTo (c :: text) (t :: tokens) := by
  intro read more hmore
  have hstep : LexState.start.step c = ([t], some .start) := hc
  rw [List.cons_append, LexState.run_step hstep, h _ _ hmore]
  simp

theorem blank {c : Char} (hc : isBlank c) (h : ScansTo text tokens) :
    ScansTo (c :: text) tokens := by
  intro read more hmore
  have hstep : LexState.start.step c = ([], some .start) := by simp [LexState.step, startStep, hc]
  rw [List.cons_append, LexState.run_step hstep, List.reverse_nil, List.nil_append, h _ _ hmore]

theorem blanks (blanks : List Char) (hblanks : ∀ c ∈ blanks, isBlank c)
    (h : ScansTo text tokens) : ScansTo (blanks ++ text) tokens := by
  induction blanks with
  | nil => exact h
  | cons c blanks ih =>
    exact .blank (hblanks c List.mem_cons_self)
      (ih fun c' hc' => hblanks c' (List.mem_cons_of_mem c hc'))

/-- Parts that are scanned one by one may be joined by a comma and blanks. -/
theorem joined {α : Type} {write : α → List Char} {meant : α → List Token} (blanks : List Char)
    (hblanks : ∀ c ∈ blanks, isBlank c) {as : List α}
    (h : ∀ a ∈ as, ScansTo (write a) (meant a)) :
    ScansTo (Json.joined (',' :: blanks) (as.map write)) (separated (as.map meant)) := by
  induction as with
  | nil => exact nil
  | cons a as ih =>
    have first := h a List.mem_cons_self
    have rest := ih fun b hb => h b (List.mem_cons_of_mem a hb)
    cases as with
    | nil => simpa using first
    | cons b as =>
      rw [List.map_cons, List.map_cons, joined_cons_cons, List.map_cons, List.map_cons,
        separated_cons_cons]
      exact first.append (.mark rfl (.blanks blanks hblanks rest)) fun more _ => by simp [Delimits]

end ScansTo

/-! ## Numbers -/

/-- A number of which only whole digits have been read. -/
def Numeral.Partial.ofWhole (negative : Bool) (n : Nat) : Numeral.Partial :=
  { phase := .whole, negative, significand := n }

open Numeral.Partial (ofWhole)

theorem digitValue_digitChar : ∀ d < 10, Numeral.Partial.digitValue d.digitChar = d := by decide

theorem next?_ofWhole {negative : Bool} {n d : Nat} (hd : d < 10)
    (hsmall : 10 * n + d < UInt64.size) :
    (ofWhole negative n).next? d.digitChar = some (ofWhole negative (10 * n + d)) := by
  simpa [Numeral.Partial.next?, ofWhole, Nat.isDigit_digitChar, hd, Numeral.Partial.addWhole,
    digitValue_digitChar d hd, Nat.mul_comm n 10] using hsmall

/-- The digits of a number are read one by one after the first, which `s` reads. -/
theorem run_toDigits {s : LexState} {negative : Bool}
    (hfirst : ∀ d < 10, 0 < d → s.step d.digitChar = ([], some (.number (ofWhole negative d))))
    {n : Nat} (hpos : 0 < n) (hsmall : n < UInt64.size) (read : List Token) (more : List Char) :
    s.run read (Nat.toDigits 10 n ++ more) =
      (LexState.number (ofWhole negative n)).run read more := by
  induction n using Nat.strongRecOn generalizing more with
  | _ n ih =>
    by_cases hn : n < 10
    · rw [Nat.toDigits_of_lt_base hn]
      exact LexState.run_step (hfirst n hn hpos) read more
    · have hstep : (LexState.number (ofWhole negative (n / 10))).step (n % 10).digitChar =
          ([], some (.number (ofWhole negative n))) := by
        have hnext : (ofWhole negative (n / 10)).next? (n % 10).digitChar = _ :=
          next?_ofWhole (Nat.mod_lt n (by decide)) (by omega)
        rw [Nat.div_add_mod] at hnext
        rw [LexState.step, hnext]
      rw [Nat.toDigits_of_base_le (by decide) (by omega), List.append_assoc,
        ih (n / 10) (by omega) (by omega) (by omega)]
      exact LexState.run_step hstep read more

/-- What a number may stand before does not continue it. -/
theorem not_digit_of_delimits : ∀ c ∈ [',', ':', ']', '}', ' ', '\n', '\t', '\r'],
    c.isDigit = false ∧ c ≠ '.' ∧ c ≠ 'e' ∧ c ≠ 'E' := by
  intro c hc
  simp only [List.mem_cons, List.not_mem_nil, or_false] at hc
  rcases hc with rfl | rfl | rfl | rfl | rfl | rfl | rfl | rfl <;> decide

/-- Before a mark or a blank a number ends, if it may end. -/
theorem run_number {p : Numeral.Partial} (hend : p.mayEnd none) (read : List Token)
    {more : List Char} (hmore : Delimits more) :
    (LexState.number p).run read more = LexState.start.run (.number p.value :: read) more := by
  cases more with
  | nil => simp [LexState.run, LexState.finish, hend]
  | cons c more =>
    obtain ⟨hdigit, hpoint, hmark⟩ := not_digit_of_delimits c (hmore c rfl)
    have hstop : p.next? c = none ∧ p.mayEnd (some c) := by
      cases hphase : p.phase <;>
        simp_all [Numeral.Partial.next?, Numeral.Partial.mayEnd]
    rw [LexState.run, LexState.run]
    simp only [LexState.step, hstop, if_true]
    rcases startStep c with ⟨tokens, _ | s⟩ <;> simp

theorem step_start_digit :
    ∀ d < 10, 0 < d →
      LexState.start.step d.digitChar = ([], some (.number (ofWhole false d))) := by decide

theorem step_sign_digit :
    ∀ d < 10, 0 < d →
      (LexState.number { phase := .sign, negative := true }).step d.digitChar =
        ([], some (.number (ofWhole true d))) := by decide

theorem renderNumber_ofNat (n : Nat) : renderNumber n = Nat.toDigits 10 n := by
  simp [renderNumber, toString, Int.repr, Nat.repr]

theorem renderNumber_negSucc (n : Nat) :
    renderNumber (.negSucc n) = '-' :: Nat.toDigits 10 (n + 1) := by
  simp [renderNumber, toString, Int.repr, Nat.repr]

theorem scansTo_renderNumber {n : Int} (low : -0x8000000000000000 ≤ n)
    (high : n < 0x10000000000000000) : ScansTo (renderNumber n) [.number (.integer n)] := by
  intro read more hmore
  cases n with
  | ofNat n =>
    rw [Int.ofNat_eq_natCast] at high ⊢
    rw [renderNumber_ofNat]
    cases Nat.eq_zero_or_pos n with
    | inl hzero =>
      have hstep : LexState.start.step '0' = ([], some (.number { phase := .zero })) := rfl
      rw [hzero, Nat.toDigits_of_lt_base (by decide)]
      exact (LexState.run_step hstep read more).trans (run_number rfl read hmore)
    | inr hpos =>
      have hsmall : n < UInt64.size := by rw [UInt64.size]; omega
      exact (run_toDigits step_start_digit hpos hsmall read more).trans
        (run_number rfl read hmore)
  | negSucc n =>
    have hstep : LexState.start.step '-' =
        ([], some (.number { phase := .sign, negative := true })) := rfl
    have hsmall : n + 1 < UInt64.size := by rw [UInt64.size]; omega
    have hvalue : (ofWhole true (n + 1)).value = .integer (.negSucc n) := by
      have hle : n + 1 ≤ 0x8000000000000000 := by omega
      simp [Numeral.Partial.value, ofWhole, hle, Int.negSucc_eq]
    rw [renderNumber_negSucc, List.cons_append, LexState.run_step hstep, List.reverse_nil,
      List.nil_append, run_toDigits step_sign_digit (by omega) hsmall,
      run_number rfl read hmore, hvalue]
    rfl

/-! ## Strings -/

theorem hexDigit?_hexDigit : ∀ n < 16, Text.hexDigit? (hexDigit n) = some n := by decide

/-- A control character is escaped by its code. -/
theorem run_hex {c : Char} (hc : c.toNat < 0x20) (pieces : List Piece) (read : List Token)
    (more : List Char) :
    (LexState.string pieces .plain).run read
        ('\\' :: 'u' :: '0' :: '0' :: hexDigit (c.toNat / 16) :: hexDigit (c.toNat % 16) :: more) =
      (LexState.string (.char c :: pieces) .plain).run read more := by
  have hhigh : (LexState.string pieces (.hex none 2 0)).step (hexDigit (c.toNat / 16)) =
      ([], some (.string pieces (.hex none 3 (c.toNat / 16)))) := by
    simp [LexState.step, Quoting.step, hexDigit?_hexDigit (c.toNat / 16) (by omega)]
  have hcode : afterHex pieces none (c.toNat / 16 * 16 + c.toNat % 16) =
      (.char c :: pieces, .plain) := by
    rw [Nat.div_add_mod']
    have htrail : isTrail c.toNat = false := by simp [isTrail]; omega
    have hlead : isLead c.toNat = false := by simp [isLead]; omega
    simp [afterHex, htrail, hlead]
  have hlow : (LexState.string pieces (.hex none 3 (c.toNat / 16))).step (hexDigit (c.toNat % 16)) =
      ([], some (.string (.char c :: pieces) .plain)) := by
    simp [LexState.step, Quoting.step, hexDigit?_hexDigit (c.toNat % 16) (by omega), hcode]
  calc (LexState.string pieces .plain).run read _
    _ = (LexState.string pieces (.hex none 2 0)).run read
          (hexDigit (c.toNat / 16) :: hexDigit (c.toNat % 16) :: more) := rfl
    _ = (LexState.string pieces (.hex none 3 (c.toNat / 16))).run read
          (hexDigit (c.toNat % 16) :: more) := LexState.run_step hhigh ..
    _ = _ := LexState.run_step hlow ..

theorem run_escape (c : Char) (pieces : List Piece) (read : List Token) (more : List Char) :
    (LexState.string pieces .plain).run read (escape c ++ more) =
      (LexState.string (.char c :: pieces) .plain).run read more := by
  unfold escape
  split
  iterate 7 rfl
  split
  · rename_i hcontrol
    exact run_hex hcontrol pieces read more
  · rename_i hquote hbackslash _ _ _ _ _ hcontrol
    have hstep : (LexState.string pieces .plain).step c =
        ([], some (.string (.char c :: pieces) .plain)) := by
      rw [LexState.step, Quoting.step, Quoting.plainStep, if_neg hquote, if_neg hbackslash]
      simp [isControl, hcontrol]
    exact LexState.run_step hstep read more

theorem run_flatMap_escape (chars : List Char) (pieces : List Piece) (read : List Token)
    (more : List Char) :
    (LexState.string pieces .plain).run read (chars.flatMap escape ++ more) =
      (LexState.string ((chars.map .char).reverse ++ pieces) .plain).run read more := by
  induction chars generalizing pieces with
  | nil => rfl
  | cons c chars ih => simp [run_escape, ih]

theorem run_quote (s : String) (read : List Token) (more : List Char) :
    LexState.start.run read (quote s ++ more) = LexState.start.run (literal s :: read) more := by
  have hopen : LexState.start.step '"' = ([], some (.string [] .plain)) := rfl
  have hclose : (LexState.string ((s.toList.map .char).reverse ++ []) .plain).step '"' =
      ([literal s], some .start) := by
    simp [LexState.step, Quoting.step, Quoting.plainStep, literal]
  rw [quote, List.cons_append, List.append_assoc, LexState.run_step hopen, run_flatMap_escape]
  exact LexState.run_step hclose _ more

namespace ScansTo

theorem quote (s : String) : ScansTo (quote s) [literal s] := fun read more _ =>
  run_quote s read more

theorem quote_append (s : String) {text : List Char} {tokens : List Token}
    (h : ScansTo text tokens) : ScansTo (Json.quote s ++ text) (literal s :: tokens) := by
  intro read more hmore
  rw [List.append_assoc, run_quote, h _ _ hmore]
  simp

end ScansTo

/-! ## Values -/

/-- **A value on one line is scanned to its tokens.** -/
theorem Fits.scansTo_render {depth : Nat} {v : Json} (h : Fits depth v) :
    ScansTo (render v) v.tokens := by
  induction h with
  | null => rw [render, tokens]; exact fun _ _ _ => rfl
  | bool b => cases b <;> (rw [render, tokens]; exact fun _ _ _ => rfl)
  | number low high => rw [render, tokens]; exact scansTo_renderNumber low high
  | string s => rw [render, tokens]; exact .quote s
  | array _ ih =>
    rw [render, tokens]
    exact .mark rfl ((ScansTo.joined [] (by simp) ih).append (.mark rfl .nil) (by simp [Delimits]))
  | object _ ih =>
    rw [render, tokens]
    refine .mark rfl ((ScansTo.joined [] (by simp) fun m hm => ?_).append (.mark rfl .nil)
      (by simp [Delimits]))
    exact .quote_append m.1 (.mark rfl (ih m hm))

theorem isBlank_of_mem_lineStart {level : Nat} {c : Char} (h : c ∈ lineStart level) :
    isBlank c := by
  rcases List.mem_cons.mp h with rfl | h
  · rfl
  · rw [List.eq_of_mem_replicate h]; rfl

/-- What is written between brackets, on lines of its own. -/
theorem ScansTo.lines {text : List Char} {tokens : List Token} {close : Char} {t : Token}
    (hclose : startStep close = ([t], some .start)) (level : Nat) (h : ScansTo text tokens) :
    ScansTo (lineStart (level + 1) ++ text ++ lineStart level ++ [close]) (tokens ++ [t]) := by
  have first := ScansTo.blanks (lineStart (level + 1)) (fun _ => isBlank_of_mem_lineStart) h
  have last := ScansTo.blanks (lineStart level) (fun _ => isBlank_of_mem_lineStart)
    (.mark hclose .nil)
  rw [List.append_assoc _ (lineStart level)]
  exact first.append last fun more _ => by simp [Delimits, lineStart]

/-- **A value that is written a line for each item and member is scanned to the same tokens.** -/
theorem Fits.scansTo_renderPretty {depth : Nat} {v : Json} (h : Fits depth v) (level : Nat) :
    ScansTo (renderPretty level v) v.tokens := by
  induction h generalizing level with
  | null => rw [renderPretty, tokens]; exact fun _ _ _ => rfl
  | bool b => cases b <;> (rw [renderPretty, tokens]; exact fun _ _ _ => rfl)
  | number low high => rw [renderPretty, tokens]; exact scansTo_renderNumber low high
  | string s => rw [renderPretty, tokens]; exact .quote s
  | @array _ items _ ih =>
    have inner := ScansTo.joined (lineStart (level + 1))
      (fun _ => isBlank_of_mem_lineStart) fun v hv => ih v hv (level + 1)
    cases items with
    | nil => rw [renderPretty, tokens]; exact .mark rfl (.mark rfl .nil)
    | cons v items =>
      rw [renderPretty, tokens]
      · exact .mark rfl (inner.lines rfl level)
      · exact List.cons_ne_nil v items
  | @object _ members _ ih =>
    have member : ∀ m ∈ members,
        ScansTo (Json.quote m.1 ++ ':' :: ' ' :: renderPretty (level + 1) m.2)
          (literal m.1 :: .colon :: m.2.tokens) := fun m hm =>
      .quote_append m.1 (.mark rfl (.blank rfl (ih m hm _)))
    have inner := ScansTo.joined (lineStart (level + 1))
      (fun _ => isBlank_of_mem_lineStart) member
    cases members with
    | nil => rw [renderPretty, tokens]; exact .mark rfl (.mark rfl .nil)
    | cons m members =>
      rw [renderPretty, tokens]
      · exact .mark rfl (inner.lines rfl level)
      · exact List.cons_ne_nil m members

end UsbHost.Json
