import UsbHost.Toml.Quoted

/-! # Quoted texts are read as they were written

Every text can be quoted, and what was quoted is read again, in whichever of the four
forms it stands (`Quoted.read_write`).  What follows must not begin with a quote, as
that could be taken for one of the closing quotes.

Between three quotes a row of quotes may stand for itself.  The writer escapes each
third of a row, and chooses the form without escapes only for rows of at most two, so
three quotes are met at the end only.
-/
namespace UsbHost.Toml.Quoted

variable {c : Char} {text rest more : List Char} {row : Nat}

/-- Characters that were read stand before what is read after them. -/
def After (chars : List Char) (found : Option (List Char × List Char)) :
    Option (List Char × List Char) :=
  found.map fun (text, rest) => (chars ++ text, rest)

-- Nearly all that follows rewrites with the equations of these, which are made here once.
attribute [local simp] readBasic readLongBasic readLongLiteral

/-! ## Escapes -/

theorem toList_hex (width n : Nat) : (Text.hex width n).toList =
    List.replicate (width - (Nat.toDigits 16 n).length) '0' ++ Nat.toDigits 16 n := by
  simp [Text.hex, Text.digits]

/-- The code of a character has four digits, which are read as this character. -/
theorem hexChar?_hex : ∀ n < 0x80,
    ((Text.hex 4 n).toList.map Char.toUpper).length = 4 ∧
      hexChar? ((Text.hex 4 n).toList.map Char.toUpper) = some (Char.ofNat n) := by
  simp only [toList_hex]
  decide

/-- A code is four hexadecimal digits. -/
theorem exists_code (hc : c.toNat < 0x80) :
    ∃ a b d e, (Text.hex 4 c.toNat).toList.map Char.toUpper = [a, b, d, e] ∧
      hexChar? [a, b, d, e] = some c := by
  obtain ⟨hlength, hchar⟩ := hexChar?_hex c.toNat hc
  rw [Char.ofNat_toNat] at hchar
  match hdigits : (Text.hex 4 c.toNat).toList.map Char.toUpper, hlength with
  | [a, b, d, e], _ => exact ⟨a, b, d, e, rfl, hdigits ▸ hchar⟩

/-- A letter after a backslash stands for a character by itself, and begins no code. -/
theorem ne_of_escaped {e : Char} (h : readBasic.escaped? e = some c) : e ≠ 'u' ∧ e ≠ 'U' := by
  constructor <;> rintro rfl <;> cases h

theorem readBasic_letter {e : Char} (h : readBasic.escaped? e = some c) (cs : List Char) :
    readBasic ('\\' :: e :: cs) = After [c] (readBasic cs) := by
  obtain ⟨hu, hU⟩ := ne_of_escaped h
  rw [readBasic, h]
  · cases readBasic cs <;> rfl
  · exact fun _ _ _ _ _ heq => absurd heq hu
  · exact fun _ _ _ _ _ _ _ _ _ heq => absurd heq hU

theorem readBasic_escape (hc : c.toNat < 0x80) (cs : List Char) :
    readBasic (escape c ++ cs) = After [c] (readBasic cs) := by
  unfold escape
  split
  case h_8 =>
    obtain ⟨a, b, d, e, hcode, hchar⟩ := exists_code hc
    simp only [hcode, List.cons_append, List.nil_append]
    rw [readBasic, hchar]
    cases readBasic cs <;> rfl
  all_goals exact readBasic_letter rfl cs

theorem readLongBasic_letter {e : Char} (h : readBasic.escaped? e = some c) (cs : List Char) :
    readLongBasic false ('\\' :: e :: cs) = After [c] (readLongBasic false cs) := by
  obtain ⟨hu, hU⟩ := ne_of_escaped h
  rw [readLongBasic, h]
  · cases readLongBasic false cs <;> rfl
  · exact fun _ _ _ _ _ heq => absurd heq hu
  · exact fun _ _ _ _ _ _ _ _ _ heq => absurd heq hU

theorem readLongBasic_escape (hc : c.toNat < 0x80) (cs : List Char) :
    readLongBasic false (escape c ++ cs) = After [c] (readLongBasic false cs) := by
  unfold escape
  split
  case h_8 =>
    obtain ⟨a, b, d, e, hcode, hchar⟩ := exists_code hc
    simp only [hcode, List.cons_append, List.nil_append]
    rw [readLongBasic, hchar]
    cases readLongBasic false cs <;> rfl
  all_goals exact readLongBasic_letter rfl cs

/-! ## Between one quote and the next -/

/-- What a character of an escaped text is written as. -/
theorem writeEscaped_cons (long : Bool) (row : Nat) (c : Char) (cs : List Char) :
    writeEscaped long row (c :: cs) =
      if c = '"' then
        if long && row < 2 then c :: writeEscaped long (row + 1) cs
        else escape c ++ writeEscaped long 0 cs
      else if (c = '\n' && long) || (isPrintable c && c ≠ '\\' && c ≠ '\t') then
        c :: writeEscaped long 0 cs
      else escape c ++ writeEscaped long 0 cs := rfl

/-- What is escaped has a code of at most seven bits. -/
theorem lt_of_not_plain (long : Bool)
    (h : ¬ ((c = '\n' && long) || (isPrintable c && c ≠ '\\' && c ≠ '\t'))) :
    c.toNat < 0x80 := by
  refine Nat.lt_of_not_le fun hlarge => h ?_
  have hprintable : isPrintable c = true := by
    simp only [isPrintable, Bool.or_eq_true, Bool.and_eq_true, decide_eq_true_eq]
    omega
  have hslash : c ≠ '\\' := by
    rintro rfl
    exact absurd hlarge (by decide)
  have htab : c ≠ '\t' := by
    rintro rfl
    exact absurd hlarge (by decide)
  simp [hprintable, hslash, htab]

/-- A character that stands for itself is read as it is. -/
theorem readBasic_plain (hquote : c ≠ '"') (hc : isPrintable c && c ≠ '\\' && c ≠ '\t')
    (cs : List Char) : readBasic (c :: cs) = After [c] (readBasic cs) := by
  simp only [Bool.and_eq_true, decide_eq_true_eq] at hc
  have hplain : (isPrintable c && decide (c ≠ '\\')) = true := by simpa using hc.1
  rw [readBasic, if_pos hplain]
  · cases readBasic cs <;> rfl
  · exact hquote
  · exact fun _ _ _ _ _ heq => absurd heq hc.1.2
  · exact fun _ _ _ _ _ _ _ _ _ heq => absurd heq hc.1.2
  · exact fun _ _ heq => absurd heq hc.1.2

theorem readBasic_writeEscaped (row : Nat) (text rest : List Char) :
    readBasic (writeEscaped false row text ++ '"' :: rest) = some (text, rest) := by
  induction text generalizing row with
  | nil => rfl
  | cons c cs ih =>
    rw [writeEscaped_cons]
    simp only [Bool.false_and, Bool.and_false, Bool.false_or, Bool.false_eq_true, if_false]
    split
    · case isTrue hquote =>
      rw [List.append_assoc, readBasic_escape (hquote ▸ by decide), ih]
      rfl
    · case isFalse hquote =>
      split
      · case isTrue hplain =>
        rw [List.cons_append, readBasic_plain hquote hplain, ih]
        rfl
      · case isFalse hplain =>
        have hlt : c.toNat < 0x80 := lt_of_not_plain false (by simpa using hplain)
        rw [List.append_assoc, readBasic_escape hlt, ih]
        rfl

theorem readLiteral_append (htext : ∀ c ∈ text, isPrintable c ∧ c ≠ '\'') (rest : List Char) :
    readLiteral (text ++ '\'' :: rest) = some (text, rest) := by
  induction text with
  | nil => rfl
  | cons c cs ih =>
    obtain ⟨hc, hquote⟩ := htext c (.head _)
    rw [List.cons_append, readLiteral, if_pos hc, ih fun c hc => htext c (.tail _ hc)]
    · rfl
    · exact fun heq => absurd heq hquote

/-! ## Between three quotes and the next -/

/-- What follows does not begin with a quote. -/
def Clear (rest : List Char) : Prop := ∀ c ∈ rest.head?, c ≠ '"' ∧ c ≠ '\''

/-- The closing quotes, with those before them that belong to the text. -/
theorem readLongBasic_closing (h : Clear rest) :
    ∀ n < 3, readLongBasic false (List.replicate n '"' ++ '"' :: '"' :: '"' :: rest) =
      some (List.replicate n '"', rest) := by
  have hrest : ∀ cs, rest ≠ '"' :: cs := fun cs heq => (h '"' (by rw [heq]; rfl)).1 rfl
  intro n hn
  match n, hn with
  | 0, _ =>
    show readLongBasic false ('"' :: '"' :: '"' :: rest) = _
    rw [readLongBasic]
    · rfl
    · exact fun cs heq => hrest _ heq
    · exact fun cs heq => hrest _ heq
  | 1, _ =>
    show readLongBasic false ('"' :: '"' :: '"' :: '"' :: rest) = _
    rw [readLongBasic]
    · rfl
    · exact fun cs heq => hrest _ heq
  | 2, _ => rfl

/-- A quote that is no closing one is read as it is. -/
theorem readLongBasic_quote (h : ∀ rest, more ≠ '"' :: '"' :: rest) :
    readLongBasic false ('"' :: more) = After ['"'] (readLongBasic false more) := by
  rw [readLongBasic]
  · cases readLongBasic false more <;> rfl
  · exact fun _ _ heq => h _ heq
  · exact fun _ _ heq => h _ heq
  · exact fun _ _ heq => h _ heq
  · exact fun _ _ _ _ _ heq => absurd heq (by decide)
  · exact fun _ _ _ _ _ _ _ _ _ heq => absurd heq (by decide)
  · exact fun _ _ heq => absurd heq (by decide)
  · exact fun _ heq => absurd heq (by decide)

theorem readLongBasic_plain (hquote : c ≠ '"')
    (hc : (c = '\n' && true) || (isPrintable c && c ≠ '\\' && c ≠ '\t')) (cs : List Char) :
    readLongBasic false (c :: cs) = After [c] (readLongBasic false cs) := by
  have hplain : (decide (c = '\n') || isPrintable c && decide (c ≠ '\\')) = true := by
    simp only [Bool.and_true, Bool.or_eq_true, Bool.and_eq_true] at hc ⊢
    exact hc.imp_right And.left
  have hslash : c ≠ '\\' := by
    rintro rfl
    exact absurd hc (by decide)
  have hreturn : c ≠ '\r' := by
    rintro rfl
    exact absurd hc (by decide)
  rw [readLongBasic, if_pos hplain]
  · cases readLongBasic false cs <;> rfl
  · exact fun _ heq => absurd heq hquote
  · exact fun _ heq => absurd heq hquote
  · exact fun _ heq => absurd heq hquote
  · exact fun _ _ _ _ _ heq => absurd heq hslash
  · exact fun _ _ _ _ _ _ _ _ _ heq => absurd heq hslash
  · exact fun _ _ heq => absurd heq hslash
  · exact fun _ heq => absurd heq hreturn

theorem exists_escape (c : Char) : ∃ cs, escape c = '\\' :: cs := by
  unfold escape
  split <;> exact ⟨_, rfl⟩

/-- The third quote of a row is escaped, and what is no quote begins with none. -/
theorem exists_writeEscaped (long : Bool) (row : Nat) (h : c = '"' → long = true → 2 ≤ row)
    (cs : List Char) : ∃ d ds, writeEscaped long row (c :: cs) = d :: ds ∧ d ≠ '"' := by
  obtain ⟨code, hcode⟩ := exists_escape c
  rw [writeEscaped_cons, hcode]
  split
  · case isTrue hquote =>
    split
    · case isTrue hrow =>
      rw [Bool.and_eq_true, decide_eq_true_eq] at hrow
      exact absurd (h hquote hrow.1) (Nat.not_le.mpr hrow.2)
    · exact ⟨_, _, rfl, by decide⟩
  · case isFalse hquote =>
    split
    · exact ⟨c, _, rfl, hquote⟩
    · exact ⟨_, _, rfl, by decide⟩

theorem readLongBasic_writeEscaped (hrest : Clear rest) (row : Nat) (text : List Char) :
    readLongBasic false (writeEscaped true row text ++ '"' :: '"' :: '"' :: rest) =
      some (text, rest) := by
  induction text generalizing row with
  | nil => exact readLongBasic_closing hrest 0 (by decide)
  | cons c cs ih =>
    rw [writeEscaped_cons]
    split
    · case isTrue hquote =>
      subst hquote
      by_cases hrow : row < 2
      · rw [if_pos (by simpa using hrow), List.cons_append]
        match cs with
        | [] => exact readLongBasic_closing hrest 1 (by decide)
        | d :: ds =>
          by_cases hd : d = '"' → 2 ≤ row + 1
          · obtain ⟨e, es, hes, he⟩ := exists_writeEscaped true (row + 1)
              (fun heq _ => hd heq) ds
            rw [readLongBasic_quote, ih]
            · rfl
            · rw [hes]
              exact fun _ heq => he (List.cons.inj heq).1
          · -- The row begins here, so its second quote is not escaped either.
            obtain ⟨rfl, rfl⟩ : d = '"' ∧ row = 0 := by
              obtain ⟨hd, hrow⟩ := Classical.not_imp.mp hd
              exact ⟨hd, by omega⟩
            match ds with
            | [] => exact readLongBasic_closing hrest 2 (by decide)
            | e :: es =>
              obtain ⟨f, fs, hfs, hf⟩ := exists_writeEscaped true 2
                (fun (_ : e = '"') _ => Nat.le_refl _) es
              have hsecond : writeEscaped true (0 + 1) ('"' :: e :: es) = '"' :: f :: fs := by
                rw [← hfs]
                rfl
              rw [readLongBasic_quote, ih]
              · rfl
              · rw [hsecond]
                exact fun _ heq => hf (List.cons.inj (List.cons.inj heq).2).1
      · rw [if_neg (by simpa using hrow), List.append_assoc, readLongBasic_escape (by decide), ih]
        rfl
    · case isFalse hquote =>
      split
      · case isTrue hplain =>
        rw [List.cons_append, readLongBasic_plain hquote hplain, ih]
        rfl
      · case isFalse hplain =>
        rw [List.append_assoc, readLongBasic_escape (lt_of_not_plain true hplain), ih]
        rfl

/-! ## Rows of quotes -/

/-- Counts the longest row of a character and the one that is going on. -/
def countRow (q : Char) (rows : Nat × Nat) (c : Char) : Nat × Nat :=
  if c = q then (max rows.1 (rows.2 + 1), rows.2 + 1) else (rows.1, 0)

/-- The longest row of a text that follows such rows. -/
def rowAfter (q : Char) (rows : Nat × Nat) (text : List Char) : Nat :=
  (text.foldl (countRow q) rows).1

theorem longestRow_eq (q : Char) (text : List Char) :
    longestRow q text = rowAfter q (0, 0) text := rfl

theorem le_rowAfter (q : Char) (rows : Nat × Nat) (text : List Char) :
    rows.1 ≤ rowAfter q rows text := by
  induction text generalizing rows with
  | nil => exact Nat.le_refl _
  | cons c cs ih =>
    refine Nat.le_trans ?_ (ih (countRow q rows c))
    unfold countRow
    split
    · exact Nat.le_max_left ..
    · exact Nat.le_refl _

/-- A row counts as far as it has come. -/
theorem lt_rowAfter_cons (q : Char) (rows : Nat × Nat) (cs : List Char) :
    rows.2 < rowAfter q rows (q :: cs) := by
  refine Nat.lt_of_lt_of_le ?_ (le_rowAfter q (countRow q rows q) cs)
  rw [countRow, if_pos rfl]
  exact Nat.le_max_right ..

theorem not_mem_of_rowAfter {q : Char} (rows : Nat × Nat) (h : rowAfter q rows text = 0) :
    q ∉ text := by
  induction text generalizing rows with
  | nil => exact List.not_mem_nil
  | cons c cs ih =>
    intro hmem
    rcases List.mem_cons.mp hmem with rfl | hmem
    · have hlt := lt_rowAfter_cons q rows cs
      omega
    · exact ih (countRow q rows c) h hmem

/-! ## Without escapes -/

theorem readLongLiteral_closing (h : Clear rest) :
    ∀ n < 3, readLongLiteral (List.replicate n '\'' ++ '\'' :: '\'' :: '\'' :: rest) =
      some (List.replicate n '\'', rest) := by
  have hrest : ∀ cs, rest ≠ '\'' :: cs := fun cs heq => (h '\'' (by rw [heq]; rfl)).2 rfl
  intro n hn
  match n, hn with
  | 0, _ =>
    show readLongLiteral ('\'' :: '\'' :: '\'' :: rest) = _
    rw [readLongLiteral]
    · rfl
    · exact fun cs heq => hrest _ heq
    · exact fun cs heq => hrest _ heq
  | 1, _ =>
    show readLongLiteral ('\'' :: '\'' :: '\'' :: '\'' :: rest) = _
    rw [readLongLiteral]
    · rfl
    · exact fun cs heq => hrest _ heq
  | 2, _ => rfl

/-- A character is read as it is, unless it is one of three quotes. -/
theorem readLongLiteral_cons (hc : c = '\n' || isPrintable c)
    (h : ∀ rest, c = '\'' → more ≠ '\'' :: '\'' :: rest) :
    readLongLiteral (c :: more) = After [c] (readLongLiteral more) := by
  have hreturn : c ≠ '\r' := by
    rintro rfl
    exact absurd hc (by decide)
  rw [readLongLiteral, if_pos hc]
  · cases readLongLiteral more <;> rfl
  · exact fun _ heq => h _ heq
  · exact fun _ heq => h _ heq
  · exact fun _ heq => h _ heq
  · exact fun _ heq => absurd heq hreturn

theorem readLongLiteral_append (hrest : Clear rest) (rows : Nat × Nat)
    (hrows : rowAfter '\'' rows text ≤ 2) (htext : ∀ c ∈ text, c = '\n' || isPrintable c) :
    readLongLiteral (text ++ '\'' :: '\'' :: '\'' :: rest) = some (text, rest) := by
  induction text generalizing rows with
  | nil => exact readLongLiteral_closing hrest 0 (by decide)
  | cons c cs ih =>
    have hread := ih (countRow '\'' rows c) hrows fun c hc => htext c (.tail _ hc)
    by_cases hend : c = '\'' ∧ (cs = [] ∨ cs = ['\''])
    · obtain ⟨rfl, rfl | rfl⟩ := hend
      · exact readLongLiteral_closing hrest 1 (by decide)
      · exact readLongLiteral_closing hrest 2 (by decide)
    · rw [List.cons_append, readLongLiteral_cons (htext c (.head _)), hread]
      · rfl
      · -- Three quotes in the text would be a row of three.
        rintro rest' rfl heq
        match cs with
        | [] => exact hend ⟨rfl, .inl rfl⟩
        | [d] =>
          cases heq
          exact hend ⟨rfl, .inr rfl⟩
        | d :: e :: es =>
          cases heq
          have hlt := lt_rowAfter_cons '\''
            (countRow '\'' (countRow '\'' rows '\'') '\'') es
          simp only [countRow, if_true] at hlt
          have hsame : rowAfter '\'' rows ('\'' :: '\'' :: '\'' :: es) = rowAfter '\''
              (countRow '\'' (countRow '\'' rows '\'') '\'') ('\'' :: es) := rfl
          simp only [countRow, if_true] at hsame
          omega

/-! ## All forms -/

theorem plain_of_not_needsEscape (h : ¬ needsEscape c) : c = '\n' || isPrintable c := by
  by_cases hline : c = '\n'
  · simp [hline]
  · simpa [needsEscape, hline] using h

/-- A text is written as it is only if it can be. -/
theorem literal_of_form (h : form text = .literal) :
    ∀ c ∈ text, isPrintable c ∧ c ≠ '\'' := by
  dsimp only [form] at h
  split at h
  · cases h
  split at h
  · case isTrue hform =>
    simp only [Bool.and_eq_true, Bool.not_eq_true', decide_eq_true_eq, List.any_eq_false] at hform
    obtain ⟨⟨hcontrols, hsingles⟩, hlines⟩ := hform
    rw [longestRow_eq] at hsingles
    intro c hc
    have hline : c ≠ '\n' := fun heq => hlines (heq ▸ hc)
    have hplain := plain_of_not_needsEscape (hcontrols c hc)
    exact ⟨by simpa [hline] using hplain, fun heq => not_mem_of_rowAfter (0, 0) hsingles (heq ▸ hc)⟩
  · repeat' split at h
    all_goals cases h

theorem longLiteral_of_form (h : form text = .longLiteral) :
    rowAfter '\'' (0, 0) text ≤ 2 ∧ ∀ c ∈ text, c = '\n' || isPrintable c := by
  dsimp only [form] at h
  split at h
  · cases h
  split at h
  · cases h
  split at h
  · cases h
  split at h
  · case isTrue hform =>
    simp only [Bool.and_eq_true, Bool.not_eq_true', decide_eq_true_eq, List.any_eq_false] at hform
    obtain ⟨hcontrols, hsingles⟩ := hform
    exact ⟨hsingles, fun c hc => plain_of_not_needsEscape (hcontrols c hc)⟩
  · split at h <;> cases h

/-- The line on which a text of many lines begins is opened by the quotes. -/
theorem afterOpening_opening {more : List Char}
    (h : '\n' ∉ text → ∀ cs, more ≠ '\n' :: cs ∧ more ≠ '\r' :: '\n' :: cs) :
    afterOpening (opening text ++ more) = more := by
  unfold opening
  split
  · rfl
  · case isFalse hlines =>
    rw [List.nil_append, afterOpening]
    · exact fun cs => (h hlines cs).1
    · exact fun cs => (h hlines cs).2

/-- No line begins where the text does not. -/
theorem writeEscaped_opens {cs : List Char} (hlines : '\n' ∉ text) (rest : List Char) :
    writeEscaped true row text ++ '"' :: rest ≠ '\n' :: cs ∧
      writeEscaped true row text ++ '"' :: rest ≠ '\r' :: '\n' :: cs := by
  cases text with
  | nil => constructor <;> nofun
  | cons c text =>
    obtain ⟨code, hcode⟩ := exists_escape c
    have hc : c ≠ '\n' := fun heq => hlines (heq ▸ .head _)
    rw [writeEscaped_cons, hcode]
    split
    · case isTrue hquote =>
      subst hquote
      split <;> constructor <;> nofun
    · split
      · case isTrue hplain =>
        refine ⟨fun heq => hc (List.cons.inj heq).1, fun heq => ?_⟩
        rw [(List.cons.inj heq).1] at hplain
        exact absurd hplain (by decide)
      · constructor <;> nofun

theorem literal_opens {cs : List Char} (hlines : '\n' ∉ text)
    (htext : ∀ c ∈ text, c = '\n' || isPrintable c) (rest : List Char) :
    text ++ '\'' :: rest ≠ '\n' :: cs ∧ text ++ '\'' :: rest ≠ '\r' :: '\n' :: cs := by
  cases text with
  | nil => constructor <;> nofun
  | cons c text =>
    refine ⟨fun heq => hlines ((List.cons.inj heq).1 ▸ .head _), fun heq => ?_⟩
    have hc := htext c (.head _)
    rw [(List.cons.inj heq).1] at hc
    exact absurd hc (by decide)

/-- **A text that was quoted is read again.** -/
theorem read_write (text : List Char) (hrest : Clear rest) :
    read (write text ++ rest) = some (text, rest) := by
  have hdouble : ∀ cs, rest ≠ '"' :: cs := fun cs heq => (hrest '"' (by rw [heq]; rfl)).1 rfl
  have hsingle : ∀ cs, rest ≠ '\'' :: cs := fun cs heq => (hrest '\'' (by rw [heq]; rfl)).2 rfl
  unfold write
  cases hform : form text with
  | basic =>
    -- Two quotes at the start would open a long text, were there a third.
    have hread := readBasic_writeEscaped 0 text rest
    simp only [List.append_assoc, List.cons_append, List.nil_append]
    rw [read, readLine?, hread]
    · intro cs heq
      cases text with
      | nil => exact hdouble _ (List.cons.inj (List.cons.inj heq).2).2
      | cons c text =>
        obtain ⟨d, ds, hds, hd⟩ := exists_writeEscaped false 0
          (fun (_ : c = '"') hlong => absurd hlong (by decide)) text
        rw [hds] at heq
        exact hd (List.cons.inj (List.cons.inj heq).2).1
    · nofun
  | literal =>
    have htext := literal_of_form hform
    have hread := readLiteral_append htext rest
    simp only [List.append_assoc, List.cons_append, List.nil_append]
    rw [read, readLine?, hread]
    · nofun
    · intro cs heq
      cases text with
      | nil => exact hsingle _ (List.cons.inj (List.cons.inj heq).2).2
      | cons c text => exact (htext c (.head _)).2 (List.cons.inj (List.cons.inj heq).2).1
  | longBasic =>
    have hread := readLongBasic_writeEscaped hrest 0 text
    simp only [List.append_assoc, List.cons_append, List.nil_append]
    rw [read, afterOpening_opening fun hlines cs => writeEscaped_opens hlines _, hread]
  | longLiteral =>
    obtain ⟨hrows, htext⟩ := longLiteral_of_form hform
    have hread := readLongLiteral_append hrest (0, 0) hrows htext
    simp only [List.append_assoc, List.cons_append, List.nil_append]
    rw [read, afterOpening_opening fun hlines cs => literal_opens hlines htext _, hread]

end UsbHost.Toml.Quoted
