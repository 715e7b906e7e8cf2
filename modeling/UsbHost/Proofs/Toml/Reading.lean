import UsbHost.Proofs.Toml.Quoting
import UsbHost.Toml.Document

/-! # Documents are read line by line

The readers of a document are run on texts of which the beginning is known: keys without
quotes (`Document.key_bare`), headers and entries (`Document.isLine_table`,
`Document.isLine_entry`), quoted texts (`Document.value_text`) and lists
(`Document.items_lines`).  A document that is made of such lines has their statements
(`Document.statements_flatMap`): the fuel of its reader, a step for each character,
is enough as no line is empty.
-/
namespace UsbHost.Toml

variable {α β : Type} {c : Char} {cs rest : List Char} {name text : List Char}

namespace Reader

/-! ## Running a reader -/

theorem bind_apply (r : Reader α) (f : α → Reader β) (cs : List Char) :
    (r >>= f) cs = (r cs).bind fun p => f p.1 p.2 := rfl

theorem map_apply (f : α → β) (r : Reader α) (cs : List Char) :
    (f <$> r) cs = (r cs).map fun p => (f p.1, p.2) := by
  show (r cs).bind _ = _
  cases r cs <;> rfl

theorem discard_apply (r : Reader α) (cs : List Char) :
    (discard r) cs = (r cs).map fun p => ((), p.2) := map_apply ..

theorem peek_apply (cs : List Char) : peek cs = some (cs.head?, cs) := rfl

theorem get_apply (cs : List Char) : (get : Reader (List Char)) cs = some (cs, cs) := rfl

theorem orElse_of_none {r r' : Reader α} (h : r cs = none) : (r <|> r') cs = r' cs := by
  show (r cs <|> r' cs) = _
  rw [h]
  rfl

/-! ## Single characters and rows of them -/

theorem one_cons {p : Char → Bool} (hc : p c) (cs : List Char) : one p (c :: cs) = some (c, cs) :=
  if_pos hc

theorem one_eq_none {p : Char → Bool} (h : ∀ c ∈ cs.head?, p c = false) : one p cs = none := by
  cases cs with
  | nil => rfl
  | cons c cs =>
    rw [one, h c rfl]
    rfl

theorem char_self (c : Char) (cs : List Char) : char c (c :: cs) = some ((), cs) := by
  rw [char, discard_apply, one_cons (by simp)]
  rfl

theorem char_eq_none (h : cs.head? ≠ some c) : char c cs = none := by
  rw [char, discard_apply, one_eq_none fun d hd => by
    simp only [decide_eq_false_iff_not]
    rintro rfl
    exact h hd]
  rfl

theorem optionalChar_self (c : Char) (cs : List Char) :
    optionalChar c (c :: cs) = some (true, cs) := if_pos rfl

theorem optionalChar_of_ne {d : Char} (h : c ≠ d) (cs : List Char) :
    optionalChar d (c :: cs) = some (false, c :: cs) := if_neg h

/-- All characters of one kind are read, up to one of another. -/
theorem many_append {p : Char → Bool} (h : ∀ c ∈ text, p c) (hc : p c = false) (cs : List Char) :
    many p (text ++ c :: cs) = some (text, c :: cs) := by
  have htake : (text ++ c :: cs).takeWhile p = text := by
    rw [List.takeWhile_append_of_pos h, List.takeWhile_cons, hc]
    simp
  have hdrop : (text ++ c :: cs).dropWhile p = c :: cs := by
    rw [List.dropWhile_append_of_pos h, List.dropWhile_cons, hc]
    simp
  rw [many, htake, hdrop]

theorem many1_append {p : Char → Bool} (hne : text ≠ []) (h : ∀ c ∈ text, p c) (hc : p c = false)
    (cs : List Char) : many1 p (text ++ c :: cs) = some (text, c :: cs) := by
  obtain ⟨d, ds, rfl⟩ := List.exists_cons_of_ne_nil hne
  rw [many1, bind_apply, List.cons_append, one_cons (h d (.head _)), Option.bind_some, bind_apply,
    many_append (fun c hc => h c (.tail _ hc)) hc]
  rfl

theorem blanks_append (text : List Char) (h : ∀ c ∈ text, Quoted.isBlank c)
    (hc : Quoted.isBlank c = false) (cs : List Char) :
    blanks (text ++ c :: cs) = some ((), c :: cs) := by
  rw [blanks, discard_apply, many_append h hc]
  rfl

theorem blanks_cons (hc : Quoted.isBlank c = false) (cs : List Char) :
    blanks (c :: cs) = some ((), c :: cs) := blanks_append [] nofun hc cs

theorem lineRest_newline (cs : List Char) : lineRest ('\n' :: cs) = some ((), cs) := by
  rw [lineRest, bind_apply, blanks_cons rfl]
  rfl

end Reader

namespace Document

open Reader

/-! ## Keys -/

/-- A key without quotes ends before such a character. -/
structure EndsKey (c : Char) : Prop where
  bare : isBare c = false
  blank : Quoted.isBlank c = false
  dot : c ≠ '.'

theorem not_blank_of_bare (h : isBare c) : Quoted.isBlank c = false := by
  cases hc : Quoted.isBlank c with
  | false => rfl
  | true =>
    simp only [Quoted.isBlank, Bool.or_eq_true, decide_eq_true_eq] at hc
    rcases hc with rfl | rfl <;> exact absurd h (by decide)

theorem simpleKey_bare (hne : name ≠ []) (hname : ∀ c ∈ name, isBare c) (hc : isBare c = false)
    (cs : List Char) : simpleKey (name ++ c :: cs) = some (String.ofList name, c :: cs) := by
  have hread := many1_append hne hname hc cs
  obtain ⟨d, ds, rfl⟩ := List.exists_cons_of_ne_nil hne
  have hd := hname d (.head _)
  have hdouble : d ≠ '"' := by
    rintro rfl
    exact absurd hd (by decide)
  have hsingle : d ≠ '\'' := by
    rintro rfl
    exact absurd hd (by decide)
  have hbare (more : List Char) :
      simpleKey (d :: more) = (String.ofList <$> many1 isBare) (d :: more) := by
    rw [simpleKey, bind_apply, peek_apply]
    simp [hdouble, hsingle]
  rw [List.cons_append, hbare, map_apply, ← List.cons_append, hread]
  rfl

/-- A key without quotes and dots is read, with the blanks after it. -/
theorem key_bare (gap : List Char) (hne : name ≠ []) (hname : ∀ c ∈ name, isBare c)
    (hgap : ∀ c ∈ gap, Quoted.isBlank c) (hc : EndsKey c) (cs : List Char) :
    key (name ++ (gap ++ c :: cs)) = some ([String.ofList name], c :: cs) := by
  have hfirst : blanks (name ++ (gap ++ c :: cs)) = some ((), name ++ (gap ++ c :: cs)) := by
    obtain ⟨d, ds, rfl⟩ := List.exists_cons_of_ne_nil hne
    exact blanks_cons (not_blank_of_bare (hname d (.head _))) _
  have hpart : simpleKey (name ++ (gap ++ c :: cs)) =
      some (String.ofList name, gap ++ c :: cs) := by
    cases gap with
    | nil => exact simpleKey_bare hne hname hc.bare cs
    | cons b gap =>
      have hb : isBare b = false := by
        cases hb : isBare b with
        | false => rfl
        | true => exact absurd (hgap b (.head _)) (by simp [not_blank_of_bare hb])
      exact simpleKey_bare hne hname hb _
  show keyParts (78 + 1) _ = _
  rw [keyParts, bind_apply, hfirst, Option.bind_some, bind_apply, hpart, Option.bind_some,
    bind_apply, blanks_append gap hgap hc.blank, Option.bind_some, bind_apply,
    optionalChar_of_ne hc.dot]
  rfl

/-! ## Lines -/

/-- A header is read. -/
theorem line_table (hne : name ≠ []) (hname : ∀ c ∈ name, isBare c) (cs : List Char) :
    line ('[' :: (name ++ ']' :: '\n' :: cs)) = some (some (.table [String.ofList name]), cs) := by
  have hkey : key (name ++ ']' :: '\n' :: cs) = some ([String.ofList name], ']' :: '\n' :: cs) :=
    key_bare [] hne hname nofun ⟨rfl, rfl, by decide⟩ _
  have hheader : header ('[' :: (name ++ ']' :: '\n' :: cs)) =
      some (.table [String.ofList name], '\n' :: cs) := by
    have hsecond : optionalChar '[' (name ++ ']' :: '\n' :: cs) =
        some (false, name ++ ']' :: '\n' :: cs) := by
      obtain ⟨d, ds, rfl⟩ := List.exists_cons_of_ne_nil hne
      refine optionalChar_of_ne ?_ _
      rintro rfl
      exact absurd (hname _ (.head _)) (by decide)
    rw [header, bind_apply, char_self, Option.bind_some, bind_apply, hsecond, Option.bind_some]
    simp only [Bool.false_eq_true, if_false]
    rw [bind_apply, hkey, Option.bind_some, bind_apply, char_self]
    rfl
  rw [line, bind_apply, blanks_cons rfl, Option.bind_some, bind_apply, peek_apply,
    Option.bind_some]
  show (do let s ← header; lineRest; return some s : Reader (Option Statement)) _ = _
  rw [bind_apply, hheader, Option.bind_some, bind_apply, lineRest_newline]
  rfl

/-- An entry is read, if its value is. -/
theorem line_entry (hne : name ≠ []) (hname : ∀ c ∈ name, isBare c) {v : Value}
    (hc : Quoted.isBlank c = false) (h : value depthLimit (c :: cs) = some (v, '\n' :: rest)) :
    line (name ++ ' ' :: '=' :: ' ' :: c :: cs) =
      some (some (.entry [String.ofList name] v), rest) := by
  have hkey : key (name ++ ' ' :: '=' :: ' ' :: c :: cs) =
      some ([String.ofList name], '=' :: ' ' :: c :: cs) :=
    key_bare [' '] hne hname (by simp [Quoted.isBlank]) ⟨rfl, rfl, by decide⟩ _
  have hblank : blanks (' ' :: c :: cs) = some ((), c :: cs) :=
    blanks_append [' '] (by simp [Quoted.isBlank]) hc cs
  have hentry : entry (value depthLimit) (name ++ ' ' :: '=' :: ' ' :: c :: cs) =
      some (([String.ofList name], v), '\n' :: rest) := by
    rw [entry, bind_apply, hkey, Option.bind_some, bind_apply, char_self, Option.bind_some,
      bind_apply, hblank, Option.bind_some, bind_apply, h]
    rfl
  obtain ⟨d, ds, rfl⟩ := List.exists_cons_of_ne_nil hne
  have hd := hname d (.head _)
  have hother : d ≠ '#' ∧ d ≠ '\n' ∧ d ≠ '\r' ∧ d ≠ '[' := by
    refine ⟨?_, ?_, ?_, ?_⟩ <;> rintro rfl <;> exact absurd hd (by decide)
  have hline (more : List Char) : line (d :: more) = (do
      let e ← entry (value depthLimit)
      lineRest
      return some (.entry e.1 e.2) : Reader (Option Statement)) (d :: more) := by
    rw [line, bind_apply, blanks_cons (not_blank_of_bare hd), Option.bind_some, bind_apply,
      peek_apply]
    simp [hother]
  rw [List.cons_append, hline, bind_apply, ← List.cons_append, hentry, Option.bind_some,
    bind_apply, lineRest_newline]
  rfl

/-- A line is read, whatever comes after it. -/
structure IsLine (text : List Char) (s : Option Statement) : Prop where
  ne_nil : text ≠ []
  read : ∀ more, line (text ++ more) = some (s, more)

theorem isLine_empty : IsLine ['\n'] none where
  ne_nil := nofun
  read _ := rfl

theorem isLine_table (hne : name ≠ []) (hname : ∀ c ∈ name, isBare c) :
    IsLine ('[' :: (name ++ [']', '\n'])) (some (.table [String.ofList name])) where
  ne_nil := nofun
  read more := by simpa using line_table hne hname more

theorem isLine_entry (hne : name ≠ []) (hname : ∀ c ∈ name, isBare c) {v : Value}
    (hc : Quoted.isBlank c = false)
    (h : ∀ more, value depthLimit (c :: (text ++ '\n' :: more)) = some (v, '\n' :: more)) :
    IsLine (name ++ ' ' :: '=' :: ' ' :: c :: (text ++ ['\n']))
      (some (.entry [String.ofList name] v)) where
  ne_nil := by simp
  read more := by simpa using line_entry hne hname hc (h more)

theorem lines_flatMap {parts : List (List Char × Option Statement)} (fuel : Nat)
    (h : ∀ part ∈ parts, IsLine part.1 part.2) (hne : parts ≠ []) (hfuel : parts.length ≤ fuel) :
    lines fuel (parts.flatMap (·.1)) = some (parts.filterMap (·.2), []) := by
  induction parts generalizing fuel with
  | nil => exact absurd rfl hne
  | cons part parts ih =>
    obtain ⟨fuel, rfl⟩ : ∃ n, fuel = n + 1 := ⟨fuel - 1, by simp at hfuel; omega⟩
    have hfirst := (h part (.head _)).read (parts.flatMap (·.1))
    rw [List.flatMap_cons, List.filterMap_cons, lines, bind_apply, hfirst, Option.bind_some,
      bind_apply, get_apply, Option.bind_some]
    cases parts with
    | nil => cases part.2 <;> rfl
    | cons next parts =>
      have hnext := (h next (.tail _ (.head _))).ne_nil
      have hmore : ((next :: parts).flatMap (·.1)).isEmpty = false := by
        simpa using fun hnil => absurd hnil hnext
      have hread := ih fuel (fun part hpart => h part (.tail _ hpart)) nofun
        (Nat.le_of_succ_le_succ hfuel)
      simp only [hmore]
      show (do return part.2.toList ++ (← lines fuel) : Reader (List Statement)) _ = _
      rw [bind_apply, hread]
      cases part.2 <;> rfl

theorem length_le_flatMap {f : α → List β} (as : List α) (h : ∀ a ∈ as, f a ≠ []) :
    as.length ≤ (as.flatMap f).length := by
  induction as with
  | nil => exact Nat.zero_le _
  | cons a as ih =>
    have hfirst := List.length_pos_iff.mpr (h a (.head _))
    have hrest := ih fun b hb => h b (.tail _ hb)
    rw [List.flatMap_cons, List.length_append, List.length_cons]
    omega

/-- **The statements of a document are those of its lines.** -/
theorem statements_flatMap {parts : List (List Char × Option Statement)}
    (h : ∀ part ∈ parts, IsLine part.1 part.2) (hne : parts ≠ [])
    (hmark : (parts.flatMap (·.1)).head? ≠ some mark) :
    statements (parts.flatMap (·.1)) = some (parts.filterMap (·.2)) := by
  have hlength : parts.length ≤ (parts.flatMap (·.1)).length + 1 :=
    Nat.le_succ_of_le (length_le_flatMap parts fun part hpart => (h part hpart).ne_nil)
  rw [statements]
  simp only [hmark, if_false, lines_flatMap _ h hne hlength]
  rfl

/-! ## Values -/

theorem exists_write (text : List Char) :
    ∃ q more, Quoted.write text = q :: more ∧ (q = '"' ∨ q = '\'') := by
  unfold Quoted.write
  cases Quoted.form text with
  | basic | longBasic => exact ⟨_, _, rfl, .inl rfl⟩
  | literal | longLiteral => exact ⟨_, _, rfl, .inr rfl⟩

theorem value_text (depth : Nat) (text : List Char) (hrest : Quoted.Clear rest) :
    value depth (Quoted.write text ++ rest) = some (.text (String.ofList text), rest) := by
  have hread := Quoted.read_write text hrest
  obtain ⟨q, more, hwrite, hq⟩ := exists_write text
  rw [hwrite] at hread ⊢
  have hquoted : value depth (q :: (more ++ rest)) =
      ((.text ∘ String.ofList) <$> (Quoted.read : Reader (List Char)) : Reader Value)
        (q :: (more ++ rest)) := by
    rw [value, bind_apply, peek_apply]
    rcases hq with rfl | rfl <;> rfl
  rw [List.cons_append, hquoted, map_apply, ← List.cons_append, hread]
  rfl

theorem value_array (depth : Nat) (cs : List Char) :
    value (depth + 1) ('[' :: cs) = array (value depth) cs := by
  rw [value, bind_apply, peek_apply]
  show (do char '['; value.nested (depth + 1) array : Reader Value) ('[' :: cs) = _
  rw [bind_apply, char_self, Option.bind_some, value.nested]

/-! ### Items -/

/-- Such a character is not passed over between the parts of an array. -/
structure EndsGap (c : Char) : Prop where
  line : c ≠ '\n'
  carriage : c ≠ '\r'
  comment : c ≠ '#'
  blank : Quoted.isBlank c = false

theorem gaps_append (gap : List Char) (hgap : ∀ c ∈ gap, c = '\n' ∨ c = ' ')
    (hc : EndsGap c) (cs : List Char) : gaps (gap ++ c :: cs) = some ((), c :: cs) := by
  have hskip : skipGaps false (gap ++ c :: cs) = some (c :: cs) := by
    induction gap with
    | nil =>
      rw [List.nil_append, skipGaps]
      · simp [hc.comment, hc.blank]
      · exact hc.line
      · exact fun _ heq => absurd heq hc.carriage
    | cons b gap ih =>
      have ih := ih fun c hc => hgap c (.tail _ hc)
      rcases hgap b (.head _) with rfl | rfl
      · exact ih
      · exact ih
  rw [gaps, hskip]
  rfl

theorem gaps_cons (hc : EndsGap c) (cs : List Char) : gaps (c :: cs) = some ((), c :: cs) :=
  gaps_append [] nofun hc cs

/-- An item is read, whatever comes after it that ends an item. -/
structure IsItem (item : Reader Value) (text : List Char) (v : Value) : Prop where
  starts : ∃ c cs, text = c :: cs ∧ EndsGap c ∧ c ≠ ']'
  read : ∀ rest, (∀ c ∈ rest.head?, c = ',' ∨ c = ']') → item (text ++ rest) = some (v, rest)

theorem isItem_write (depth : Nat) (text : List Char) :
    IsItem (value depth) (Quoted.write text) (.text (String.ofList text)) where
  starts := by
    obtain ⟨q, more, hwrite, rfl | rfl⟩ := exists_write text
    · exact ⟨_, _, hwrite, ⟨by decide, by decide, by decide, rfl⟩, by decide⟩
    · exact ⟨_, _, hwrite, ⟨by decide, by decide, by decide, rfl⟩, by decide⟩
  read rest hrest := by
    refine value_text depth text fun c hc => ?_
    rcases hrest c hc with rfl | rfl <;> decide

section Items
variable {item : Reader Value} {fuel : Nat} {v : Value}

theorem items_close (gap : List Char) (hgap : ∀ c ∈ gap, c = '\n' ∨ c = ' ') (cs : List Char) :
    items item (fuel + 1) (gap ++ ']' :: cs) = some ([], cs) := by
  rw [items, bind_apply, gaps_append gap hgap ⟨by decide, by decide, by decide, rfl⟩,
    Option.bind_some, bind_apply, optionalChar_self]
  rfl

/-- The last item may have no comma after it. -/
theorem items_last (h : IsItem item text v) (cs : List Char) :
    items item (fuel + 1) (text ++ ']' :: cs) = some ([v], cs) := by
  obtain ⟨c, more, rfl, hc, hclose⟩ := h.starts
  have hread := h.read (']' :: cs) (by simp)
  rw [items, bind_apply, List.cons_append, gaps_cons hc, Option.bind_some, bind_apply,
    optionalChar_of_ne hclose, Option.bind_some]
  show (do
    let v ← item; gaps
    if ← optionalChar ',' then return v :: (← items item fuel)
    char ']'; return [v] : Reader (List Value)) (c :: more ++ ']' :: cs) = _
  rw [bind_apply, hread, Option.bind_some, bind_apply,
    gaps_cons ⟨by decide, by decide, by decide, rfl⟩, Option.bind_some, bind_apply,
    optionalChar_of_ne (by decide)]
  rfl

/-- An item with a comma after it is followed by others. -/
theorem items_cons (gap : List Char) (hgap : ∀ c ∈ gap, c = '\n' ∨ c = ' ')
    (h : IsItem item text v) {vs : List Value} (hmore : items item fuel cs = some (vs, rest)) :
    items item (fuel + 1) (gap ++ text ++ ',' :: cs) = some (v :: vs, rest) := by
  obtain ⟨c, more, rfl, hc, hclose⟩ := h.starts
  have hread := h.read (',' :: cs) (by simp)
  rw [items, bind_apply, List.append_assoc, List.cons_append, gaps_append gap hgap hc,
    Option.bind_some, bind_apply, optionalChar_of_ne hclose, Option.bind_some]
  show (do
    let v ← item; gaps
    if ← optionalChar ',' then return v :: (← items item fuel)
    char ']'; return [v] : Reader (List Value)) (c :: more ++ ',' :: cs) = _
  rw [bind_apply, hread, Option.bind_some, bind_apply,
    gaps_cons ⟨by decide, by decide, by decide, rfl⟩, Option.bind_some, bind_apply,
    optionalChar_self, Option.bind_some]
  show (do return v :: (← items item fuel) : Reader (List Value)) cs = _
  rw [bind_apply, hmore]
  rfl

/-- Items on lines of their own, each with a comma after it. -/
theorem items_lines {write : α → List Char} {meant : α → Value} {as : List α}
    (h : ∀ a ∈ as, IsItem item (write a) (meant a)) (hfuel : as.length < fuel) (cs : List Char) :
    items item fuel ('\n' ::
        (as.flatMap fun a => [' ', ' ', ' ', ' '] ++ write a ++ [',', '\n']) ++ ']' :: cs) =
      some (as.map meant, cs) := by
  obtain ⟨fuel, rfl⟩ : ∃ n, fuel = n + 1 := ⟨fuel - 1, by omega⟩
  induction as generalizing fuel with
  | nil => exact items_close ['\n'] (by simp) cs
  | cons a as ih =>
    obtain ⟨fuel, rfl⟩ : ∃ n, fuel = n + 1 := ⟨fuel - 1, by simp at hfuel; omega⟩
    have hmore := ih (fun b hb => h b (.tail _ hb)) fuel (by simpa using hfuel)
    have hitem := items_cons ['\n', ' ', ' ', ' ', ' '] (by simp) (h a (.head _)) hmore
    simpa using hitem

end Items

end Document

end UsbHost.Toml
