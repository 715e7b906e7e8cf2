import UsbHost.Proofs.Json.Readers
import UsbHost.Proofs.Json.Spelling

/-! # Values as a text has them

A text that is JSON spells a tree (`Spells`).  The tree keeps what readers can tell
apart: the tokens of its scalars, the order of its members and the pieces of their names.
It forgets the blanks, and how a token is spelled.  Every text of a tree is scanned to
the tokens of the tree (`Spells.scansTo`).
-/
namespace UsbHost.Json

/-- A value as a text has it. -/
inductive Written where
  | scalar (t : Token)
  | array (items : List Written)
  /-- The name of a member may be no text, if it has half of a surrogate pair. -/
  | object (members : List (List Piece × Written))

/-- A number is in range, and a string denotes a text. -/
def Token.Valid : Token → Prop
  | .number (.real fits) => fits
  | .string pieces _ => (textOf? pieces).isSome
  | _ => True

namespace Written

/-- The tokens of a value. -/
def tokens : Written → List Token
  | .scalar t => [t]
  | .array items => .openArray :: (separated (items.map tokens) ++ [.closeArray])
  | .object members =>
    .openObject :: (separated (members.map fun m => .string m.1 .closed :: .colon :: m.2.tokens)
      ++ [.closeObject])
termination_by n => sizeOf n
decreasing_by
  · have := List.sizeOf_lt_of_mem ‹_ ∈ items›
    simp; omega
  · have := List.sizeOf_lt_of_mem ‹_ ∈ members›
    cases m; simp at *; omega

/-- The tokens of a member. -/
def memberTokens (m : List Piece × Written) : List Token :=
  .string m.1 .closed :: .colon :: m.2.tokens

theorem tokens_scalar (t : Token) : (scalar t).tokens = [t] := by
  rw [tokens]

theorem tokens_array (items : List Written) :
    (array items).tokens = .openArray :: (separated (items.map tokens) ++ [.closeArray]) := by
  rw [tokens]

theorem tokens_object (members : List (List Piece × Written)) :
    (object members).tokens =
      .openObject :: (separated (members.map memberTokens) ++ [.closeObject]) := by
  rw [tokens]
  rfl

/-- The tokens are those of spellings that the grammar has. -/
inductive WellFormed : Written → Prop where
  | scalar {t : Token} (h : t.Scalar) : WellFormed (.scalar t)
  | array {items : List Written} (h : ∀ n ∈ items, WellFormed n) : WellFormed (.array items)
  | object {members : List (List Piece × Written)} (names : ∀ m ∈ members, NoControl m.1)
      (h : ∀ m ∈ members, WellFormed m.2) : WellFormed (.object members)

/-- Numbers are in range, strings denote texts, and arrays and objects are nested at most
`room` deep. -/
inductive Admissible : (room : Nat) → Written → Prop where
  | scalar {room : Nat} {t : Token} (h : t.Valid) : Admissible room (.scalar t)
  | array {room : Nat} {items : List Written} (h : ∀ n ∈ items, Admissible room n) :
      Admissible (room + 1) (.array items)
  | object {room : Nat} {members : List (List Piece × Written)}
      (names : ∀ m ∈ members, (textOf? m.1).isSome) (h : ∀ m ∈ members, Admissible room m.2) :
      Admissible (room + 1) (.object members)

section Admissible
variable {room : Nat}

theorem admissible_scalar_iff {t : Token} : Admissible room (.scalar t) ↔ t.Valid :=
  ⟨fun h => by cases h with | scalar h => exact h, .scalar⟩

theorem admissible_array_iff {items : List Written} :
    Admissible room (.array items) ↔ 0 < room ∧ ∀ n ∈ items, Admissible (room - 1) n := by
  constructor
  · intro h
    cases h with
    | array h => exact ⟨Nat.succ_pos _, h⟩
  · rintro ⟨hroom, h⟩
    cases room with
    | zero => exact absurd hroom (Nat.lt_irrefl 0)
    | succ room => exact .array h

theorem admissible_object_iff {members : List (List Piece × Written)} :
    Admissible room (.object members) ↔
      0 < room ∧ ∀ m ∈ members, (textOf? m.1).isSome ∧ Admissible (room - 1) m.2 := by
  constructor
  · intro h
    cases h with
    | object names h => exact ⟨Nat.succ_pos _, fun m hm => ⟨names m hm, h m hm⟩⟩
  · rintro ⟨hroom, h⟩
    cases room with
    | zero => exact absurd hroom (Nat.lt_irrefl 0)
    | succ room => exact .object (fun m hm => (h m hm).1) fun m hm => (h m hm).2

end Admissible

end Written

open Written (WellFormed)

/-! ## Texts -/

/-- A member of an object with its text: the spelling of its name, and of its value. -/
structure SpelledMember where
  spelling : List Char
  name : List Piece
  text : List Char
  value : Written

namespace SpelledMember

/-- The whole text of the member. -/
def all (m : SpelledMember) : List Char := m.spelling ++ ':' :: m.text

/-- The name is spelled as a string, between blanks. -/
inductive Named : SpelledMember → Prop where
  | blanks {before spelling after text : List Char} {name : List Piece} {value : Written}
      (hbefore : ∀ c ∈ before, isBlank c) (hafter : ∀ c ∈ after, isBlank c)
      (isString : IsString spelling) (scanned : scan spelling = [.string name .closed]) :
      Named ⟨before ++ (spelling ++ after), name, text, value⟩

end SpelledMember

/-- The text is JSON and means the tree. -/
inductive Spells : List Char → Written → Prop where
  | scalar {text : List Char} {t : Token} (isScalar : IsScalar text) (scanned : scan text = [t]) :
      Spells text (.scalar t)
  | array {gap : List Char} {parts : List (List Char × Written)} (blank : ∀ c ∈ gap, isBlank c)
      (spells : ∀ p ∈ parts, Spells p.1 p.2) :
      Spells ('[' :: (gap ++ (joined [','] (parts.map (·.1)) ++ [']']))) (.array (parts.map (·.2)))
  | object {gap : List Char} {parts : List SpelledMember} (blank : ∀ c ∈ gap, isBlank c)
      (named : ∀ m ∈ parts, m.Named) (spells : ∀ m ∈ parts, Spells m.text m.value) :
      Spells ('{' :: (gap ++ (joined [','] (parts.map (·.all)) ++ ['}'])))
        (.object (parts.map fun m => (m.name, m.value)))
  | blanks {before text after : List Char} {n : Written} (hbefore : ∀ c ∈ before, isBlank c)
      (hafter : ∀ c ∈ after, isBlank c) (spells : Spells text n) :
      Spells (before ++ (text ++ after)) n

/-! ## Scanning -/

/-- A blank may stand where a token ends. -/
theorem delimits_blanks {blanks more : List Char} (h : ∀ c ∈ blanks, isBlank c)
    (hmore : Delimits more) : Delimits (blanks ++ more) := by
  cases blanks with
  | nil => exact hmore
  | cons c blanks =>
    have hc := h c (.head _)
    intro d hd
    obtain rfl : c = d := by simpa using hd
    simp only [isBlank, Bool.or_eq_true, decide_eq_true_eq] at hc
    rcases hc with ((rfl | rfl) | rfl) | rfl <;> decide

theorem ScansTo.between {before text after : List Char} {tokens : List Token}
    (hbefore : ∀ c ∈ before, isBlank c) (hafter : ∀ c ∈ after, isBlank c)
    (h : ScansTo text tokens) : ScansTo (before ++ (text ++ after)) tokens := by
  have hend : ScansTo (after ++ []) [] := .blanks after hafter .nil
  rw [List.append_nil] at hend
  have hall := h.append hend fun more => delimits_blanks hafter
  rw [List.append_nil] at hall
  exact .blanks before hbefore hall

/-- What is scanned to one token by itself is so wherever it stands. -/
theorem IsScalar.scansTo_of_scan {text : List Char} (h : IsScalar text) {t : Token}
    (ht : scan text = [t]) : t.Scalar ∧ ScansTo text [t] := by
  obtain ⟨t', ht', hscan⟩ := h.scansTo
  rw [scan_eq_of_scansTo hscan] at ht
  cases ht
  exact ⟨ht', hscan⟩

theorem SpelledMember.Named.scansTo {m : SpelledMember} (h : m.Named) :
    NoControl m.name ∧ ScansTo m.spelling [.string m.name .closed] := by
  obtain ⟨hbefore, hafter, isString, scanned⟩ := h
  obtain ⟨hscalar, hscan⟩ := (IsScalar.string isString).scansTo_of_scan scanned
  cases hscalar with
  | string hname => exact ⟨hname, .between hbefore hafter hscan⟩

/-- **A text is scanned to the tokens of what it means.** -/
theorem Spells.scansTo {text : List Char} {n : Written} (h : Spells text n) :
    ScansTo text n.tokens := by
  induction h with
  | scalar isScalar scanned =>
    rw [Written.tokens_scalar]
    exact (isScalar.scansTo_of_scan scanned).2
  | @array gap parts blank _ ih =>
    rw [Written.tokens_array, List.map_map]
    exact .mark rfl (.blanks gap blank ((ScansTo.joined [] (by simp) ih).append (.mark rfl .nil)
      (by simp [Delimits])))
  | @object gap parts blank named _ ih =>
    rw [Written.tokens_object, List.map_map]
    refine .mark rfl (.blanks gap blank ((ScansTo.joined [] (by simp) fun m hm => ?_).append
      (.mark rfl .nil) (by simp [Delimits])))
    exact (named m hm).scansTo.2.append (.mark rfl (ih m hm)) fun more _ => by simp [Delimits]
  | blanks hbefore hafter _ ih => exact .between hbefore hafter ih

theorem Spells.wellFormed {text : List Char} {n : Written} (h : Spells text n) :
    n.WellFormed := by
  induction h with
  | scalar isScalar scanned => exact .scalar (isScalar.scansTo_of_scan scanned).1
  | array _ _ ih =>
    refine .array fun n hn => ?_
    obtain ⟨p, hp, rfl⟩ := List.mem_map.mp hn
    exact ih p hp
  | object _ named _ ih =>
    refine .object (fun m hm => ?_) fun m hm => ?_ <;> obtain ⟨m, hp, rfl⟩ := List.mem_map.mp hm
    · exact (named m hp).scansTo.1
    · exact ih m hp
  | blanks _ _ _ ih => exact ih

theorem Spells.scan_eq {text : List Char} {n : Written} (h : Spells text n) :
    scan text = n.tokens := scan_eq_of_scansTo h.scansTo

end UsbHost.Json
