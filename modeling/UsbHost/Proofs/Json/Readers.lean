import UsbHost.Json.Reader
import UsbHost.Proofs.Json.Scanning

/-! # What readers take

A reader takes the tokens of a value and leaves what comes after them (`Takes`), or it
decides about them, to take or to refuse them, without looking at what comes after
(`Decides`).  Both go through readers part by part: an array is decided about item by
item (`decides_list`).  Members of an object are read into a state that changes with each
(`Fills`): a draft of the record, or what has been kept of an outcome.
-/
namespace UsbHost.Json

variable {α β : Type}

/-! ## Tokens in front -/

/-- The first token of a value. -/
def head : Json → Token
  | .null => .null
  | .bool b => .bool b
  | .number n => .number (.integer n)
  | .string s => literal s
  | .array _ => .openArray
  | .object _ => .openObject

theorem tokens_eq_cons (v : Json) : ∃ ts, v.tokens = v.head :: ts := by
  cases v <;> exact ⟨_, by rw [tokens]; rfl⟩

theorem literalText_literal (s : String) :
    literalText (s.toList.map .char) .closed = .ok s := by
  simp only [literalText, List.filterMap_map, Function.comp_def, List.filterMap_some,
    List.length_map, Nat.lt_irrefl, ↓reduceIte, String.ofList_toList]

theorem separated_cons (part : List Token) (parts : List (List Token)) :
    separated (part :: parts) = part ++ parts.flatMap (.comma :: ·) := by
  induction parts generalizing part with
  | nil => simp
  | cons next parts ih => rw [separated_cons_cons, ih, List.flatMap_cons, List.cons_append]

theorem length_le_flatMap (parts : List (List Token)) :
    parts.length ≤ (parts.flatMap (.comma :: ·)).length := by
  induction parts with
  | nil => exact Nat.zero_le _
  | cons part parts ih =>
    simp only [List.length_cons, List.flatMap_cons, List.length_append]
    omega

theorem length_le_separated (parts : List (List Token)) (t : Token) :
    parts.length ≤ (separated parts ++ [t]).length := by
  cases parts with
  | nil => exact Nat.zero_le _
  | cons part parts =>
    have hlength := length_le_flatMap parts
    simp only [separated_cons, List.length_cons, List.length_append, List.length_nil]
    omega

theorem eq_ok_of_toOption {e : Except Problem α} {a : α} (h : e.toOption = some a) :
    e = .ok a := by
  cases e with
  | ok b => exact congrArg Except.ok (Option.some.inj h)
  | error _ => cases h

/-- The text that a string denotes. -/
def textOf? (pieces : List Piece) : Option String := (literalText pieces .closed).toOption

/-! ## Readers -/

namespace Reader

/-- The reader takes just the tokens, whatever comes after them. -/
def Takes (reader : Reader α) (tokens : List Token) (a : α) : Prop :=
  ∀ rest, reader (tokens ++ rest) = .ok (a, rest)

variable {x : Reader α} {f : α → Reader β} {tokens tokens' : List Token} {a : α} {b : β}

theorem Takes.pure (a : α) : Takes (pure a) [] a := fun _ => rfl

theorem Takes.bind (h : Takes x tokens a) (h' : Takes (f a) tokens' b) :
    Takes (x >>= f) (tokens ++ tokens') b := by
  intro rest
  change (x (tokens ++ tokens' ++ rest) >>= fun p => f p.1 p.2) = _
  rw [List.append_assoc, h]
  exact h' rest

/-- The second reader takes no tokens. -/
theorem Takes.bind_nil (h : Takes x tokens a) (h' : Takes (f a) [] b) :
    Takes (x >>= f) tokens b := by
  simpa using h.bind h'

theorem Takes.map (h : Takes x tokens a) (g : α → β) : Takes (g <$> x) tokens (g a) := by
  intro rest
  change (x (tokens ++ rest) >>= fun p => _) = _
  rw [h]
  rfl

theorem Takes.lift {e : Except Problem α} (h : e = .ok a) : Takes (liftM e) [] a := by
  rw [h]
  exact fun _ => rfl

/-- More fuel than there are tokens is enough for any reader that so much is enough for. -/
theorem Takes.enough {f : Nat → Reader α} (h : ∀ fuel > tokens.length, Takes (f fuel) tokens a) :
    Takes (enough >>= f) tokens a := by
  intro rest
  have hle : tokens.length ≤ (tokens ++ rest).length := by simp
  exact h _ (Nat.lt_succ_of_le hle) rest

theorem takes_token (t : Token) : Takes token [t] t := fun _ => rfl

theorem takes_exactly (t : Token) : Takes (exactly t) [t] () := fun _ => by simp [exactly]

theorem takes_scalar {meaning : Token → Option α} {t : Token} (h : meaning t = some a) :
    Takes (scalar meaning) [t] a := by
  refine (takes_token t).bind_nil ?_
  rw [h]
  exact .pure a

theorem takes_text (s : String) : Takes text [literal s] s :=
  (takes_token (literal s)).bind_nil (.lift (literalText_literal s))

/-! ## Readers that decide -/

section Decides
variable {o : Option α} {p : α → Option β}

theorem toOption_bind {e : Except Problem α} {g : α → Except Problem β} :
    (e >>= g).toOption = e.toOption.bind fun a => (g a).toOption := by
  cases e <;> rfl

/-- The reader takes just the tokens and gives `o`, or it refuses them if that is nothing,
whatever comes after them. -/
def Decides (reader : Reader α) (tokens : List Token) (o : Option α) : Prop :=
  ∀ rest, (reader (tokens ++ rest)).toOption = o.map (·, rest)

theorem Takes.decides (h : Takes x tokens a) : Decides x tokens (some a) := fun rest =>
  congrArg Except.toOption (h rest)

theorem Decides.takes (h : Decides x tokens (some a)) : Takes x tokens a := fun rest =>
  eq_ok_of_toOption (h rest)

theorem Decides.bind (h : Decides x tokens o) (h' : ∀ a, o = some a → Decides (f a) tokens' (p a)) :
    Decides (x >>= f) (tokens ++ tokens') (o.bind p) := by
  intro rest
  change (x (tokens ++ tokens' ++ rest) >>= fun q => f q.1 q.2).toOption = _
  rw [toOption_bind, List.append_assoc, h]
  cases o with
  | none => rfl
  | some a => exact h' a rfl rest

/-- What comes after tokens that are taken is decided about next. -/
theorem Takes.bind_decides {o : Option β} (h : Takes x tokens a) (h' : Decides (f a) tokens' o) :
    Decides (x >>= f) (tokens ++ tokens') o := by
  intro rest
  change (x (tokens ++ tokens' ++ rest) >>= fun q => f q.1 q.2).toOption = _
  rw [List.append_assoc, h]
  exact h' rest

/-- The second reader takes no tokens. -/
theorem Decides.bind_nil (h : Decides x tokens o) (h' : ∀ a, o = some a → Decides (f a) [] (p a)) :
    Decides (x >>= f) tokens (o.bind p) := by
  simpa using h.bind h'

theorem Decides.map (h : Decides x tokens o) (g : α → β) : Decides (g <$> x) tokens (o.map g) := by
  intro rest
  change (x (tokens ++ rest) >>= fun q => _).toOption = _
  rw [toOption_bind, h]
  cases o <;> rfl

theorem Decides.lift (e : Except Problem α) : Decides (liftM e) [] e.toOption := by
  intro rest
  cases e <;> rfl

/-- A reader refuses whatever tokens come, however many. -/
theorem decides_throw (problem : Problem) (tokens : List Token) :
    Decides (throw problem : Reader α) tokens none := fun _ => rfl

theorem Decides.enough {f : Nat → Reader α}
    (h : ∀ fuel > tokens.length, Decides (f fuel) tokens o) :
    Decides (enough >>= f) tokens o := by
  intro rest
  have hle : tokens.length ≤ (tokens ++ rest).length := by simp
  exact h _ (Nat.lt_succ_of_le hle) rest

/-- What the reader makes of the tokens, if it takes any of them. -/
def result? (reader : Reader α) (tokens : List Token) : Option α :=
  (reader tokens).toOption.map (·.1)

theorem Decides.result?_eq (h : Decides x tokens o) : result? x tokens = o := by
  have hall := h []
  rw [List.append_nil] at hall
  rw [result?, hall, Option.map_map]
  exact Option.map_id'

/-- What the reader does is not changed by what comes after the tokens. -/
def Decided (reader : Reader α) (tokens : List Token) : Prop :=
  Decides reader tokens (result? reader tokens)

theorem Decides.decided (h : Decides x tokens o) : Decided x tokens := by
  rwa [Decided, h.result?_eq]

theorem Decided.bind (h : Decided x tokens) (h' : ∀ a, Decided (f a) tokens') :
    Decided (x >>= f) (tokens ++ tokens') := (Decides.bind h fun a _ => h' a).decided

theorem Decided.bind_nil (h : Decided x tokens) (h' : ∀ a, Decided (f a) []) :
    Decided (x >>= f) tokens := (Decides.bind_nil h fun a _ => h' a).decided

theorem Decided.map (h : Decided x tokens) (g : α → β) : Decided (g <$> x) tokens :=
  (Decides.map h g).decided

theorem decided_pure (a : α) : Decided (pure a : Reader α) [] := (Takes.pure a).decides.decided

theorem decided_throw (problem : Problem) (tokens : List Token) :
    Decided (throw problem : Reader α) tokens := (decides_throw problem tokens).decided

theorem decided_token_bind {f : Token → Reader α} {t : Token} (h : Decided (f t) tokens) :
    Decided (token >>= f) (t :: tokens) :=
  ((takes_token t).bind_decides h).decided

end Decides

/-! ## Arrays -/

/-- The tokens begin with one that may begin an item. -/
def Opens (tokens : List Token) : Prop :=
  ∃ t ts, tokens = t :: ts ∧ t ≠ .comma ∧ t ≠ .closeArray

theorem opens_tokens (v : Json) : Opens v.tokens := by
  obtain ⟨ts, hts⟩ := v.tokens_eq_cons
  exact ⟨v.head, ts, hts, by cases v <;> simp [head, literal], by cases v <;> simp [head, literal]⟩

theorem Opens.append (h : Opens tokens) (more : List Token) : Opens (tokens ++ more) := by
  obtain ⟨t, ts, rfl, ht⟩ := h
  exact ⟨t, ts ++ more, rfl, ht⟩

section Items

theorem anotherItem_first (hopens : Opens tokens) (rest : List Token) :
    anotherItem true (tokens ++ rest) = .ok (true, tokens ++ rest) := by
  obtain ⟨t, ts, rfl, hcomma, hclose⟩ := hopens
  simp [anotherItem, hcomma, hclose]

theorem anotherItem_next (hopens : Opens tokens) (rest : List Token) :
    anotherItem false (.comma :: (tokens ++ rest)) = .ok (true, tokens ++ rest) := by
  obtain ⟨t, ts, rfl, hcomma, hclose⟩ := hopens
  simp [anotherItem, hclose]

section More
variable {g : Bool → Reader β} {o : Option β}

theorem Decides.firstItem (hopens : Opens tokens) (h : Decides (g true) tokens o) :
    Decides (anotherItem true >>= g) tokens o := by
  intro rest
  change (anotherItem true (tokens ++ rest) >>= fun p => g p.1 p.2).toOption = _
  rw [anotherItem_first hopens]
  exact h rest

theorem Decides.nextItem (hopens : Opens tokens) (h : Decides (g true) tokens o) :
    Decides (anotherItem false >>= g) (.comma :: tokens) o := by
  intro rest
  change (anotherItem false (.comma :: (tokens ++ rest)) >>= fun p => g p.1 p.2).toOption = _
  rw [anotherItem_next hopens]
  exact h rest

theorem Decides.lastItem {first : Bool} (h : Decides (g false) [] o) :
    Decides (anotherItem first >>= g) [.closeArray] o := by
  have hanother : Takes (anotherItem first) [.closeArray] false := fun _ => rfl
  exact hanother.bind_decides h

end More

variable {γ : Type} {item : Reader α} {write : γ → List Token} {value : γ → Option α}
  {cs : List γ}

theorem map_mapM_cons (value : γ → Option α) (c : γ) (cs : List γ) (read : List α) :
    ((c :: cs).mapM value).map (read.reverse ++ ·) =
      (value c).bind fun a => (cs.mapM value).map ((a :: read).reverse ++ ·) := by
  rw [List.mapM_cons]
  cases value c with
  | none => rfl
  | some a => cases cs.mapM value <;> simp

/-- The items of an array after those that have been read. -/
theorem decides_items_following (hopens : ∀ c ∈ cs, Opens (write c))
    (h : ∀ c ∈ cs, Decides item (write c) (value c)) {read : List α} (hread : read ≠ [])
    {fuel : Nat} (hfuel : cs.length < fuel) :
    Decides (items item fuel read) ((cs.map write).flatMap (.comma :: ·) ++ [.closeArray])
      ((cs.mapM value).map (read.reverse ++ ·)) := by
  induction cs generalizing read fuel with
  | nil =>
    obtain ⟨fuel, rfl⟩ := Nat.exists_eq_succ_of_ne_zero (Nat.ne_zero_of_lt hfuel)
    rw [items]
    refine .lastItem ?_
    simpa using (Takes.pure read.reverse).decides
  | cons c cs ih =>
    obtain ⟨fuel, rfl⟩ := Nat.exists_eq_succ_of_ne_zero (Nat.ne_zero_of_lt hfuel)
    have following (a : α) := ih (fun c hc => hopens c (.tail _ hc)) (fun c hc => h c (.tail _ hc))
      (List.cons_ne_nil a read) (Nat.lt_of_succ_lt_succ hfuel)
    have now := Decides.nextItem (g := fun more =>
        if more then do items item fuel ((← item) :: read) else pure read.reverse)
      ((hopens c List.mem_cons_self).append _)
      ((h c List.mem_cons_self).bind fun a _ => following a)
    rw [items, List.isEmpty_eq_false_iff.mpr hread, map_mapM_cons]
    simpa using now

theorem decides_items (hopens : ∀ c ∈ cs, Opens (write c))
    (h : ∀ c ∈ cs, Decides item (write c) (value c)) {fuel : Nat} (hfuel : cs.length < fuel) :
    Decides (items item fuel []) (separated (cs.map write) ++ [.closeArray]) (cs.mapM value) := by
  obtain ⟨fuel, rfl⟩ := Nat.exists_eq_succ_of_ne_zero (Nat.ne_zero_of_lt hfuel)
  rw [items]
  cases cs with
  | nil => exact .lastItem (Takes.pure []).decides
  | cons c cs =>
    have following (a : α) := decides_items_following (fun c hc => hopens c (.tail _ hc))
      (fun c hc => h c (.tail _ hc)) (List.cons_ne_nil a []) (Nat.lt_of_succ_lt_succ hfuel)
    have hvalue : (c :: cs).mapM value =
        (value c).bind fun a => (cs.mapM value).map ([a].reverse ++ ·) := by
      simpa using map_mapM_cons value c cs []
    rw [List.map_cons, separated_cons, List.append_assoc, hvalue]
    exact .firstItem ((hopens c List.mem_cons_self).append _)
      ((h c List.mem_cons_self).bind fun a _ => following a)

/-- An array is decided about item by item. -/
theorem decides_list (hopens : ∀ c ∈ cs, Opens (write c))
    (h : ∀ c ∈ cs, Decides item (write c) (value c)) :
    Decides (list item) (.openArray :: (separated (cs.map write) ++ [.closeArray]))
      (cs.mapM value) := by
  refine (takes_token .openArray).bind_decides (.enough fun fuel hfuel => decides_items hopens h ?_)
  have hlength := length_le_separated (cs.map write) .closeArray
  rw [List.length_map] at hlength
  exact Nat.lt_of_le_of_lt hlength hfuel

/-- An array is read if its items are. -/
theorem takes_list {write : α → List Token} {as : List α} (hopens : ∀ a ∈ as, Opens (write a))
    (htakes : ∀ a ∈ as, Takes item (write a) a) :
    Takes (list item) (.openArray :: (separated (as.map write) ++ [.closeArray])) as := by
  have hdecides := decides_list hopens fun a ha => (htakes a ha).decides
  have hall : as.mapM some = some as := (List.mapM_pure (f := id)).trans (by simp)
  exact Decides.takes (hall ▸ hdecides)

end Items

/-! ## Objects -/

/-- What `member` makes of `a`, one member after the other. -/
inductive Fills (member : String → α → Reader α) : α → List (String × Json) → α → Prop where
  | nil (a : α) : Fills member a [] a
  | cons {a a' a'' : α} {m : String × Json} {ms : List (String × Json)}
      (first : Takes (member m.1 a) (.colon :: m.2.tokens) a') (rest : Fills member a' ms a'') :
      Fills member a (m :: ms) a''

section Members

variable {member : String → α → Reader α} {a' : α} {ms : List (String × Json)}

theorem takes_firstName (name : String) : Takes (anotherName true) [literal name] (some name) := by
  intro rest
  change (literalText _ _ >>= fun s => Except.ok (some s, rest)) = _
  rw [literalText_literal]
  rfl

theorem takes_nextName (name : String) :
    Takes (anotherName false) [.comma, literal name] (some name) := by
  intro rest
  change (literalText _ _ >>= fun s => Except.ok (some s, rest)) = _
  rw [literalText_literal]
  rfl

theorem takes_lastName (first : Bool) : Takes (anotherName first) [.closeObject] none :=
  fun _ => rfl

/-- The members of an object after those that have been read. -/
theorem Fills.takes_following (h : Fills member a ms a') {fuel : Nat} (hfuel : ms.length < fuel) :
    Takes (members member fuel false a)
      ((ms.map memberTokens).flatMap (.comma :: ·) ++ [.closeObject]) a' := by
  induction h generalizing fuel with
  | nil a =>
    obtain ⟨fuel, rfl⟩ := Nat.exists_eq_succ_of_ne_zero (Nat.ne_zero_of_lt hfuel)
    rw [members]
    exact (takes_lastName false).bind_nil (.pure a)
  | @cons _ _ _ m ms first _ ih =>
    obtain ⟨fuel, rfl⟩ := Nat.exists_eq_succ_of_ne_zero (Nat.ne_zero_of_lt hfuel)
    rw [members, List.map_cons, List.flatMap_cons, memberTokens, List.append_assoc]
    exact (takes_nextName m.1).bind (first.bind (ih (Nat.lt_of_succ_lt_succ hfuel)))

/-- The members of an object are read if each of them is. -/
theorem Fills.takes (h : Fills member a ms a') {fuel : Nat}
    (hfuel : (separated (ms.map memberTokens) ++ [Token.closeObject]).length < fuel) :
    Takes (members member fuel true a) (separated (ms.map memberTokens) ++ [.closeObject]) a' := by
  have hlength := length_le_separated (ms.map memberTokens) .closeObject
  rw [List.length_map] at hlength
  replace hfuel := Nat.lt_of_le_of_lt hlength hfuel
  obtain ⟨fuel, rfl⟩ := Nat.exists_eq_succ_of_ne_zero (Nat.ne_zero_of_lt hfuel)
  rw [members]
  cases h with
  | nil a => exact (takes_lastName true).bind_nil (.pure a)
  | @cons _ _ _ m ms first rest =>
    rw [List.map_cons, separated_cons, memberTokens, List.append_assoc]
    exact (takes_firstName m.1).bind
      (first.bind (rest.takes_following (Nat.lt_of_succ_lt_succ hfuel)))

end Members

end Reader

end UsbHost.Json
