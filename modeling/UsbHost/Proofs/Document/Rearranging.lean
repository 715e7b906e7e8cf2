import Mathlib.Data.Multiset.ZeroCons
import UsbHost.Document
import UsbHost.Proofs.Json.Printing
import UsbHost.Proofs.Json.Rearranging

/-! # Documents with their members in another order

A text that is decoded is still decoded to the same value when members of its records
change their places, and when members come that are not known (`decode_rearranged`).
For a type with a schema this is `Schema.Rearranged.value?_eq`.  An outcome keeps the
members besides its status before it knows what they are; here it matters only how often
each name came, and with which values (`Gathered`), and in that the order is forgotten.
-/
namespace UsbHost.Document

open Json
open Json.Reader (Takes Decides Decided enter)
open Json.Written (WellFormed Admissible)

variable {α : Type}

/-! ## Whole texts -/

theorem toOption_whole {reading : Reader α} {tokens : List Token} {o : Option α}
    (h : Decides reading tokens o) : (whole reading tokens).toOption = o := by
  have hread := h []
  rw [List.append_nil] at hread
  rw [whole, Reader.toOption_bind, hread]
  cases o <;> rfl

/-- A text is decoded to what is read of its meaning. -/
theorem decode_eq_ok_iff [Format α] {text : String} {n : Written} (h : Spells text.toList n)
    {o : Option α} (hdecides : Decides Format.read n.tokens o) {a : α} :
    decode text = .ok a ↔ text.utf8ByteSize ≤ maxSize ∧ o = some a := by
  have hwhole := toOption_whole hdecides
  rw [decode, h.scan_eq]
  split
  · rename_i hsize
    exact iff_of_false nofun fun h => absurd h.1 (Nat.not_le.mpr hsize)
  · rename_i hsize
    rw [← hwhole]
    cases whole (Format.read : Reader α) n.tokens <;>
      simp [Except.mapError, Except.toOption, Nat.le_of_not_gt hsize]

section Described
variable [Described α]

theorem decides_read {n : Written} (hn : n.WellFormed) (kept : Bool) :
    Decides (Described.ofCarrier <$> (Described.schema α).read kept) n.tokens
      (((Described.schema α).value? kept n).map Described.ofCarrier) :=
  Decides.map (Schema.decided kept _ hn) _

/-! ## Members of an outcome -/

/-- The members that outcomes know, in the form of an object. -/
def outcomeFields (payload : Schema) : Fields :=
  .cons "status" .required .text <|
  .cons "payload" .defaulted payload <|
  .cons "message" .defaulted .text .nil

/-- The status that is read of a value. -/
def status? (n : Written) : Option Status := Reader.result? readStatus n.tokens

open Classical in
/-- What a member does to what has been kept of an outcome. -/
noncomputable def KeptOutcome.enter? (name : String) (n : Written) (kept : KeptOutcome) :
    Option KeptOutcome :=
  if name = "status" then
    if kept.status.isSome then none
    else (status? n).map fun status => { kept with status := some status }
  else if Admissible keptDepth n then
    some { kept with members := (name, n.tokens) :: kept.members }
  else none

theorem decided_readStatus (n : Written) : Decided readStatus n.tokens :=
  (Reader.decided_text n).bind_nil fun name => (Decides.lift (Status.ofName name)).decided

theorem decides_member {n : Written} (hn : n.WellFormed) (name : String) (kept : KeptOutcome) :
    Decides (KeptOutcome.member name kept) (.colon :: n.tokens) (kept.enter? name n) := by
  rw [KeptOutcome.member, KeptOutcome.enter?]
  split
  · split
    · exact Reader.decides_throw _ _
    · have hvalue := Decides.map (decided_readStatus n) fun status =>
        { kept with status := some status }
      exact (Reader.takes_exactly .colon).bind_decides hvalue
  · have hvalue := Decides.map (hn.decides_keep keptDepth) fun tokens =>
      { kept with members := (name, tokens) :: kept.members }
    rw [apply_ite (Option.map _)] at hvalue
    exact (Reader.takes_exactly .colon).bind_decides hvalue

/-- An outcome in the form of an object is what its members make of it. -/
theorem decides_readOutcome {ms : List (List Piece × Written)} (hms : ∀ m ∈ ms, m.2.WellFormed) :
    Decides (readOutcome : Reader (Outcome α)) (Written.object ms).tokens
      ((ms.foldlM (enter KeptOutcome.enter?) {}).bind fun kept => kept.toOutcome.toOption) := by
  rw [Written.tokens_object, readOutcome]
  refine (Reader.takes_token .openObject).bind_decides (.enough fun fuel hfuel => ?_)
  exact (Reader.decides_members (fun m hm name kept => decides_member (hms m hm) name kept) {}
    hfuel).bind_nil fun kept _ => Decides.lift kept.toOutcome

/-! ## What is gathered, without its order -/

/-- The value that is read of kept tokens. -/
def valueOf? (α : Type) [Described α] (tokens : List Token) : Option α :=
  (fromKept tokens : Except Problem α).toOption

theorem valueOf?_tokens {n : Written} (hn : n.WellFormed) :
    valueOf? α n.tokens = ((Described.schema α).value? true n).map Described.ofCarrier := by
  rw [← toOption_whole (decides_read hn true), valueOf?, fromKept]
  cases whole _ n.tokens <;> rfl

/-- One more value among those under the name `known`, if it came under this name. -/
def note {β : Type} (known name : String) (v : β) (vs : Multiset β) : Multiset β :=
  if name = known then v ::ₘ vs else vs

theorem note_of_ne {β : Type} {known name : String} (h : name ≠ known) (v : β) (vs : Multiset β) :
    note known name v vs = vs := if_neg h

theorem note_swap {β : Type} (known name name' : String) (v v' : β) (vs : Multiset β) :
    note known name' v' (note known name v vs) = note known name v (note known name' v' vs) := by
  by_cases h : name = known <;> by_cases h' : name' = known <;>
    simp [note, h, h', Multiset.cons_swap]

/-- What the kept values under a name are read as. -/
def valuesOf (α : Type) [Described α] (members : List (String × List Token)) (name : String) :
    Multiset (Option α) :=
  ↑((members.filter (·.1 = name)).map fun m => valueOf? α m.2)

theorem valuesOf_cons (name : String) (tokens : List Token)
    (members : List (String × List Token)) (known : String) :
    valuesOf α ((name, tokens) :: members) known =
      note known name (valueOf? α tokens) (valuesOf α members known) := by
  by_cases h : name = known <;> simp [valuesOf, note, h]

/-- An outcome as far as it has been read, without the order of its members. -/
structure Gathered (α : Type) where
  status : Option Status
  payloads : Multiset (Option α)
  messages : Multiset (Option String)

/-- What was gathered in what has been kept. -/
def KeptOutcome.gathered (α : Type) [Described α] (kept : KeptOutcome) : Gathered α where
  status := kept.status
  payloads := valuesOf α kept.members "payload"
  messages := valuesOf String kept.members "message"

namespace Gathered

/-- One more value, under a name that may be of interest. -/
def keep (g : Gathered α) (name : String) (tokens : List Token) : Gathered α where
  status := g.status
  payloads := note "payload" name (valueOf? α tokens) g.payloads
  messages := note "message" name (valueOf? String tokens) g.messages

open Classical in
/-- What a member does to what is gathered. -/
noncomputable def enter? (name : String) (n : Written) (g : Gathered α) : Option (Gathered α) :=
  if name = "status" then
    if g.status.isSome then none
    else (status? n).map fun status => { g with status := some status }
  else if Admissible keptDepth n then some (g.keep name n.tokens)
  else none

end Gathered

theorem gathered_keep (kept : KeptOutcome) (name : String) (tokens : List Token) :
    KeptOutcome.gathered α { kept with members := (name, tokens) :: kept.members } =
      (kept.gathered α).keep name tokens := by
  rw [KeptOutcome.gathered, Gathered.keep, valuesOf_cons, valuesOf_cons]
  rfl

/-- Members do the same to what is gathered as to what is kept. -/
theorem gathered_enter? (name : String) (n : Written) (kept : KeptOutcome) :
    (kept.enter? name n).map (·.gathered α) = (kept.gathered α).enter? name n := by
  rw [KeptOutcome.enter?, Gathered.enter?]
  split
  · change (if kept.status.isSome then none else _).map _ = if kept.status.isSome then none else _
    split
    · rfl
    · rw [Option.map_map]
      rfl
  · split
    · exact congrArg some (gathered_keep kept name n.tokens)
    · rfl

theorem gathered_foldlM (ms : List (List Piece × Written)) (kept : KeptOutcome) :
    (ms.foldlM (enter KeptOutcome.enter?) kept).map (·.gathered α) =
      ms.foldlM (enter Gathered.enter?) (kept.gathered α) := by
  induction ms generalizing kept with
  | nil => rfl
  | cons m ms ih =>
    rw [Reader.foldlM_enter_cons, Reader.foldlM_enter_cons]
    cases textOf? m.1 with
    | none => rfl
    | some name =>
      change ((kept.enter? name m.2).bind _).map _ = (Gathered.enter? name m.2 _).bind _
      rw [← gathered_enter?, Option.map_bind, Option.bind_map]
      exact congrArg _ (funext ih)

/-- The only value under a name does not depend on the order of the values. -/
theorem only_congr {members members' : List (String × List Token)} {name : String}
    (h : valuesOf α members name = valuesOf α members' name) :
    (KeptOutcome.only members name).toOption.bind (valueOf? α) =
      (KeptOutcome.only members' name).toOption.bind (valueOf? α) := by
  have hperm := Multiset.coe_eq_coe.mp h
  have hlength := hperm.length_eq
  unfold KeptOutcome.only
  generalize members.filter (·.1 = name) = told at *
  generalize members'.filter (·.1 = name) = told' at *
  match told, told', hlength with
  | [], [], _ => rfl
  | [m], [m'], _ => exact List.singleton_perm_singleton.mp hperm
  | _ :: _ :: _, _ :: _ :: _, _ => rfl

theorem toOption_toOutcome (kept : KeptOutcome) :
    (kept.toOutcome : Except Problem (Outcome α)).toOption =
      match kept.status with
      | some .succeeded =>
        ((KeptOutcome.only kept.members "payload").toOption.bind (valueOf? α)).map .succeeded
      | some .failed =>
        ((KeptOutcome.only kept.members "message").toOption.bind (valueOf? String)).map .failed
      | some .canceled => some .canceled
      | none => none := by
  rw [KeptOutcome.toOutcome]
  cases kept.status with
  | none => rfl
  | some status =>
    cases status with
    | succeeded =>
      simp only [Reader.toOption_bind, Option.map_eq_bind, Option.bind_assoc, valueOf?]
      rfl
    | failed =>
      simp only [Reader.toOption_bind, Option.map_eq_bind, Option.bind_assoc, valueOf?]
      rfl
    | canceled => rfl

/-- The outcome depends on what is gathered, and on nothing else. -/
theorem toOutcome_congr {kept kept' : KeptOutcome} (h : kept.gathered α = kept'.gathered α) :
    (kept.toOutcome : Except Problem (Outcome α)).toOption =
      (kept'.toOutcome : Except Problem (Outcome α)).toOption := by
  have hstatus : kept.status = kept'.status := congrArg Gathered.status h
  have hpayload := only_congr (congrArg Gathered.payloads h)
  have hmessage := only_congr (congrArg Gathered.messages h)
  rw [toOption_toOutcome, toOption_toOutcome, hstatus, hpayload, hmessage]

/-! ## Outcomes whose members are rearranged -/

/-- Three names are known, and what is not the payload is a text. -/
theorem shape?_outcomeFields (payload : Schema) {pieces : List Piece} {name : String}
    (hname : textOf? pieces = some name) :
    (outcomeFields payload).shape? pieces = some .text ∨
    name = "payload" ∧ (outcomeFields payload).shape? pieces = some payload ∨
    name ∉ ["status", "payload", "message"] ∧ (outcomeFields payload).shape? pieces = none := by
  simp only [outcomeFields, Fields.shape?, hname, Option.some_inj]
  grind

namespace Gathered

theorem keep_swap (g : Gathered α) (name name' : String) (tokens tokens' : List Token) :
    (g.keep name tokens).keep name' tokens' = (g.keep name' tokens').keep name tokens :=
  congrArg₂ (Gathered.mk g.status) (note_swap ..) (note_swap ..)

/-- Two members can be gathered in either order. -/
theorem enter?_swap (name name' : String) (n n' : Written) (g : Gathered α) :
    (g.enter? name n).bind (enter? name' n') = (g.enter? name' n').bind (enter? name n) := by
  by_cases hname : name = "status" <;> by_cases hname' : name' = "status"
  · cases hstatus : g.status <;> cases hn : status? n <;> cases hn' : status? n' <;>
      simp [enter?, hname, hname', hstatus, hn, hn']
  · cases hstatus : g.status <;> cases hn : status? n <;> by_cases hn' : Admissible keptDepth n' <;>
      simp [enter?, keep, hname, hname', hstatus, hn, hn']
  · cases hstatus : g.status <;> by_cases hn : Admissible keptDepth n <;> cases hn' : status? n' <;>
      simp [enter?, keep, hname, hname', hstatus, hn, hn']
  · by_cases hn : Admissible keptDepth n <;> by_cases hn' : Admissible keptDepth n' <;>
      simp [enter?, hname, hname', hn, hn', keep_swap g name name']

/-- A name that outcomes do not know changes nothing. -/
theorem enter?_unknown {name : String} (hname : name ∉ ["status", "payload", "message"])
    {n : Written} (hn : Admissible keptDepth n) (g : Gathered α) : g.enter? name n = some g := by
  simp only [List.mem_cons, List.not_mem_nil, or_false, not_or] at hname
  rw [enter?, if_neg hname.1, if_pos hn, keep, note_of_ne hname.2.1, note_of_ne hname.2.2]

/-- A payload matters only as what it is read as. -/
theorem enter?_payload {n n' : Written}
    (hadmissible : Admissible keptDepth n ↔ Admissible keptDepth n')
    (hvalue : valueOf? α n.tokens = valueOf? α n'.tokens) (g : Gathered α) :
    g.enter? "payload" n = g.enter? "payload" n' := by
  have hstatus : "payload" ≠ "status" := by decide
  have hmessage : "payload" ≠ "message" := by decide
  have hkeep : g.keep "payload" n.tokens = g.keep "payload" n'.tokens := by
    rw [keep, keep, hvalue, note_of_ne hmessage, note_of_ne hmessage]
  rw [enter?, enter?, if_neg hstatus, if_neg hstatus, hkeep, propext hadmissible]

/-- A member whose value is rearranged does the same. -/
theorem enter?_congr {pieces : List Piece} {name : String} (hname : textOf? pieces = some name)
    {n n' : Written} (hn : n.WellFormed) (hn' : n'.WellFormed)
    (known : ∀ s, (outcomeFields (Described.schema α)).shape? pieces = some s →
      s.Rearranged keptDepth n n')
    (unknown : (outcomeFields (Described.schema α)).shape? pieces = none → n = n')
    (g : Gathered α) : g.enter? name n = g.enter? name n' := by
  rcases shape?_outcomeFields (Described.schema α) hname with hshape | ⟨rfl, hshape⟩ | ⟨-, hshape⟩
  · rw [(known _ hshape).eq_of_text]
  · have hvalue := known _ hshape
    refine enter?_payload hvalue.admissible_iff ?_ g
    rw [valueOf?_tokens hn, valueOf?_tokens hn', hvalue.value?_eq hn hn']
  · rw [unknown hshape]

end Gathered

/-- **The members of an outcome can be rearranged.** -/
theorem toOutcome_rearranged {ms ms' : List (List Piece × Written)}
    (h : (Schema.record (outcomeFields (Described.schema α))).Rearranged (keptDepth + 1)
      (.object ms) (.object ms'))
    (hms : ∀ m ∈ ms, m.2.WellFormed) (hms' : ∀ m ∈ ms', m.2.WellFormed) :
    ((ms.foldlM (enter KeptOutcome.enter?) {}).bind fun kept =>
        (kept.toOutcome : Except Problem (Outcome α)).toOption) =
      (ms'.foldlM (enter KeptOutcome.enter?) {}).bind fun kept => kept.toOutcome.toOption := by
  have hgathered : (ms.foldlM (enter KeptOutcome.enter?) {}).map (·.gathered α) =
      (ms'.foldlM (enter KeptOutcome.enter?) {}).map (·.gathered α) := by
    rw [gathered_foldlM, gathered_foldlM]
    cases h with
    | same => rfl
    | @record _ _ stay added _ known unknown names values order =>
      refine (foldlM_enter_rearranged Gathered.enter?_swap (fun m hm name hname g => ?_)
        (fun m hm => (names m hm).1) (fun m hm name hname g => ?_) order _).symm
      · obtain ⟨hold, hnew⟩ := wellFormed_kept order hms hms' m hm
        exact Gathered.enter?_congr hname hold hnew (known m hm) (unknown m hm) g
      · have hshape := (names m hm).2
        rcases shape?_outcomeFields (Described.schema α) hname with
          hknown | ⟨-, hknown⟩ | ⟨hunknown, -⟩
        · cases hknown.symm.trans hshape
        · cases hknown.symm.trans hshape
        · exact Gathered.enter?_unknown hunknown (values m hm) g
  generalize ms.foldlM (enter KeptOutcome.enter?) {} = o at *
  generalize ms'.foldlM (enter KeptOutcome.enter?) {} = o' at *
  cases o <;> cases o'
  · rfl
  · cases hgathered
  · cases hgathered
  · exact toOutcome_congr (Option.some.inj hgathered)

/-- **The order of members, and members that are not known, do not matter.**  If a text is
decoded to a value, so is any other text that is not too large and means the same with
the members of records rearranged: of records, requests and responses, of lists of them,
and of outcomes, whose own members may be rearranged too. -/
theorem decode_rearranged {text text' : String} {n n' : Written} (spells : Spells text.toList n)
    (spells' : Spells text'.toList n') (size : text'.utf8ByteSize ≤ maxSize) :
    (∀ room, (Described.schema α).Rearranged room n n' →
      ∀ a : α, decode text = .ok a → decode text' = .ok a) ∧
    ∀ ms, n = .object ms →
      (Schema.record (outcomeFields (Described.schema α))).Rearranged (keptDepth + 1) n n' →
        ∀ o : Outcome α, decode text = .ok o → decode text' = .ok o := by
  refine ⟨fun room h a hdecode => ?_, fun ms hms h o hdecode => ?_⟩
  · rw [decode_eq_ok_iff spells (decides_read spells.wellFormed false)] at hdecode
    rw [decode_eq_ok_iff spells' (decides_read spells'.wellFormed false),
      ← h.value?_eq spells.wellFormed spells'.wellFormed]
    exact ⟨size, hdecode.2⟩
  · subst hms
    have hobject : ∃ ms', n' = .object ms' := by cases h <;> exact ⟨_, rfl⟩
    obtain ⟨ms', rfl⟩ := hobject
    cases spells.wellFormed with | object _ hms =>
    cases spells'.wellFormed with | object _ hms' =>
    rw [decode_eq_ok_iff spells (decides_readOutcome hms), toOutcome_rearranged h hms hms']
      at hdecode
    exact (decode_eq_ok_iff spells' (decides_readOutcome hms')).mpr ⟨size, hdecode.2⟩

end Described

/-- The status may come last, and a member that is not known may come with the payload. -/
theorem decode_rearranged_status_last :
    decode "\x7b\"x\":null,\"data\":[7]\x7d" = .ok (⟨none, some [7]⟩ : Response) ∧
    decode "\x7b\"payload\":\x7b\"x\":null,\"data\":[7]\x7d,\"status\":\"succeeded\"\x7d" =
      .ok (Outcome.succeeded (⟨none, some [7]⟩ : Response)) := by
  let name (s : String) : List Piece := s.toList.map .char
  let data : Written := .array [.scalar (.number (.integer 7))]
  let payload : Written := .object [(name "data", data)]
  let payload' : Written := .object [(name "x", .scalar .null), (name "data", data)]
  let status : Written := .scalar (literal "succeeded")
  -- How deep the values are, which bounds how they are written.
  have hdata : Fits 1 (.array [.number 7]) :=
    .array (List.forall_mem_singleton.mpr (.number (by decide) (by decide)))
  have hpayload : Fits 2 (.object [("data", .array [.number 7])]) := .object (by simp [hdata])
  have hpayload' : Fits 2 (.object [("x", .null), ("data", .array [.number 7])]) :=
    .object (by simp [Fits.null, hdata])
  have hplain : Spells "\x7b\"data\":[7]\x7d".toList payload :=
    hpayload.spells (by decide +kernel) (by simp [written, name, payload, data])
  have hplain' : Spells "\x7b\"x\":null,\"data\":[7]\x7d".toList payload' :=
    hpayload'.spells (by decide +kernel) (by simp [written, name, payload', data])
  have hbefore : Spells
      "\x7b\"status\":\"succeeded\",\"payload\":\x7b\"data\":[7]\x7d\x7d".toList
      (.object [(name "status", status), (name "payload", payload)]) := by
    have hfits : Fits 3 (.object [("status", .string "succeeded"),
        ("payload", .object [("data", .array [.number 7])])]) :=
      .object (by simp [Fits.string, hpayload])
    exact hfits.spells (by decide +kernel) (by simp [written, name, status, payload, data])
  have hafter : Spells
      "\x7b\"payload\":\x7b\"x\":null,\"data\":[7]\x7d,\"status\":\"succeeded\"\x7d".toList
      (.object [(name "payload", payload'), (name "status", status)]) := by
    have hfits : Fits 3 (.object [("payload", .object [("x", .null), ("data", .array [.number 7])]),
        ("status", .string "succeeded")]) :=
      .object (by simp [Fits.string, hpayload'])
    exact hfits.spells (by decide +kernel) (by simp [written, name, status, payload', data])
  -- In the payload an unknown member comes first; in the envelope the members change places.
  have hinner : (Described.schema Response).Rearranged keptDepth payload payload' := by
    refine @Schema.Rearranged.record 125 _ [⟨name "data", data, data⟩] [(name "x", .scalar .null)] _
      (fun m hm s _ => ?_) (fun m hm _ => ?_) (fun m hm => ?_) (fun m hm => ?_) (.swap ..) <;>
      obtain rfl := List.mem_singleton.mp hm
    · exact .same _
    · rfl
    · exact ⟨by decide, by decide⟩
    · exact .scalar trivial
  have houter : (Schema.record (outcomeFields (Described.schema Response))).Rearranged
      (keptDepth + 1) (.object [(name "status", status), (name "payload", payload)])
      (.object [(name "payload", payload'), (name "status", status)]) := by
    refine @Schema.Rearranged.record keptDepth _
      [⟨name "status", status, status⟩, ⟨name "payload", payload, payload'⟩] [] _
      (fun m hm s hs => ?_) (fun m hm hs => ?_) (by simp) (by simp) (.swap ..)
    · rcases List.mem_pair.mp hm with rfl | rfl
      · exact .same _
      · cases (show some (Described.schema Response) = some s from hs)
        exact hinner
    · rcases List.mem_pair.mp hm with rfl | rfl
      · rfl
      · cases (show some (Described.schema Response) = none from hs)
  constructor
  · exact (decode_rearranged hplain hplain' (by decide)).1 _ hinner _ (by decide +kernel)
  · exact (decode_rearranged hbefore hafter (by decide)).2 _ rfl houter _ (by decide +kernel)

end UsbHost.Document
