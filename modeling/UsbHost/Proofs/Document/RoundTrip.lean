import UsbHost.Document
import UsbHost.Proofs.Json.Keeping
import UsbHost.Proofs.Json.Reading

/-! # Documents are read as they were written

Both texts of a value are read as that value, unless they are too large (`decode_of_mem`).
What this takes is that the JSON form of a value fits, and that the reader of the type takes its
tokens (`Faithful`): for a type with a schema it is enough that the schema is sound (`Lawful`).  For
an outcome the payload also has to be nested no deeper than a kept value may be, which the schema
bounds.
-/
namespace UsbHost

open Json
open Json.Reader (Takes Fills)

/-! ## Types with sound schemas -/

/-- A type whose schema is sound. -/
class Json.Lawful (α : Type) [Described α] : Prop where
  sound : (Described.schema α).Sound

section Instances

variable {α : Type} [Described α]

instance : Lawful Unit := ⟨trivial⟩

instance : Lawful String := ⟨trivial⟩

instance : Lawful ConnectionId := ⟨(by decide : 32 ≤ 64)⟩

instance [Lawful α] : Lawful (List α) := ⟨Lawful.sound (α := α)⟩

instance : Lawful DeviceRecord := ⟨by simp [Described.schema]⟩

instance : Lawful EndpointRecord := ⟨by simp [Described.schema]⟩

instance : Lawful InterfaceRecord := ⟨by simp [Described.schema]⟩

instance : Lawful ConfigRecord := ⟨by simp [Described.schema]⟩

instance : Lawful ControlRequest := ⟨by simp [Described.schema]⟩

instance : Lawful DataRequest := ⟨by simp [Described.schema]⟩

instance : Lawful Response := ⟨by simp [Described.schema]⟩

end Instances

namespace Document

variable {α : Type}

/-! ## Faithful formats -/

/-- A type whose values are read from the tokens of their JSON forms. -/
class Faithful (α : Type) [Format α] : Prop where
  fits : ∀ a : α, ∃ depth, Fits depth (Format.toJson a)
  takes : ∀ a : α, Takes Format.read (Format.toJson a).tokens a

theorem whole_of_takes {reading : Reader α} {tokens : List Token} {a : α}
    (h : Takes reading tokens a) : whole reading tokens = .ok a := by
  have hread := h []
  rw [List.append_nil] at hread
  rw [whole, hread]
  rfl

/-- **Both texts of a value are read as the value**, unless they are too large. -/
theorem decode_of_mem [Format α] [Faithful α] {a : α} {text : String}
    (h : text ∈ [encode a, encodePretty a]) :
    decode text =
      if text.utf8ByteSize ≤ maxSize then .ok a else .error (.tooLarge text.utf8ByteSize) := by
  obtain ⟨depth, hfits⟩ := Faithful.fits a
  have hscan : scan text.toList = (Format.toJson a).tokens := by
    simp only [List.mem_cons, List.not_mem_nil, or_false] at h
    rcases h with rfl | rfl
    · rw [encode, String.toList_ofList]
      exact scan_eq_of_scansTo hfits.scansTo_render
    · rw [encodePretty, String.toList_ofList]
      exact scan_eq_of_scansTo (hfits.scansTo_renderPretty 0)
  rw [decode, hscan, whole_of_takes (Faithful.takes a)]
  by_cases hsize : text.utf8ByteSize ≤ maxSize
  · rw [if_neg (Nat.not_lt.mpr hsize), if_pos hsize]
    rfl
  · rw [if_pos (Nat.lt_of_not_le hsize), if_neg hsize]

section Described

variable [Described α] [Lawful α]

/-- A value is read by its schema, whether its tokens were kept or not. -/
theorem takes_schema (kept : Bool) (a : α) :
    Takes (Described.ofCarrier <$> (Described.schema α).read kept)
      (Described.toJson a).tokens a := by
  have h := (Schema.takes kept _ Lawful.sound (Described.toCarrier a)).map Described.ofCarrier
  rwa [Described.ofCarrier_toCarrier] at h

theorem fits_schema (a : α) : Fits (Described.schema α).depth (Described.toJson a) :=
  Schema.fits _ Lawful.sound (Described.toCarrier a)

instance : Faithful α where
  fits a := ⟨_, fits_schema a⟩
  takes := takes_schema false

/-! ## Outcomes -/

theorem fromKept_tokens (a : α) : fromKept (Described.toJson a).tokens = .ok a := by
  rw [fromKept, whole_of_takes (takes_schema true a)]

theorem takes_readStatus (status : Status) : Takes readStatus [literal status.name] status :=
  (Reader.takes_text status.name).bind_nil (.lift (by cases status <;> rfl))

/-- The first member of an outcome is its status. -/
theorem fills_status (status : Status) {ms : List (String × Json)} {kept : KeptOutcome}
    (h : Fills KeptOutcome.member { status } ms kept) :
    Fills KeptOutcome.member {} (("status", .string status.name) :: ms) kept := by
  refine .cons ?_ h
  rw [KeptOutcome.member, if_pos rfl, tokens]
  exact (Reader.takes_exactly .colon).bind ((takes_readStatus status).bind_nil (.pure _))

/-- Any other member is kept. -/
theorem fills_kept {name : String} (hname : name ≠ "status") {v : Json} {depth : Nat}
    (hfits : Fits depth v) (hdepth : depth ≤ keptDepth) (kept : KeptOutcome) :
    Fills KeptOutcome.member kept [(name, v)]
      { kept with members := (name, v.tokens) :: kept.members } := by
  refine .cons ?_ (.nil _)
  rw [KeptOutcome.member, if_neg hname]
  exact (Reader.takes_exactly .colon).bind ((hfits.takes_keep hdepth).bind_nil (.pure _))

omit [Lawful α] in
/-- An outcome is read if its members are, and say which outcome it is. -/
theorem takes_readOutcome {ms : List (String × Json)} {kept : KeptOutcome} {o : Outcome α}
    (hfills : Fills KeptOutcome.member {} ms kept) (houtcome : kept.toOutcome = .ok o) :
    Takes readOutcome (Json.object ms).tokens o := by
  rw [tokens_object]
  refine (Reader.takes_token .openObject).bind (.enough fun fuel hfuel => ?_)
  exact (hfills.takes hfuel).bind_nil (.lift houtcome)

theorem toOutcome_succeeded (payload : α) :
    KeptOutcome.toOutcome ⟨some .succeeded, [("payload", (Described.toJson payload).tokens)]⟩ =
      .ok (.succeeded payload) := by
  change Outcome.succeeded <$> fromKept (Described.toJson payload).tokens = _
  rw [fromKept_tokens]
  rfl

omit [Lawful α] in
theorem toOutcome_failed (message : String) :
    KeptOutcome.toOutcome ⟨some .failed, [("message", (Described.toJson message).tokens)]⟩ =
      .ok (.failed (α := α) message) := by
  change Outcome.failed <$> fromKept (Described.toJson message).tokens = _
  rw [fromKept_tokens]
  rfl

theorem faithful_outcome (hdepth : (Described.schema α).depth ≤ keptDepth) :
    Faithful (Outcome α) where
  fits o := by
    refine ⟨(Described.schema α).depth + 1, ?_⟩
    cases o with
    | succeeded payload => exact .object (by simp [Fits.string, fits_schema])
    | failed message => exact .object (by simp [Fits.string])
    | canceled => exact .object (by simp [Fits.string])
  takes o := by
    cases o with
    | succeeded payload =>
      exact takes_readOutcome
        (fills_status .succeeded (fills_kept (by decide) (fits_schema payload) hdepth _))
        (toOutcome_succeeded payload)
    | failed message =>
      exact takes_readOutcome
        (fills_status .failed (fills_kept (by decide) (.string message) (Nat.zero_le _) _))
        (toOutcome_failed message)
    | canceled => exact takes_readOutcome (fills_status .canceled (.nil _)) rfl

end Described

/-! ## The documents of the library -/

/-- Both texts of each value are read as the value, unless they are too large. -/
def RoundTrips (α : Type) [Format α] : Prop :=
  ∀ a : α, ∀ text ∈ [encode a, encodePretty a],
    decode text =
      if text.utf8ByteSize ≤ maxSize then .ok a else .error (.tooLarge text.utf8ByteSize)

theorem roundTrips [Format α] [Faithful α] : RoundTrips α := fun _ _ => decode_of_mem

/-- **What is written is read again**, whatever the records, requests, responses and outcomes hold,
as long as the text is not too large to be read. -/
theorem records_round_trip :
    RoundTrips DeviceRecord ∧ RoundTrips (List DeviceRecord) ∧ RoundTrips EndpointRecord ∧
    RoundTrips InterfaceRecord ∧ RoundTrips ConfigRecord ∧ RoundTrips (List ConfigRecord) ∧
    RoundTrips ControlRequest ∧ RoundTrips DataRequest ∧ RoundTrips Response ∧
    RoundTrips (Outcome Unit) ∧ RoundTrips (Outcome ConnectionId) ∧
    RoundTrips (Outcome (List DeviceRecord)) ∧ RoundTrips (Outcome (List ConfigRecord)) ∧
    RoundTrips (Outcome Response) := by
  have outcome {β : Type} [Described β] [Lawful β]
      (hdepth : (Described.schema β).depth ≤ keptDepth) : RoundTrips (Outcome β) :=
    have := faithful_outcome hdepth
    roundTrips
  refine ⟨roundTrips, roundTrips, roundTrips, roundTrips, roundTrips, roundTrips, roundTrips,
    roundTrips, roundTrips, outcome ?_, outcome ?_, outcome ?_, outcome ?_, outcome ?_⟩ <;> decide

/-- The record of a device that tells its name only. -/
def reader : DeviceRecord where
  device := ⟨7⟩
  vendor := 0x04A9
  product := 0x5410
  version := some 0x0100
  productName := some "Reader"
  manufacturerName := none
  serialNumber := none

/-- Its text. -/
def reader.text : String :=
  "\x7b\"device\":7,\"vendorId\":1193,\"productId\":21520,\"version\":256,"
    ++ "\"productName\":\"Reader\",\"manufacturerName\":null,\"serialNumber\":null\x7d"

theorem records_round_trip_reader :
    encode reader = reader.text ∧ decode reader.text = .ok reader := by
  have htext : encode reader = reader.text := by decide +kernel
  have hsmall : reader.text.utf8ByteSize ≤ maxSize := by decide +kernel
  obtain ⟨devices, -⟩ := records_round_trip
  have hread := devices reader reader.text (htext ▸ .head _)
  rw [if_pos hsmall] at hread
  exact ⟨htext, hread⟩

end Document
end UsbHost
