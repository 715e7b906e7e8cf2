import UsbHost.Proofs.Transfer.Completion

/-! # Which transfers make a request

A transfer that asks for what no platform can do is refused as not supported.  Any
other is refused as invalid if its length does not fit: the buffer must hold as
much, and the length of a control transfer must be that of the setup block and the
data that the block states.  What is left makes a request
(`Transfer.request_cases`), and that is a control request of the block and the data
behind it, or a request of the endpoint for as much as the length says
(`Transfer.makes_of_request`).
-/
namespace UsbHost

namespace Setup

/-- The length that a setup block states, in its last two bytes. -/
def statedLength (buffer : List UInt8) : Nat :=
  (buffer.getD 6 0).toNat + 256 * (buffer.getD 7 0).toNat

/-- Eight bytes make a setup block. -/
theorem exists_parse {buffer : List UInt8} (h : size ≤ buffer.length) :
    ∃ setup, parse buffer = some setup ∧ setup.length.toNat = statedLength buffer := by
  have hsize : size = 8 := rfl
  obtain ⟨head, rest, rfl, hhead⟩ : ∃ head rest, buffer = head ++ rest ∧ head.length = 8 :=
    ⟨buffer.take 8, buffer.drop 8, (List.take_append_drop ..).symm, by
      rw [List.length_take]
      omega⟩
  match head, hhead with
  | [t, r, v₀, v₁, i₀, i₁, l₀, l₁], _ => exact ⟨_, rfl, toNat_ofLittleEndian l₀ l₁⟩

end Setup

namespace Transfer
variable {κ : Type} (t : Transfer κ)

/-- A transfer asks for what no platform can do. -/
def Unsupported : Prop := t.flags.contains .addZeroPacket = true ∨ t.kind = .isochronous

/-- The buffer is shorter than the length, or this is not the length of a setup block
and the data that it states. -/
def Missized : Prop :=
  t.bytes.length < t.length ∨
    t.kind = .control ∧
      (t.length < Setup.size ∨ Setup.statedLength t.bytes ≠ t.length - Setup.size)

instance : Decidable t.Unsupported := inferInstanceAs (Decidable (_ ∨ _))

instance : Decidable t.Missized := inferInstanceAs (Decidable (_ ∨ _))

/-- The bytes behind the setup block. -/
def stage : List UInt8 := (t.bytes.take t.length).drop Setup.size

/-- A transfer has a setup block at its start, which states its length. -/
structure HasSetup (setup : Setup) : Prop where
  parses : Setup.parse t.bytes = some setup
  length : t.length = Setup.size + setup.length.toNat
  fits : t.length ≤ t.bytes.length

theorem HasSetup.length_stage {t : Transfer κ} {setup : Setup} (h : t.HasSetup setup) :
    t.stage.length = setup.length.toNat := by
  have hlength := h.length
  have hfits := h.fits
  rw [stage, List.length_drop, List.length_take]
  omega

theorem controlRequest_cases (hkind : t.kind = .control) :
    (t.Missized ∧ ∃ why, t.controlRequest = .error why ∧ why.error = .invalidParam) ∨
    (¬ t.Missized ∧ ∃ setup, t.HasSetup setup ∧
      t.controlRequest = .ok (setup.toRequest t.stage t.timeout)) := by
  have hbytes : t.buffer.getD [] = t.bytes := rfl
  rw [controlRequest, hbytes]
  by_cases hshort : t.length < Setup.size
  · rw [if_pos hshort]
    exact .inl ⟨.inr ⟨hkind, .inl hshort⟩, _, rfl, rfl⟩
  rw [if_neg hshort]
  by_cases hbuffer : t.bytes.length < t.length
  · rw [if_pos hbuffer]
    exact .inl ⟨.inl hbuffer, _, rfl, rfl⟩
  rw [if_neg hbuffer]
  have hsize : Setup.size ≤ t.bytes.length := by omega
  obtain ⟨setup, hparse, hstated⟩ := Setup.exists_parse hsize
  rw [hparse]
  dsimp only
  by_cases hlength : setup.length.toNat = t.length - Setup.size
  · rw [if_neg (not_not_intro hlength)]
    refine .inr ⟨?_, setup, ⟨hparse, by omega, by omega⟩, rfl⟩
    rintro (h | ⟨-, h | h⟩)
    · exact hbuffer h
    · exact hshort h
    · exact h (hstated.symm.trans hlength)
  · rw [if_pos hlength]
    exact .inl ⟨.inr ⟨hkind, .inr (hstated ▸ hlength)⟩, _, rfl, rfl⟩

theorem dataRequest_cases (hkind : t.kind ≠ .control) :
    (t.Missized ∧ ∃ why, t.dataRequest = .error why ∧ why.error = .invalidParam) ∨
    (¬ t.Missized ∧
      t.dataRequest = .ok (.over t.endpoint (t.bytes.take t.length) t.timeout)) := by
  have hbytes : t.buffer.getD [] = t.bytes := rfl
  rw [dataRequest, hbytes]
  by_cases hbuffer : t.bytes.length < t.length
  · rw [if_pos hbuffer]
    exact .inl ⟨.inl hbuffer, _, rfl, rfl⟩
  · rw [if_neg hbuffer]
    refine .inr ⟨?_, rfl⟩
    rintro (h | ⟨h, -⟩)
    · exact hbuffer h
    · exact hkind h

/-- **What becomes of a transfer that is to be submitted**: it is not supported, or
its length does not fit, or it makes a request. -/
theorem request_cases :
    (t.Unsupported ∧ ∃ why, t.request = .error why ∧ why.error = .notSupported) ∨
    (¬ t.Unsupported ∧ t.Missized ∧ ∃ why, t.request = .error why ∧ why.error = .invalidParam) ∨
    (¬ t.Unsupported ∧ ¬ t.Missized ∧ ∃ r, t.request = .ok r) := by
  unfold request
  by_cases hflag : t.flags.contains .addZeroPacket = true
  · rw [if_pos hflag]
    exact .inl ⟨.inl hflag, _, rfl, rfl⟩
  rw [if_neg hflag]
  have hsupported (hkind : t.kind ≠ .isochronous) : ¬ t.Unsupported := by
    rintro (h | h)
    · exact hflag h
    · exact hkind h
  cases hkind : t.kind with
  | isochronous => exact .inl ⟨.inr hkind, _, rfl, rfl⟩
  | control =>
    have hs := hsupported (by simp [hkind])
    rcases t.controlRequest_cases hkind with ⟨hm, why, hr, hwhy⟩ | ⟨hm, setup, -, hr⟩
    · exact .inr (.inl ⟨hs, hm, why, by rw [hr]; rfl, hwhy⟩)
    · exact .inr (.inr ⟨hs, hm, _, by rw [hr]; rfl⟩)
  | bulk =>
    have hs := hsupported (by simp [hkind])
    rcases t.dataRequest_cases (by simp [hkind]) with ⟨hm, why, hr, hwhy⟩ | ⟨hm, hr⟩
    · exact .inr (.inl ⟨hs, hm, why, by rw [hr]; rfl, hwhy⟩)
    · exact .inr (.inr ⟨hs, hm, _, by rw [hr]; rfl⟩)
  | interrupt =>
    have hs := hsupported (by simp [hkind])
    rcases t.dataRequest_cases (by simp [hkind]) with ⟨hm, why, hr, hwhy⟩ | ⟨hm, hr⟩
    · exact .inr (.inl ⟨hs, hm, why, by rw [hr]; rfl, hwhy⟩)
    · exact .inr (.inr ⟨hs, hm, _, by rw [hr]; rfl⟩)

/-- What a transfer asks for that makes a request: of its setup block, or of its endpoint. -/
inductive Makes : TransferRequest → Prop where
  | control {setup : Setup} (kind_eq : t.kind = .control) (hasSetup : t.HasSetup setup) :
      Makes (.control (setup.toRequest t.stage t.timeout))
  | bulk (kind_eq : t.kind = .bulk) (fits : t.length ≤ t.bytes.length) :
      Makes (.bulk (.over t.endpoint (t.bytes.take t.length) t.timeout))
  | interrupt (kind_eq : t.kind = .interrupt) (fits : t.length ≤ t.bytes.length) :
      Makes (.interrupt (.over t.endpoint (t.bytes.take t.length) t.timeout))

section Makes
variable {t}

theorem makes_of_request {request : TransferRequest} (h : t.request = .ok request) :
    t.Makes request := by
  have hfits (hm : ¬ t.Missized) : t.length ≤ t.bytes.length :=
    Nat.le_of_not_lt fun hlt => hm (.inl hlt)
  unfold Transfer.request at h
  split at h
  · cases h
  cases hkind : t.kind with
  | isochronous =>
    rw [hkind] at h
    cases h
  | control =>
    rw [hkind] at h
    rcases t.controlRequest_cases hkind with ⟨-, why, hr, -⟩ | ⟨-, setup, hsetup, hr⟩
    · rw [hr] at h
      cases h
    · rw [hr] at h
      cases h
      exact .control hkind hsetup
  | bulk =>
    rw [hkind] at h
    rcases t.dataRequest_cases (by simp [hkind]) with ⟨-, why, hr, -⟩ | ⟨hm, hr⟩
    · rw [hr] at h
      cases h
    · rw [hr] at h
      cases h
      exact .bulk hkind (hfits hm)
  | interrupt =>
    rw [hkind] at h
    rcases t.dataRequest_cases (by simp [hkind]) with ⟨-, why, hr, -⟩ | ⟨hm, hr⟩
    · rw [hr] at h
      cases h
    · rw [hr] at h
      cases h
      exact .interrupt hkind (hfits hm)

/-- A transfer with a control request has a setup block. -/
theorem hasSetup_of_request {r : ControlRequest} (h : t.request = .ok (.control r)) :
    t.kind = .control ∧
      ∃ setup, t.HasSetup setup ∧ r = setup.toRequest t.stage t.timeout := by
  cases makes_of_request h with
  | control kind_eq hasSetup => exact ⟨kind_eq, _, hasSetup, rfl⟩

end Makes

end Transfer
end UsbHost
