import UsbHost.Proofs.Bytes

/-! # Setup blocks in bytes

A setup block and eight bytes determine each other: a buffer holds a block exactly if
it begins with the bytes of one (`Setup.parse_eq_some_iff`), and any eight bytes are
those of a block (`Setup.exists_eq_append`).  A block is written over the bytes that it
would be read from, so writing and reading undo each other and the rest of a buffer has
no part in either (`Setup.block_codec`).
-/
namespace UsbHost.Setup

variable {buffer : List UInt8}

theorem length_toBytes (s : Setup) : s.toBytes.length = size := rfl

/-- **A setup block is read back as it was written.** -/
theorem parse_toBytes_append (s : Setup) (rest : List UInt8) :
    parse (s.toBytes ++ rest) = some s := by
  simp [toBytes, littleEndian, parse, ofLittleEndian_littleEndian]

/-- A buffer of eight bytes or more begins with the bytes of a block. -/
theorem exists_eq_append (h : size ≤ buffer.length) :
    ∃ s : Setup, buffer = s.toBytes ++ buffer.drop size := by
  have hlength : (buffer.take size).length = 8 := List.length_take_of_le h
  obtain ⟨s, hs⟩ : ∃ s : Setup, buffer.take size = s.toBytes := by
    match buffer.take size, hlength with
    | [t, r, v₀, v₁, i₀, i₁, l₀, l₁], _ =>
      refine ⟨⟨t, r, ofLittleEndian v₀ v₁, ofLittleEndian i₀ i₁, ofLittleEndian l₀ l₁⟩, ?_⟩
      simp only [toBytes, littleEndian_ofLittleEndian]
      rfl
  exact ⟨s, by rw [← hs, List.take_append_drop]⟩

/-- Fewer bytes hold no block. -/
theorem parse_eq_none_iff : parse buffer = none ↔ buffer.length < size := by
  constructor
  · intro hnone
    refine Nat.lt_of_not_le fun h => ?_
    obtain ⟨s, hs⟩ := exists_eq_append h
    rw [hs, parse_toBytes_append] at hnone
    cases hnone
  · intro hshort
    unfold parse
    split
    · exact absurd hshort (Nat.not_lt.mpr (Nat.le_add_left size _))
    · rfl

theorem parse_eq_some_iff (s : Setup) :
    parse buffer = some s ↔ buffer = s.toBytes ++ buffer.drop size := by
  constructor
  · intro hs
    have h : size ≤ buffer.length := by
      refine Nat.le_of_not_lt fun hshort => ?_
      rw [parse_eq_none_iff.mpr hshort] at hs
      cases hs
    obtain ⟨s', hs'⟩ := exists_eq_append h
    rw [hs', parse_toBytes_append] at hs
    cases hs
    exact hs'
  · intro hbuffer
    rw [hbuffer, parse_toBytes_append]

/-- Where there is room for a block, it takes the place of the first eight bytes. -/
theorem write_of_le (s : Setup) (h : size ≤ buffer.length) :
    s.write buffer = .ok (s.toBytes ++ buffer.drop size) := by
  rw [write, if_neg (Nat.not_lt.mpr h), overwrite_of_le s.toBytes buffer h, length_toBytes]

/-- **Setup blocks and the first eight bytes of buffers are the same thing.**
* A block that is written into a buffer of eight bytes or more, as a whole or field by
  field, changes these bytes only, and is read back.
* A buffer of eight bytes or more holds a block.  Writing it back changes nothing, and
  any buffer with the same first eight bytes holds the same block.
* Only a shorter buffer holds none. -/
theorem block_codec :
    (∀ (s : Setup) (buffer : List UInt8), size ≤ buffer.length →
      ∃ written, s.write buffer = .ok written ∧
        fill buffer s.requestType s.request s.value s.index s.length = .ok written ∧
        written.length = buffer.length ∧ written.drop size = buffer.drop size ∧
        parse written = some s) ∧
    (∀ buffer : List UInt8, size ≤ buffer.length →
      ∃ s, parse buffer = some s ∧ s.write buffer = .ok buffer ∧
        ∀ other : List UInt8, other.take size = buffer.take size → parse other = some s) ∧
    ∀ buffer : List UInt8, parse buffer = none ↔ buffer.length < size := by
  refine ⟨fun s buffer h => ?_, fun buffer h => ?_, fun buffer => parse_eq_none_iff⟩
  · have hlength : (s.toBytes ++ buffer.drop size).length = buffer.length := by
      rw [List.length_append, length_toBytes, List.length_drop, Nat.add_sub_cancel' h]
    exact ⟨_, s.write_of_le h, s.write_of_le h, hlength,
      List.drop_left' s.length_toBytes, s.parse_toBytes_append _⟩
  · obtain ⟨s, hs⟩ := exists_eq_append h
    have hfront : buffer.take size = s.toBytes := by
      rw [hs, List.take_left' s.length_toBytes]
    refine ⟨s, (parse_eq_some_iff s).mpr hs, ?_, fun other hother => ?_⟩
    · rw [s.write_of_le h, ← hs]
    · rw [parse_eq_some_iff, ← hfront, ← hother, List.take_append_drop]

/-- A block is written over the first bytes of nine, and eight bytes are read as a
block and written back. -/
theorem block_codec_nine_bytes :
    (∃ written, write ⟨0x80, 0x06, 0x0100, 0x0409, 18⟩ [1, 2, 3, 4, 5, 6, 7, 8, 9] = .ok written ∧
      written.drop size = [9] ∧ parse written = some ⟨0x80, 0x06, 0x0100, 0x0409, 18⟩) ∧
    ∃ s, parse [0x21, 9, 0, 2, 1, 0, 0x40, 0] = some s ∧
      s.write [0x21, 9, 0, 2, 1, 0, 0x40, 0] = .ok [0x21, 9, 0, 2, 1, 0, 0x40, 0] := by
  obtain ⟨hwrite, hparse, -⟩ := block_codec
  obtain ⟨written, hwritten, -, -, hrest, hread⟩ :=
    hwrite ⟨0x80, 0x06, 0x0100, 0x0409, 18⟩ [1, 2, 3, 4, 5, 6, 7, 8, 9] (by decide)
  obtain ⟨s, hs, hback, -⟩ := hparse [0x21, 9, 0, 2, 1, 0, 0x40, 0] (by decide)
  exact ⟨⟨written, hwritten, hrest, hread⟩, s, hs, hback⟩

end UsbHost.Setup
