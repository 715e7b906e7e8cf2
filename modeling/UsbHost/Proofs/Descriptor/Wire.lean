import UsbHost.Descriptor.Wire
import UsbHost.Proofs.Bytes

/-! # Device descriptors in bytes

The fields of a device descriptor fill 18 bytes, and any 18 bytes are those of some
fields (`exists_eq_append`).  They are read as a descriptor if the second one says so,
and then they determine it, whatever follows them (`parse_eq_some_iff`).
-/
namespace UsbHost.DeviceDescriptor

variable {bytes : List UInt8} {d : DeviceDescriptor}

theorem length_toBytes (d : DeviceDescriptor) : d.toBytes.length = 18 := rfl

/-- What is read of the bytes of a descriptor depends on its type alone. -/
theorem parse_toBytes_append (d : DeviceDescriptor) (rest : List UInt8) :
    parse (d.toBytes ++ rest) = if d.type = Descriptor.deviceType then some d else none := by
  simp only [toBytes, littleEndian, parse, List.cons_append, List.nil_append,
    ofLittleEndian_littleEndian]

/-- Bytes that are at least 18 begin with those of a descriptor, of whatever type. -/
theorem exists_eq_append (h : 18 ≤ bytes.length) :
    ∃ d : DeviceDescriptor, bytes = d.toBytes ++ bytes.drop 18 := by
  have hlength : (bytes.take 18).length = 18 := List.length_take_of_le h
  obtain ⟨d, hd⟩ : ∃ d : DeviceDescriptor, bytes.take 18 = d.toBytes := by
    match bytes.take 18, hlength with
    | [length, type, u₀, u₁, cls, sub, proto, size, v₀, v₁, p₀, p₁, d₀, d₁,
        manufacturer, product, serial, configurations], _ =>
      refine ⟨⟨length, type, ofLittleEndian u₀ u₁, cls, sub, proto, size, ofLittleEndian v₀ v₁,
        ofLittleEndian p₀ p₁, ofLittleEndian d₀ d₁, manufacturer, product, serial,
        configurations⟩, ?_⟩
      simp only [toBytes, littleEndian_ofLittleEndian]
      rfl
  exact ⟨d, by rw [← hd, List.take_append_drop]⟩

/-- Fewer bytes hold no descriptor. -/
theorem parse_of_short (h : bytes.length < 18) : parse bytes = none := by
  unfold parse
  split
  · exact absurd h (Nat.not_lt.mpr (Nat.le_add_left 18 _))
  · rfl

/-- **Bytes are read as a descriptor** if its own are the first of them, and its type is
that of devices. -/
theorem parse_eq_some_iff :
    parse bytes = some d ↔
      d.type = Descriptor.deviceType ∧ bytes = d.toBytes ++ bytes.drop 18 := by
  constructor
  · intro hd
    have h : 18 ≤ bytes.length := by
      refine Nat.le_of_not_lt fun hshort => ?_
      rw [parse_of_short hshort] at hd
      cases hd
    obtain ⟨d', hd'⟩ := exists_eq_append h
    rw [hd', parse_toBytes_append] at hd
    split at hd
    · rename_i htype
      cases hd
      exact ⟨htype, hd'⟩
    · cases hd
  · rintro ⟨htype, hbytes⟩
    rw [hbytes, parse_toBytes_append, if_pos htype]

/-- The second byte is the type. -/
theorem getElem?_one_toBytes_append (d : DeviceDescriptor) (rest : List UInt8) :
    (d.toBytes ++ rest)[1]? = some d.type := rfl

/-- Two bytes decide whether there is a descriptor, the last and the second of the 18. -/
theorem isSome_parse_iff :
    (parse bytes).isSome ↔ 18 ≤ bytes.length ∧ bytes[1]? = some Descriptor.deviceType := by
  constructor
  · intro hsome
    obtain ⟨d, hd⟩ := Option.isSome_iff_exists.mp hsome
    obtain ⟨htype, hbytes⟩ := parse_eq_some_iff.mp hd
    refine ⟨?_, ?_⟩
    · rw [hbytes, List.length_append, length_toBytes]
      exact Nat.le_add_right 18 _
    · rw [hbytes, getElem?_one_toBytes_append, htype]
  · rintro ⟨h, htype⟩
    obtain ⟨d, hd⟩ := exists_eq_append h
    rw [hd, getElem?_one_toBytes_append] at htype
    rw [hd, parse_toBytes_append, if_pos (Option.some.inj htype), Option.isSome_some]

/-- **A device descriptor and the bytes in which it is sent determine each other.**
* A descriptor has 18 bytes, and if it has the type of devices it is read back from them,
  whatever bytes come after.
* Bytes hold a descriptor exactly if they are at least 18 and the second one is the type
  of devices, and then the first 18 are the bytes of this descriptor. -/
theorem wire_codec :
    (∀ d : DeviceDescriptor, d.toBytes.length = 18 ∧
      (d.type = 1 → ∀ rest, parse (d.toBytes ++ rest) = some d)) ∧
    ∀ bytes : List UInt8,
      ((parse bytes).isSome ↔ 18 ≤ bytes.length ∧ bytes[1]? = some 1) ∧
      ∀ d, parse bytes = some d → d.toBytes = bytes.take 18 := by
  refine ⟨fun d => ⟨d.length_toBytes, fun htype rest => ?_⟩,
    fun bytes => ⟨isSome_parse_iff, fun d hd => ?_⟩⟩
  · rw [parse_toBytes_append]
    exact if_pos htype
  · obtain ⟨-, hbytes⟩ := parse_eq_some_iff.mp hd
    rw [hbytes, List.take_left' d.length_toBytes]

/-- The descriptor of a device, with one byte too many behind it. -/
theorem wire_codec_trailing :
    ∃ d : DeviceDescriptor, d.vendor = 0x1234 ∧ d.product = 0x5678 ∧
      parse (d.toBytes ++ [0xff]) = some d ∧
      d.toBytes = [18, 1, 0, 2, 0, 0, 0, 64, 0x34, 0x12, 0x78, 0x56, 1, 2, 1, 2, 3, 1] := by
  obtain ⟨hwrite, hread⟩ := wire_codec
  obtain ⟨d, hd⟩ := Option.isSome_iff_exists.mp ((hread
    [18, 1, 0, 2, 0, 0, 0, 64, 0x34, 0x12, 0x78, 0x56, 1, 2, 1, 2, 3, 1]).1.mpr ⟨by decide, rfl⟩)
  have hbytes := (hread _).2 d hd
  cases hd
  exact ⟨_, rfl, rfl, (hwrite _).2 rfl [0xff], hbytes⟩

end UsbHost.DeviceDescriptor
