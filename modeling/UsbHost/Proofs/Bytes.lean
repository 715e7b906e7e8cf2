import UsbHost.Setup

/-! # Words in bytes

A word and its two bytes determine each other (`ofLittleEndian_littleEndian`,
`littleEndian_ofLittleEndian`).  Bytes that are written over the start of a list leave
the rest of it as it is, and a part of a list can be taken exactly if it lies in it.
-/
namespace UsbHost

/-! ## Words -/

/-- The number of a word is made of those of its bytes. -/
theorem toNat_ofLittleEndian (low high : UInt8) :
    (ofLittleEndian low high).toNat = low.toNat + 256 * high.toNat := by
  have hlow : low.toNat < 2 ^ 8 := low.toNat_lt
  have hhigh : high.toNat < 256 := high.toNat_lt
  have hshift : high.toNat <<< 8 % 65536 = high.toNat <<< 8 := by
    rw [Nat.shiftLeft_eq]
    omega
  have hnat : (ofLittleEndian low high).toNat = low.toNat ||| high.toNat <<< 8 := by
    simp [ofLittleEndian, hshift]
  rw [hnat, Nat.or_comm, ← Nat.shiftLeft_add_eq_or_of_lt hlow, Nat.shiftLeft_eq]
  omega

theorem toNat_lowByte (w : UInt16) : w.toUInt8.toNat = w.toNat % 256 := UInt16.toNat_toUInt8 w

theorem toNat_highByte (w : UInt16) : (w >>> 8).toUInt8.toNat = w.toNat / 256 := by
  have hw : w.toNat < 65536 := w.toNat_lt
  have hshift : (w >>> 8).toNat = w.toNat / 2 ^ 8 := Nat.shiftRight_eq_div_pow ..
  rw [UInt16.toNat_toUInt8, hshift]
  omega

/-- The two bytes of a word make the word again. -/
theorem ofLittleEndian_littleEndian (w : UInt16) :
    ofLittleEndian w.toUInt8 (w >>> 8).toUInt8 = w := by
  rw [← UInt16.toNat_inj, toNat_ofLittleEndian, toNat_lowByte, toNat_highByte, Nat.mod_add_div]

/-- The word of two bytes is sent as these bytes. -/
theorem littleEndian_ofLittleEndian (low high : UInt8) :
    littleEndian (ofLittleEndian low high) = [low, high] := by
  have hlow : low.toNat < 256 := low.toNat_lt
  have hword := toNat_ofLittleEndian low high
  have hfirst : (ofLittleEndian low high).toUInt8 = low := by
    rw [← UInt8.toNat_inj, toNat_lowByte]
    omega
  have hsecond : (ofLittleEndian low high >>> 8).toUInt8 = high := by
    rw [← UInt8.toNat_inj, toNat_highByte]
    omega
  rw [littleEndian, hfirst, hsecond]

/-! ## Writing over a list -/

section Overwrite
variable (source dest : List UInt8)

@[simp] theorem length_overwrite : (overwrite source dest).length = dest.length := by
  rw [overwrite, List.length_append, List.length_take, List.length_drop]
  omega

/-- The bytes of `source` come first, as far as there is room. -/
theorem getElem?_overwrite (i : Nat) :
    (overwrite source dest)[i]? =
      if i < source.length ∧ i < dest.length then source[i]? else dest[i]? := by
  rw [overwrite, List.getElem?_append, List.length_take]
  by_cases hd : i < dest.length
  · by_cases hs : i < source.length
    · rw [if_pos (Nat.lt_min.mpr ⟨hd, hs⟩), if_pos ⟨hs, hd⟩, List.getElem?_take_of_lt hd]
    · have hle : min dest.length source.length = source.length := by omega
      rw [if_neg fun h => hs (Nat.lt_min.mp h).2, if_neg fun h => hs h.1, hle, List.getElem?_drop]
      congr 1
      omega
  · rw [if_neg fun h => hd (Nat.lt_min.mp h).1, if_neg fun h => hd h.2]
    rw [List.getElem?_eq_none (Nat.le_of_not_lt hd)]
    exact List.getElem?_eq_none (by rw [List.length_drop]; omega)

/-- Writing a part of `source` is copying to the start, as far as there is room. -/
theorem overwrite_take (count : Nat) :
    overwrite (source.take count) dest =
      source.take (min (min source.length count) dest.length) ++
        dest.drop (min (min source.length count) dest.length) := by
  have hlength : (source.take count).length = min source.length count := by
    rw [List.length_take, Nat.min_comm]
  have htake : source.take (min dest.length count) =
      source.take (min (min source.length count) dest.length) :=
    List.take_eq_take_iff.mpr (by omega)
  have hdrop : dest.drop (min source.length count) =
      dest.drop (min (min source.length count) dest.length) :=
    List.drop_eq_drop_iff.mpr (by omega)
  rw [overwrite, hlength, List.take_take, htake, hdrop]

/-- Where there is room for all of `source` it stands before what is left. -/
theorem overwrite_of_le (h : source.length ≤ dest.length) :
    overwrite source dest = source ++ dest.drop source.length := by
  rw [overwrite, List.take_of_length_le h]

end Overwrite

/-! ## Parts of a list -/

section Range
variable {α : Type} {l : List α} {start stop : Nat}

theorem range?_of_le (h : start ≤ stop) (hstop : stop ≤ l.length) :
    range? l start stop = some ((l.take stop).drop start) := if_pos ⟨h, hstop⟩

theorem slice_of_le (h : start ≤ stop) (hstop : stop ≤ l.length) :
    slice l start stop = .ok ((l.take stop).drop start) := by
  rw [slice, range?_of_le h hstop]
  rfl

/-- A part that does not lie in the list is a fault. -/
theorem slice_of_not_le (h : ¬ (start ≤ stop ∧ stop ≤ l.length)) :
    slice l start stop = .error (.outOfRange start stop l.length) := by
  rw [slice, range?, if_neg h]
  rfl

end Range

end UsbHost
