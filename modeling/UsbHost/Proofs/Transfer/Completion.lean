import UsbHost.Proofs.Bytes
import UsbHost.Transfer

/-! # What an answer does to a transfer

A response with a success code is written over the start of the data, and how
many bytes it counts as depends on the bytes it carries: with bytes, it counts as
those that were asked for; without, as all that was asked for
(`Response.apply_success`, `Response.apply_output`).  Nothing else decides, the
direction of the transfer included.

The buffer of a transfer holds the data behind `Transfer.dataStart` bytes.
`Transfer.getElem?_conclude` says byte by byte what an answer leaves in it.
-/
namespace UsbHost

/-! ## Parts of a list -/

/-- A part in the middle of a list, with what stands before and after it. -/
theorem take_append_window_append_drop {α : Type} (l : List α) {start stop : Nat}
    (h : start ≤ stop) : l.take start ++ (l.take stop).drop start ++ l.drop stop = l := by
  have hbefore : l.take start = (l.take stop).take start := by
    rw [List.take_take, Nat.min_eq_left h]
  rw [hbefore, List.take_append_drop, List.take_append_drop]

/-- The list in which a part in the middle was replaced by another as long. -/
theorem getElem?_replaced {α : Type} (l middle : List α) {start stop : Nat} (h : start ≤ stop)
    (hstop : stop ≤ l.length) (hmiddle : middle.length = stop - start) (i : Nat) :
    (l.take start ++ middle ++ l.drop stop)[i]? =
      if start ≤ i ∧ i < stop then middle[i - start]? else l[i]? := by
  have hlength : (l.take start).length = start := by
    rw [List.length_take]
    omega
  rw [List.append_assoc, List.getElem?_append, hlength]
  by_cases hi : i < start
  · rw [if_pos hi, if_neg fun hm => absurd hi (Nat.not_lt.mpr hm.1), List.getElem?_take_of_lt hi]
  · rw [if_neg hi, List.getElem?_append, hmiddle]
    by_cases hj : i < stop
    · rw [if_pos (by omega), if_pos ⟨Nat.le_of_not_lt hi, hj⟩]
    · rw [if_neg (by omega), if_neg fun hm => hj hm.2, List.getElem?_drop]
      congr 1
      omega

/-! ## Responses -/

namespace Response
variable (short : Bool) (requested : Nat) (dest : List UInt8)

/-- A response without bytes counts as all that was requested. -/
theorem apply_output : (success none).apply short requested dest = ⟨.completed, requested, dest⟩ :=
  rfl

/-- A response with bytes counts as those that were requested, which are written
to the start. -/
theorem apply_success (bytes : List UInt8) :
    (success (some bytes)).apply short requested dest =
      { status := if short ∧ bytes.length < requested then .error else .completed
        count := min bytes.length requested
        dest := overwrite (bytes.take requested) dest } := by
  have hshort : min bytes.length requested < requested ↔ bytes.length < requested := by omega
  have htake : bytes.take (min bytes.length requested) = bytes.take requested := by
    rw [Nat.min_comm, ← List.take_take, List.take_length]
  simp only [apply, success, isSuccess, BEq.rfl, if_true, hshort, htake]

/-- A response without a success code counts as nothing and is not written. -/
theorem apply_refused {code : Option Int32} (data : Option (List UInt8))
    (ne_success : code ≠ some successCode) :
    apply ⟨code, data⟩ short requested dest = ⟨.error, 0, dest⟩ := by
  have hfailed : isSuccess ⟨code, data⟩ = false := beq_eq_false_iff_ne.mpr ne_success
  rw [apply, hfailed, if_neg Bool.false_ne_true]

end Response

/-- A synchronous transfer succeeds when it is completed. -/
theorem Applied.result_eq_ok_iff (a : Applied) (n : Nat) :
    a.result = .ok n ↔ a.status = .completed ∧ a.count = n := by
  obtain ⟨status, count, dest⟩ := a
  cases status <;> simp [result]

/-! ## Transfers -/

namespace Transfer
variable {κ : Type} (t : Transfer κ)

/-- The bytes that a transfer asks for. -/
def requested : Nat := t.length - t.dataStart

/-- The bytes of the buffer, of which there are none without a buffer. -/
def bytes : List UInt8 := t.buffer.getD []

/-- What a response is written to. -/
def target : List UInt8 :=
  (t.bytes.take (t.window t.bytes.length).2).drop (t.window t.bytes.length).1

/-- The transfer with a response, of which `conclude` is the case. -/
theorem conclude_succeeded (r : Response) :
    t.conclude (.succeeded r) =
      { t with
        buffer := some (t.bytes.take (t.window t.bytes.length).1
          ++ (r.apply (t.flags.contains .shortNotOk) t.requested t.target).dest
          ++ t.bytes.drop (t.window t.bytes.length).2)
        status := (r.apply (t.flags.contains .shortNotOk) t.requested t.target).status
        count := (r.apply (t.flags.contains .shortNotOk) t.requested t.target).count } :=
  rfl

theorem window_le (size : Nat) : (t.window size).1 ≤ (t.window size).2 := Nat.min_le_right ..

theorem length_target :
    t.target.length = (t.window t.bytes.length).2 - (t.window t.bytes.length).1 := by
  have hstop : (t.window t.bytes.length).2 ≤ t.bytes.length := Nat.min_le_right ..
  rw [target, List.length_drop, List.length_take, Nat.min_eq_left hstop]

/-- **An answer without bytes** counts as all that was asked for and leaves the
bytes of the buffer as they are. -/
theorem conclude_output :
    t.conclude (.succeeded (.success none)) =
      { t with buffer := some t.bytes, status := .completed, count := t.requested } := by
  rw [conclude_succeeded, Response.apply_output]
  simp only [target, take_append_window_append_drop _ (t.window_le t.bytes.length)]

/-- An answer without a success code leaves the bytes of the buffer as they are, too. -/
theorem conclude_refused {code : Option Int32} (data : Option (List UInt8))
    (ne_success : code ≠ some Response.successCode) :
    t.conclude (.succeeded ⟨code, data⟩) =
      { t with buffer := some t.bytes, status := .error, count := 0 } := by
  rw [conclude_succeeded, Response.apply_refused _ _ _ data ne_success]
  simp only [target, take_append_window_append_drop _ (t.window_le t.bytes.length)]

/-- **An answer with bytes** counts as those that were asked for.  Where these
are fewer, a transfer that does not take less ends with an error. -/
theorem conclude_input (bytes : List UInt8) :
    (t.conclude (.succeeded (.success (some bytes)))).count = min bytes.length t.requested ∧
      (t.conclude (.succeeded (.success (some bytes)))).status =
        if t.flags.contains .shortNotOk ∧ bytes.length < t.requested then .error
        else .completed := by
  rw [conclude_succeeded, Response.apply_success]
  exact ⟨rfl, rfl⟩

/-- The bytes that count are written behind `dataStart`, as far as the buffer
goes; the others stay. -/
theorem getElem?_conclude (bytes : List UInt8) (i : Nat) :
    (t.conclude (.succeeded (.success (some bytes)))).bytes[i]? =
      if t.dataStart ≤ i ∧ i < t.dataStart + min bytes.length t.requested ∧ i < t.bytes.length
      then bytes[i - t.dataStart]? else t.bytes[i]? := by
  have hstart : (t.window t.bytes.length).1 = min t.dataStart (t.window t.bytes.length).2 := rfl
  have hstop : (t.window t.bytes.length).2 = min t.length t.bytes.length := rfl
  have hrequested : t.requested = t.length - t.dataStart := rfl
  have htarget := t.length_target
  -- Inside the window, what is not written over is what was there.
  have hkept : ∀ j, j < t.target.length →
      t.target[j]? = t.bytes[(t.window t.bytes.length).1 + j]? := by
    intro j hj
    rw [target, List.getElem?_drop, List.getElem?_take_of_lt (by omega)]
  rw [conclude_succeeded, Response.apply_success]
  change (t.bytes.take _ ++ _ ++ t.bytes.drop _)[i]? = _
  rw [getElem?_replaced _ _ (t.window_le _) (by omega) (by rw [length_overwrite, htarget]),
    getElem?_overwrite, List.length_take]
  by_cases hw : (t.window t.bytes.length).1 ≤ i ∧ i < (t.window t.bytes.length).2
  · rw [if_pos hw]
    by_cases hn : i - (t.window t.bytes.length).1 < min t.requested bytes.length
    · rw [if_pos ⟨hn, by omega⟩, if_pos (by omega), List.getElem?_take_of_lt (by omega)]
      congr 1
      omega
    · rw [if_neg fun h => hn h.1, if_neg (by omega), hkept _ (by omega)]
      congr 1
      omega
  · rw [if_neg hw, if_neg (by omega)]

/-- The transfer is over a whole buffer: over `data`, behind `head`. -/
structure Covers (head data : List UInt8) : Prop where
  buffer : t.buffer = some (head ++ data)
  dataStart : t.dataStart = head.length
  length : t.length = head.length + data.length

theorem Covers.setCount {t : Transfer κ} {head data : List UInt8} (h : t.Covers head data)
    (n : Nat) : ({ t with count := n } : Transfer κ).Covers head data :=
  ⟨h.buffer, h.dataStart, h.length⟩

/-- A transfer over a whole buffer takes a response as its data alone would. -/
theorem Covers.conclude {t : Transfer κ} {head data : List UInt8} (h : t.Covers head data)
    (r : Response) :
    t.conclude (.succeeded r) =
      { t with
        buffer := some (head ++ (r.apply (t.flags.contains .shortNotOk) data.length data).dest)
        status := (r.apply (t.flags.contains .shortNotOk) data.length data).status
        count := (r.apply (t.flags.contains .shortNotOk) data.length data).count } := by
  have hbytes : t.bytes = head ++ data := by rw [bytes, h.buffer, Option.getD_some]
  have hrequested : t.requested = data.length := by
    rw [requested, h.dataStart, h.length, Nat.add_sub_cancel_left]
  have hwindow : t.window t.bytes.length = (head.length, head.length + data.length) := by
    rw [window, h.dataStart, h.length, hbytes, List.length_append, Nat.min_self,
      Nat.min_eq_left (Nat.le_add_right ..)]
  have hall : (head ++ data).length = head.length + data.length := List.length_append
  have htarget : t.target = data := by
    rw [target, hwindow, hbytes, ← hall, List.take_length, List.drop_left]
  rw [conclude_succeeded, hwindow, htarget, hrequested, hbytes, ← hall, List.take_left,
    List.drop_length, List.append_nil]

end Transfer
end UsbHost
