import UsbHost.Proofs.Transfer.Completion

/-! # An answer stays in its window

A response is written into a part of a buffer that may have changed since the transfer
was submitted.  Here every range is checked before it is used, of the buffer and of the
response alike, and a range that does not lie in its list ends the program
(`Transfer.conclude?`).  None ever fails, so what `Transfer.conclude` makes of an answer
is all there is (`Transfer.conclude?_eq`), and `Transfer.Finalized` says what that is.
-/
namespace UsbHost

/-! ## Checked ranges -/

section Range
variable {α : Type} {l new : List α} {start stop : Nat}

/-- The list with another part, as long, from `start` up to `stop`. -/
def setRange? (l : List α) (start stop : Nat) (new : List α) : Option (List α) := do
  let old ← range? l start stop
  if new.length = old.length then some (l.take start ++ new ++ l.drop stop) else none

/-- The list with the first `count` elements of another copied to its start. -/
def copyFrom? (dest source : List α) (count : Nat) : Option (List α) := do
  let part ← range? source 0 count
  setRange? dest 0 count part

theorem setRange?_of_le (h : start ≤ stop) (hstop : stop ≤ l.length)
    (hnew : new.length = stop - start) :
    setRange? l start stop new = some (l.take start ++ new ++ l.drop stop) := by
  have hold : ((l.take stop).drop start).length = stop - start := by
    rw [List.length_drop, List.length_take, Nat.min_eq_left hstop]
  rw [setRange?, range?_of_le h hstop]
  exact if_pos (hnew.trans hold.symm)

theorem copyFrom?_of_le {dest source : List α} {count : Nat} (hdest : count ≤ dest.length)
    (hsource : count ≤ source.length) :
    copyFrom? dest source count = some (source.take count ++ dest.drop count) := by
  have hpart : (source.take count).length = count - 0 := by
    rw [List.length_take, Nat.min_eq_left hsource, Nat.sub_zero]
  rw [copyFrom?, range?_of_le (Nat.zero_le _) hsource, List.drop_zero]
  exact setRange?_of_le (Nat.zero_le _) hdest hpart

end Range

/-! ## Applying a response -/

namespace Response

/-- `Response.apply` with every range checked. -/
def applyChecked (r : Response) (shortNotOk : Bool) (requested : Nat) (dest : List UInt8) :
    Option Applied :=
  if r.isSuccess then
    match r.data with
    | none => some ⟨.completed, requested, dest⟩
    | some data => do
      let count := min data.length requested
      let dest ← copyFrom? dest data (min count dest.length)
      return ⟨if shortNotOk ∧ count < requested then .error else .completed, count, dest⟩
  else some ⟨.error, 0, dest⟩

/-- Nothing is copied from beyond the response or to beyond its destination. -/
theorem applyChecked_eq (r : Response) (shortNotOk : Bool) (requested : Nat) (dest : List UInt8) :
    r.applyChecked shortNotOk requested dest = some (r.apply shortNotOk requested dest) := by
  obtain ⟨code, data⟩ := r
  by_cases hcode : code = some successCode
  · subst hcode
    cases data with
    | none => rfl
    | some data =>
      have hcopy : copyFrom? dest data (min (min data.length requested) dest.length) =
          some (overwrite (data.take requested) dest) := by
        rw [overwrite_take]
        exact copyFrom?_of_le (Nat.min_le_right ..)
          (Nat.le_trans (Nat.min_le_left ..) (Nat.min_le_left ..))
      have hshort : min data.length requested < requested ↔ data.length < requested := by omega
      change (copyFrom? dest data _).bind _ = some ((success (some data)).apply ..)
      rw [hcopy, apply_success]
      simp only [Option.bind_some, hshort]
      rfl
  · have hfailed : isSuccess ⟨code, data⟩ = false := beq_eq_false_iff_ne.mpr hcode
    rw [apply_refused _ _ _ data hcode, applyChecked, hfailed, if_neg Bool.false_ne_true]

/-- A response never changes the size of its destination. -/
theorem length_dest_apply (r : Response) (shortNotOk : Bool) (requested : Nat)
    (dest : List UInt8) : (r.apply shortNotOk requested dest).dest.length = dest.length := by
  unfold apply
  split
  · cases r.data with
    | none => rfl
    | some data => exact length_overwrite ..
  · rfl

end Response

/-! ## Concluding a transfer -/

namespace Transfer
variable {κ : Type} (t : Transfer κ)

/-- `Transfer.conclude` with every range checked. -/
def conclude? : Outcome Response → Option (Transfer κ)
  | .succeeded response => do
    let (start, stop) := t.window t.bytes.length
    let dest ← range? t.bytes start stop
    let applied ← response.applyChecked (t.flags.contains .shortNotOk) t.requested dest
    let buffer ← setRange? t.bytes start stop applied.dest
    return { t with
      buffer := some buffer
      status := applied.status
      count := applied.count }
  | .canceled => some { t with status := .cancelled }
  | .failed _ => some { t with status := .error }

/-- **Concluding a transfer never leaves its buffer.** -/
theorem conclude?_eq (outcome : Outcome Response) :
    t.conclude? outcome = some (t.conclude outcome) := by
  cases outcome with
  | succeeded response =>
    have hstop : (t.window t.bytes.length).2 ≤ t.bytes.length := Nat.min_le_right ..
    have hstart := t.window_le t.bytes.length
    have hdest : range? t.bytes _ _ = some t.target := range?_of_le hstart hstop
    have hlength :
        (response.apply (t.flags.contains .shortNotOk) t.requested t.target).dest.length =
          (t.window t.bytes.length).2 - (t.window t.bytes.length).1 := by
      rw [Response.length_dest_apply, t.length_target]
    have hbuffer := setRange?_of_le hstart hstop hlength
    simp only [conclude?, hdest, Option.bind_eq_bind, Option.bind_some,
      Response.applyChecked_eq, hbuffer]
    rfl
  | failed message => rfl
  | canceled => rfl

/-! ## What becomes of a transfer -/

/-- The size of the window: how much of the buffer there is behind the start of the
data. -/
def room : Nat := min t.length t.bytes.length - t.dataStart

/-- The bytes of the buffer with the first `n` bytes of a response at the start of the
data. -/
def written (data : List UInt8) (n : Nat) : List UInt8 :=
  t.bytes.take t.dataStart ++ data.take n ++ t.bytes.drop (t.dataStart + n)

/-- What an answer makes of a transfer.  Nothing else changes. -/
inductive Finalized : Outcome Response → Transfer κ → Prop where
  | data (data : List UInt8) : Finalized (.succeeded (.success (some data)))
      { t with
        buffer := some (t.written data (min (min data.length t.requested) t.room))
        status := if t.flags.contains .shortNotOk ∧ min data.length t.requested < t.requested
          then .error else .completed
        count := min data.length t.requested }
  | noData : Finalized (.succeeded (.success none))
      { t with buffer := some t.bytes, status := .completed, count := t.requested }
  | refused {code : Option Int32} (data : Option (List UInt8))
      (ne_success : code ≠ some Response.successCode) : Finalized (.succeeded ⟨code, data⟩)
      { t with buffer := some t.bytes, status := .error, count := 0 }
  | canceled : Finalized .canceled { t with status := .cancelled }
  | failed (message : String) : Finalized (.failed message) { t with status := .error }

theorem bytes_conclude (data : List UInt8) :
    (t.conclude (.succeeded (.success (some data)))).bytes =
      t.written data (min (min data.length t.requested) t.room) := by
  have hrequested : t.requested = t.length - t.dataStart := rfl
  have hroom : t.room = min t.length t.bytes.length - t.dataStart := rfl
  generalize hn : min (min data.length t.requested) t.room = n
  by_cases hfits : t.dataStart + n ≤ t.bytes.length
  · have hdata : (data.take n).length = t.dataStart + n - t.dataStart := by
      rw [List.length_take]
      omega
    refine List.ext_getElem? fun i => ?_
    rw [getElem?_conclude, written, getElem?_replaced _ _ (Nat.le_add_right ..) hfits hdata]
    by_cases hi : t.dataStart ≤ i ∧ i < t.dataStart + n
    · rw [if_pos hi, if_pos (by omega), List.getElem?_take_of_lt (by omega)]
    · rw [if_neg hi, if_neg (by omega)]
  · -- The data would start behind the end of the buffer, so nothing is written.
    obtain rfl : n = 0 := by omega
    have hall : t.written data 0 = t.bytes := by
      rw [written, List.take_of_length_le (by omega), List.drop_of_length_le (by omega),
        List.take_zero, List.append_nil, List.append_nil]
    rw [hall]
    refine List.ext_getElem? fun i => ?_
    rw [getElem?_conclude, if_neg (by omega)]

theorem conclude_data (data : List UInt8) :
    t.conclude (.succeeded (.success (some data))) =
      { t with
        buffer := some (t.written data (min (min data.length t.requested) t.room))
        status := if t.flags.contains .shortNotOk ∧ min data.length t.requested < t.requested
          then .error else .completed
        count := min data.length t.requested } := by
  have hshort : min data.length t.requested < t.requested ↔ data.length < t.requested := by omega
  obtain ⟨hcount, hstatus⟩ := t.conclude_input data
  calc t.conclude (.succeeded (.success (some data)))
    _ = { t with
          buffer := some (t.conclude (.succeeded (.success (some data)))).bytes
          status := (t.conclude (.succeeded (.success (some data)))).status
          count := (t.conclude (.succeeded (.success (some data)))).count } := rfl
    _ = _ := by simp only [t.bytes_conclude, hstatus, hcount, hshort]

/-- **What becomes of a transfer**, for every state of it and every answer. -/
theorem finalized_conclude (outcome : Outcome Response) :
    t.Finalized outcome (t.conclude outcome) := by
  cases outcome with
  | failed message => exact .failed message
  | canceled => exact .canceled
  | succeeded response =>
    obtain ⟨code, data⟩ := response
    by_cases hcode : code = some Response.successCode
    · subst hcode
      cases data with
      | none => exact t.conclude_output ▸ Finalized.noData
      | some data =>
        exact t.conclude_data data ▸ Finalized.data data
    · exact t.conclude_refused data hcode ▸ Finalized.refused data hcode

section Finalized
variable {t t' : Transfer κ} {outcome : Outcome Response}

theorem length_written (t : Transfer κ) {data : List UInt8} {n : Nat} (hdata : n ≤ data.length)
    (hroom : n ≤ t.room) : (t.written data n).length = t.bytes.length := by
  have hwindow : t.room = min t.length t.bytes.length - t.dataStart := rfl
  rw [written, List.length_append, List.length_append, List.length_take, List.length_take,
    List.length_drop]
  omega

/-- **The buffer keeps its size.** -/
theorem Finalized.length_bytes (h : t.Finalized outcome t') :
    t'.bytes.length = t.bytes.length := by
  cases h with
  | data data =>
    exact t.length_written (Nat.le_trans (Nat.min_le_left ..) (Nat.min_le_left ..))
      (Nat.min_le_right ..)
  | noData | refused | canceled | failed => rfl

/-- A buffer that is not there stays so, unless there is a response to it. -/
theorem Finalized.buffer_eq_none_iff (h : t.Finalized outcome t') :
    t'.buffer = none ↔ t.buffer = none ∧ outcome.isSuccessful = false := by
  cases h with
  | data | noData | refused => exact iff_of_false nofun nofun
  | canceled | failed => exact (and_iff_left rfl).symm

end Finalized

end Transfer
end UsbHost
