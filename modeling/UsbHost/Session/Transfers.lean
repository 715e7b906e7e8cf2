import UsbHost.Session

/-!
# Transfers of a session

Asynchronous transfers: allocating, filling, submitting, cancelling and freeing. Synchronous
transfers, which go to the platform without a tracker.
-/

namespace UsbHost.Session

variable {σ κ : Type} [Platform σ]

/-! ## Asynchronous transfers -/

/-- A new idle transfer. There are no isochronous transfers. -/
def allocTransfer (isochronousPackets : Nat) : SessionM σ κ TransferId := do
  if isochronousPackets ≠ 0 then
    note (.isochronousRefused isochronousPackets)
    throw (.error .invalidParam)
  modifyGet fun s => (⟨s.transfers.length + 1⟩, { s with transfers := s.transfers ++ [{}] })

/-- Delivers the answer to an asynchronous transfer. -/
def deliver (ticket : Ticket) (outcome : TransferOutcome) : SessionM σ κ Unit :=
  discard <| track ticket.context (.deliver ticket.submission outcome)

/-- Submits a transfer: it is tracked in the context of its handle, then started. -/
def submit (id : TransferId) : SessionM σ κ Unit := do
  let transfer := (← get).transfer id
  let some handle := transfer.handle.bind (← get).handle?
    | throw (.fault .submitWithoutHandle)
  match transfer.request with
  | .error refusal =>
    note (.submitRefused refusal)
    throw (.error refusal.error)
  | .ok request =>
    modify (alter id fun t => { t with count := 0 })
    reach handle.context
    match ← track handle.context (.register id) with
    | .registered submission =>
      note (.submitting submission handle.connection)
      let ticket : Ticket := ⟨handle.context, submission⟩
      match ← onPlatform (Platform.startTransfer handle.connection request ticket) with
      | some outcome => deliver ticket outcome
      | none => pure ()
    | _ => pure ()

/-- Cancels a transfer that is in flight. It still completes, as cancelled. -/
def cancel (id : TransferId) : SessionM σ κ Unit := do
  let s ← get
  let some context := s.contextOf? (s.transfer id)
    | throw (.fault .cancelWithoutHandle)
  reach context
  match ← track context (.cancel id) with
  | .cancelled _ true => note (.cancelDone id)
  | _ => throw (.error .notFound)

/-- Frees a transfer: it is no longer tracked and holds nothing any more. The buffer goes back to
the caller, or is dropped when the transfer says so. -/
def free (id : TransferId) : SessionM σ κ (Option (List UInt8)) := do
  let s ← get
  match s.contextOf? (s.transfer id) with
  | some context =>
    reach context
    discard <| track context (.remove id)
  | none => pure ()
  modifyGet fun s =>
    let (buffer, released) := (s.transfer id).release
    (buffer, s.alter id fun _ => released)

/-! ## Synchronous transfers -/

/-- Runs a transfer over `data` and gives the result with the data afterwards. The request is sent
whole, and the data change only when the platform succeeds. -/
def runSync (operation : Operation) (handle : Handle) (request : TransferRequest)
    (data : List UInt8) : SessionM σ κ (Except UsbError Nat × List UInt8) := do
  match ← onPlatform (Platform.transfer handle.connection request) with
  | .succeeded response =>
    let applied := response.apply false data.length data
    return (applied.result, applied.dest)
  | other =>
    note (.requestFailed operation other.message)
    return (.error .other, data)

/-- A control transfer; `data` is its data stage. -/
def controlTransfer (handle : Handle) (requestType request : UInt8) (value index : UInt16)
    (data : List UInt8) (timeout : UInt32) : SessionM σ κ (Except UsbError Nat × List UInt8) := do
  if data.length < UInt16.size then
    let setup : Setup := ⟨requestType, request, value, index, data.length.toUInt16⟩
    note (.controlStarted setup)
    runSync .controlTransfer handle (.control (setup.toRequest data timeout)) data
  else return (.error .invalidParam, data)

/-- A bulk transfer over `data`. -/
def bulkTransfer (handle : Handle) (endpoint : UInt8) (data : List UInt8) (timeout : UInt32) :
    SessionM σ κ (Except UsbError Nat × List UInt8) := do
  note (.bulkStarted endpoint data.length)
  runSync .bulkTransfer handle (.bulk (.over endpoint data timeout)) data

/-- An interrupt transfer over `data`. -/
def interruptTransfer (handle : Handle) (endpoint : UInt8) (data : List UInt8) (timeout : UInt32) :
    SessionM σ κ (Except UsbError Nat × List UInt8) := do
  note (.interruptStarted endpoint data.length)
  runSync .interruptTransfer handle (.interrupt (.over endpoint data timeout)) data

end UsbHost.Session
