import UsbHost.Session.Transfers

/-!
# Finishing transfers

`handleEvents` finishes at most one completed transfer, in steps between which others may act: the
transfer is extracted from its tracker, the answer is written into it and its callback taken out
(`finish`), the callback runs, and then it is put back (`restore`) and the transfer perhaps freed
(`settle`). A callback may submit, fill or free its own transfer, so `restore` keeps what it finds.
-/

namespace UsbHost.Session

variable {σ κ : Type} [Platform σ]

/-- Takes the transfer of a context that completed first. -/
def extract (c : ContextId) : SessionM σ κ (Option (TransferId × TransferOutcome)) := do
  match ← track c .extract with
  | .extracted result => return result
  | _ => return none

/-- Notes what became of a transfer. -/
def noteConcluded (id : TransferId) (outcome : TransferOutcome) (concluded : Transfer κ) :
    SessionM σ κ Unit := do
  match outcome with
  | .failed reason => note (.transferFailed id reason)
  | _ => pure ()
  note (.transferFinished id concluded.status concluded.count)
  if concluded.callback.isNone then note (.noCallback id)

/-- Writes the answer into a transfer and takes out its callback, if it has one. -/
def finish (id : TransferId) (outcome : TransferOutcome) : SessionM σ κ (Option (Callback κ)) := do
  let concluded := ((← get).transfer id).conclude outcome
  noteConcluded id outcome concluded
  modify (alter id fun _ => { concluded with callback := none })
  return concluded.callback

/-- Puts the callback back, unless another was put in its place, and says whether the transfer is to
be freed. -/
def restore (id : TransferId) (callback : Option (Callback κ)) : SessionM σ κ Bool := do
  modify (alter id fun t => { t with callback := t.callback.or callback })
  return ((← get).transfer id).flags.contains .freeTransfer

/-- Restores the callback and frees the transfer if it says so. -/
def settle (id : TransferId) (callback : Option (Callback κ)) : SessionM σ κ Unit := do
  if ← restore id callback then
    discard <| free id

variable {m : Type → Type} [Monad m] [MonadLiftT (SessionM σ κ) m]

/-- Finishes a transfer that was extracted; `run` calls its callback. -/
def conclude (run : TransferId → Callback κ → m Unit) (id : TransferId)
    (outcome : TransferOutcome) : m Unit := do
  match ← liftM (finish id outcome : SessionM σ κ _) with
  | some callback =>
    run id callback
    liftM (settle id (some callback.called) : SessionM σ κ _)
  | none => liftM (settle id none : SessionM σ κ _)

/-- Finishes the transfer of a context that completed first, if there is one. -/
def handleEvents (run : TransferId → Callback κ → m Unit) (c : ContextId) : m Unit := do
  liftM (reach c : SessionM σ κ _)
  match ← liftM (extract c : SessionM σ κ _) with
  | some (id, outcome) => conclude (σ := σ) run id outcome
  | none => pure ()

end UsbHost.Session
