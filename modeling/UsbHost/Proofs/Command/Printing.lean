import UsbHost.Command
import UsbHost.Proofs.Session.Frame
import UsbHost.Proofs.Text.Numbers

/-! # What a command prints

A command is made of steps of its session, which print nothing (`lift_run`), and of
printing, which leaves the session alone (`print_run`).  A part of it that never prints
does in a command what it does in the session alone (`lift_readOver`).  So what was
printed stays, whether the command ends well, with an error or with a fault
(`run_appends`).

The text of a device descriptor is the text of no other one (`descriptorText_injective`).
-/
namespace UsbHost
namespace Command
open Session

variable {σ κ α β : Type}

/-! ## Steps of the session -/

section Lift
variable {s s' : Session σ κ} {printed : String}

theorem lift_run (x : SessionM σ κ α) (s : Session σ κ) (printed : String) :
    (lift x).run.run ⟨s, printed⟩ = ((x.run.run s).1, ⟨(x.run.run s).2, printed⟩) := rfl

theorem lift_run_of_run {x : SessionM σ κ α} {r : Except Failure α} (h : x.run.run s = (r, s')) :
    (lift x).run.run ⟨s, printed⟩ = (r, ⟨s', printed⟩) := by
  rw [lift_run, h]

theorem print_run (text : String) (s : Session σ κ) (printed : String) :
    (Terminal.print text : CommandM σ κ Unit).run.run ⟨s, printed⟩ =
      (.ok (), ⟨s, printed ++ text⟩) := rfl

theorem lift_bind (x : SessionM σ κ α) (f : α → SessionM σ κ β) :
    lift (x >>= f) = lift x >>= fun a => lift (f a) := by
  refine ExceptT.ext (StateT.ext fun s => ?_)
  obtain ⟨s, printed⟩ := s
  rw [run_bind, lift_run, lift_run, run_bind]
  rcases x.run.run s with ⟨e | a, s'⟩ <;> rfl

theorem discard_eq {m : Type → Type} [Monad m] [LawfulMonad m] (x : m α) :
    discard x = x >>= fun _ => pure () := by
  rw [Functor.discard, map_const, Function.comp, map_eq_pure_bind]

theorem lift_discard (x : SessionM σ κ α) : lift (discard x) = discard (lift x) := by
  rw [discard_eq, discard_eq, lift_bind]
  rfl

theorem lift_waitFor (handleEvents : SessionM σ κ Unit) (id : TransferId) (patience : Nat) :
    waitFor (σ := σ) (κ := κ) (lift handleEvents) id patience =
      lift (waitFor (σ := σ) (κ := κ) handleEvents id patience) := by
  induction patience with
  | zero => rfl
  | succ patience ih =>
    rw [waitFor, waitFor, lift_bind]
    refine bind_congr fun _ => ?_
    rw [lift_bind]
    refine bind_congr fun called => ?_
    rw [ih]
    split <;> rfl

theorem lift_readOver [Platform σ] (handleEvents : SessionM σ κ Unit) (patience : Nat)
    (h : HandleKey) :
    readOver (σ := σ) (κ := κ) (lift handleEvents) patience h =
      lift (readOver (σ := σ) (κ := κ) handleEvents patience h) := by
  rw [readOver, readOver, lift_bind]
  refine bind_congr fun started => ?_
  cases started with
  | error e => rfl
  | ok id =>
    dsimp only
    rw [lift_waitFor, lift_bind]
    refine bind_congr fun found => ?_
    cases found with
    | true => rfl
    | false =>
      rw [if_neg Bool.false_ne_true, if_neg Bool.false_ne_true, lift_bind, lift_discard]
      refine bind_congr fun _ => ?_
      rw [lift_bind]
      refine bind_congr fun _ => ?_
      rw [lift_bind, lift_discard]
      rfl

end Lift

/-! ## What was printed stays -/

/-- A part of a command only adds to what was printed, however it ends. -/
def Appends (x : CommandM σ κ α) : Prop :=
  ∀ s printed, ∃ text, (x.run.run ⟨s, printed⟩).2.printed = printed ++ text

namespace Appends

theorem lift (x : SessionM σ κ α) : Appends (lift x) := by
  intro s printed
  exact ⟨"", by rw [lift_run, String.append_empty]⟩

theorem pure (a : α) : Appends (pure a : CommandM σ κ α) := by
  intro s printed
  exact ⟨"", (String.append_empty ..).symm⟩

theorem print (text : String) : Appends (Terminal.print text : CommandM σ κ Unit) := by
  intro s printed
  exact ⟨text, by rw [print_run]⟩

theorem bind {x : CommandM σ κ α} {f : α → CommandM σ κ β} (hx : Appends x)
    (hf : ∀ a, Appends (f a)) : Appends (x >>= f) := by
  intro s printed
  obtain ⟨text, htext⟩ := hx s printed
  rw [run_bind]
  generalize x.run.run ⟨s, printed⟩ = ended at htext
  obtain ⟨e | a, s'⟩ := ended
  · -- What comes after an error or a fault is not run.
    exact ⟨text, htext⟩
  · obtain ⟨more, hmore⟩ := hf a s'.session s'.printed
    exact ⟨text ++ more, by rw [hmore, htext, String.append_assoc]⟩

theorem forM {f : α → CommandM σ κ Unit} (hf : ∀ a, Appends (f a)) (as : List α) :
    Appends (as.forM f) := by
  induction as with
  | nil => exact .pure ()
  | cons a as ih => exact (hf a).bind fun _ => ih

theorem discard {x : CommandM σ κ α} (hx : Appends x) : Appends (discard x) := by
  rw [discard_eq]
  exact hx.bind fun _ => .pure ()

theorem waitFor {handleEvents : CommandM σ κ Unit} (h : Appends handleEvents) (id : TransferId)
    (patience : Nat) : Appends (waitFor (σ := σ) (κ := κ) handleEvents id patience) := by
  induction patience with
  | zero => exact .pure false
  | succ patience ih =>
    refine h.bind fun _ => (Appends.lift _).bind fun called => ?_
    cases called with
    | true => exact .pure true
    | false => exact ih

theorem printDevice (index : Nat) (device : Device) :
    Appends (printDevice (σ := σ) (κ := κ) index device : CommandM σ κ Unit) := by
  refine (Appends.print _).bind fun _ => ?_
  refine (Appends.lift (orFault (deviceAddress device))).bind fun address => ?_
  exact .print _

variable [Platform σ] {handleEvents : CommandM σ κ Unit}

theorem readOver (h : Appends handleEvents) (patience : Nat) (key : HandleKey) :
    Appends (readOver (σ := σ) (κ := κ) handleEvents patience key) := by
  refine (Appends.lift _).bind fun started => ?_
  cases started with
  | error e => exact .pure _
  | ok id =>
    refine (h.waitFor id patience).bind fun called => ?_
    cases called with
    | true => exact .lift (finishReading id)
    | false =>
      refine (discard (.lift (attempt (cancel id)))).bind fun _ => h.bind fun _ => ?_
      exact (discard (.lift (free id))).bind fun _ => .pure _

theorem printList : Appends (printList (σ := σ) (κ := κ) : CommandM σ κ _) := by
  refine (Appends.lift (attempt (listDevices .default))).bind fun listing => ?_
  cases listing with
  | error e => exact .pure _
  | ok keys =>
    refine (Appends.lift (devicesOf keys)).bind fun devices => ?_
    dsimp only
    split
    · exact (Appends.print _).bind fun _ =>
        (Appends.lift (freeDeviceList keys true)).bind fun _ => .pure _
    · refine (Appends.print _).bind fun _ => ?_
      refine (forM (fun _ => printDevice _ _) _).bind fun _ => ?_
      exact (Appends.lift (freeDeviceList keys true)).bind fun _ => .pure _

theorem printRecords : Appends (printRecords (σ := σ) (κ := κ) : CommandM σ κ _) := by
  refine (Appends.lift (attempt (listDevices .default))).bind fun listing => ?_
  cases listing with
  | error e => exact .pure _
  | ok keys =>
    refine (Appends.lift (devicesOf keys)).bind fun devices => ?_
    refine (Appends.lift (freeDeviceList keys true)).bind fun _ => ?_
    exact (Appends.print _).bind fun _ => .pure _

theorem describeDevice (device : Device) :
    Appends (describeDevice (σ := σ) (κ := κ) device : CommandM σ κ _) := by
  refine (Appends.print _).bind fun _ => ?_
  refine (Appends.lift (attempt (activeConfig device))).bind fun active => ?_
  cases active with
  | error e => exact .pure _
  | ok config => exact (Appends.print _).bind fun _ => .pure _

theorem readDevice (h : Appends handleEvents) (patience : Nat) (key : DeviceKey)
    (device : Device) :
    Appends (readDevice (σ := σ) (κ := κ) handleEvents patience key device) := by
  refine (Appends.lift (attempt (openDevice key device))).bind fun opened => ?_
  cases opened with
  | error e => exact .pure _
  | ok key =>
    refine (h.readOver patience key).bind fun result => ?_
    refine (Appends.lift (closeHandle key)).bind fun _ => ?_
    cases result with
    | error e => exact .pure _
    | ok descriptor => exact (Appends.print _).bind fun _ => .pure _

theorem withDevice (index : Nat)
    {action : DeviceKey → Device → CommandM σ κ (Except Error Unit)}
    (h : ∀ key device, Appends (action key device)) :
    Appends (withDevice (σ := σ) (κ := κ) index action) := by
  refine (Appends.lift (attempt (listDevices .default))).bind fun listing => ?_
  cases listing with
  | error e => exact .pure _
  | ok keys =>
    refine (Appends.lift get).bind fun s => ?_
    have released (result : Except Error Unit) :=
      (lift (freeDeviceList (σ := σ) (κ := κ) keys true)).bind fun _ => pure result
    dsimp only
    split
    · exact (h _ _).bind released
    · exact released _

end Appends

/-- **A command only adds to what was printed**, on every way out. -/
theorem run_appends [Platform σ] {handleEvents : CommandM σ κ Unit} (h : Appends handleEvents)
    (patience : Nat) (command : Command) :
    Appends (run (σ := σ) (κ := κ) handleEvents patience command) := by
  cases command with
  | list => exact .printList
  | json => exact .printRecords
  | describe index => exact .withDevice index fun _ => .describeDevice
  | readDescriptor index => exact .withDevice index fun key => h.readDevice patience key

/-! ## The text of a descriptor -/

/-- The characters of a line, before those that follow it. -/
theorem toList_fieldText_append (name : String) (n : Nat) (rest : List Char) :
    (fieldText (name, n)).toList ++ rest =
      "    ".toList ++ (name.toList ++ (": ".toList ++
        (Nat.toDigits 10 n ++ ',' :: '\n' :: rest))) := by
  simp only [fieldText, String.toList_append, toString, Nat.toList_repr, List.append_assoc]
  rfl

/-- Lines with the same names show their values. -/
theorem fieldTexts_inj {fields fields' : List (String × Nat)}
    (names : fields.map Prod.fst = fields'.map Prod.fst)
    (h : fields.flatMap (fun f => (fieldText f).toList) =
      fields'.flatMap fun f => (fieldText f).toList) : fields = fields' := by
  induction fields generalizing fields' with
  | nil =>
    rw [List.map_nil] at names
    exact (List.map_eq_nil_iff.mp names.symm).symm
  | cons field fields ih =>
    obtain ⟨name, n⟩ := field
    cases fields' with
    | nil => cases names
    | cons field' fields' =>
      obtain ⟨name', n'⟩ := field'
      obtain ⟨hname, hnames⟩ := List.cons.inj names
      cases hname
      rw [List.flatMap_cons, List.flatMap_cons, toList_fieldText_append,
        toList_fieldText_append] at h
      have hvalue := List.append_cancel_left (List.append_cancel_left (List.append_cancel_left h))
      obtain ⟨rfl, hrest⟩ := Text.toDigits_append_inj (by decide) hvalue
      rw [ih hnames (List.cons.inj hrest).2]

/-- A descriptor is made of its fields. -/
theorem fields_injective {d d' : DeviceDescriptor} (h : d.fields = d'.fields) : d = d' := by
  simp only [DeviceDescriptor.fields, List.cons.injEq, Prod.mk.injEq, true_and,
    UInt8.toNat_inj, UInt16.toNat_inj, and_true] at h
  cases d
  cases d'
  simp only [DeviceDescriptor.mk.injEq]
  exact h

theorem descriptorText_eq (d : DeviceDescriptor) :
    descriptorText d =
      "DeviceDescriptor \x7b\n" ++ (String.join (d.fields.map fieldText) ++ "\x7d\n") :=
  String.append_assoc ..

/-- **A text of a descriptor says which one it is.** -/
theorem descriptorText_injective : Function.Injective descriptorText := by
  intro d d' h
  have hlines : ∀ d : DeviceDescriptor, (descriptorText d).toList =
      "DeviceDescriptor \x7b\n".toList ++
        (d.fields.flatMap (fun f => (fieldText f).toList) ++ "\x7d\n".toList) := by
    intro d
    rw [descriptorText_eq, String.toList_append, String.toList_append, String.toList_join,
      List.flatMap_map]
  have htext := congrArg String.toList h
  rw [hlines, hlines] at htext
  have hfields := List.append_cancel_right (List.append_cancel_left htext)
  exact fields_injective (fieldTexts_inj rfl hfields)

/-- Every descriptor has a text. -/
theorem descriptorText_ne_empty (d : DeviceDescriptor) : descriptorText d ≠ "" := by
  intro h
  rw [descriptorText_eq, String.append_eq_empty_iff] at h
  exact absurd h.1 (by decide)

end Command
end UsbHost
