import Mathlib.Logic.Function.Basic

/-!
# The transport driver of Windows

`UsbTransportUmdf` owns the USB device.  Four callbacks of the framework prepare
it, power it up and down and release it; the interrupt pipe delivers touch
packets; and everything else are requests to one handler, each of which makes
the device do at most one transfer.  What the framework answers is a parameter of
every step, so a run is a list of events.

`DeviceReady` is meant to keep requests from a device that is not there.  The
vendor control transfers ask for it.  The bulk writes do not, and
`transport_guarded_iff` says what that costs.
-/

namespace RpUsbDisp

namespace Windows

/-! ## Status codes -/

abbrev NTSTATUS := UInt32

/-- `NT_SUCCESS`: the severity bit is clear. -/
def NT_SUCCESS (status : NTSTATUS) : Bool := status < 0x80000000

def STATUS_SUCCESS : NTSTATUS := 0
def STATUS_UNSUCCESSFUL : NTSTATUS := 0xC0000001
def STATUS_INVALID_PARAMETER : NTSTATUS := 0xC000000D
def STATUS_INVALID_DEVICE_REQUEST : NTSTATUS := 0xC0000010
def STATUS_BUFFER_TOO_SMALL : NTSTATUS := 0xC0000023
def STATUS_OBJECT_NAME_NOT_FOUND : NTSTATUS := 0xC0000034
def STATUS_DEVICE_NOT_READY : NTSTATUS := 0xC00000A3
def STATUS_NOT_SUPPORTED : NTSTATUS := 0xC00000BB
def STATUS_INVALID_DEVICE_STATE : NTSTATUS := 0xC0000184

/-! ## Requests -/

/-- `CTL_CODE`. -/
def CTL_CODE (deviceType function method access : UInt32) : UInt32 :=
  (deviceType <<< 16) ||| (access <<< 14) ||| (function <<< 2) ||| method

def METHOD_BUFFERED : UInt32 := 0
def METHOD_OUT_DIRECT : UInt32 := 2
def FILE_ANY_ACCESS : UInt32 := 0
def FILE_READ_ACCESS : UInt32 := 1
def FILE_WRITE_ACCESS : UInt32 := 2
def FILE_DEVICE_RPUSB_TRANSPORT : UInt32 := 0x8331

def IOCTL_RPUSB_PING : UInt32 :=
  CTL_CODE FILE_DEVICE_RPUSB_TRANSPORT 0x800 METHOD_BUFFERED FILE_ANY_ACCESS
def IOCTL_RPUSB_GET_VERSION : UInt32 :=
  CTL_CODE FILE_DEVICE_RPUSB_TRANSPORT 0x801 METHOD_BUFFERED FILE_READ_ACCESS
def IOCTL_RPUSB_PUSH_FRAME : UInt32 :=
  CTL_CODE FILE_DEVICE_RPUSB_TRANSPORT 0x802 METHOD_OUT_DIRECT FILE_WRITE_ACCESS
def IOCTL_RPUSB_SET_MODE : UInt32 :=
  CTL_CODE FILE_DEVICE_RPUSB_TRANSPORT 0x803 METHOD_BUFFERED FILE_WRITE_ACCESS
def IOCTL_RPUSB_GET_STATISTICS : UInt32 :=
  CTL_CODE FILE_DEVICE_RPUSB_TRANSPORT 0x804 METHOD_BUFFERED FILE_READ_ACCESS
def IOCTL_RPUSB_GET_TOUCH_DATA : UInt32 :=
  CTL_CODE FILE_DEVICE_RPUSB_TRANSPORT 0x806 METHOD_BUFFERED FILE_READ_ACCESS
def IOCTL_RPUSB_PUSH_FRAME_CHUNK : UInt32 :=
  CTL_CODE FILE_DEVICE_RPUSB_TRANSPORT 0x807 METHOD_OUT_DIRECT FILE_WRITE_ACCESS

def kVendorRequestInit : UInt8 := 0xA0
def kVendorRequestModeSet : UInt8 := 0xA1
def kVendorRequestPing : UInt8 := 0xA2

/-! ## Data -/

/-- A `UINT32` in memory; Windows hosts are little endian. -/
def store32 (v : UInt32) : List UInt8 :=
  [v.toUInt8, (v >>> 8).toUInt8, (v >>> 16).toUInt8, (v >>> 24).toUInt8]

/-- The `UINT32` at an offset. -/
def load32 (bytes : List UInt8) (offset : Nat) : UInt32 :=
  (bytes.getD offset 0).toUInt32 ||| ((bytes.getD (offset + 1) 0).toUInt32 <<< 8) |||
    ((bytes.getD (offset + 2) 0).toUInt32 <<< 16) ||| ((bytes.getD (offset + 3) 0).toUInt32 <<< 24)

/-- `RPUSB_DRIVER_VERSION`. -/
structure DriverVersion where
  major : UInt16
  minor : UInt16
  patch : UInt16
  deriving DecidableEq

def sizeofDriverVersion : Nat := 6

/-- `RPUSB_FRAME_HEADER`. -/
structure FrameHeader where
  width : UInt32
  height : UInt32
  pixelFormat : UInt32
  payloadBytes : UInt32
  deriving DecidableEq

def sizeofFrameHeader : Nat := 16

/-- The header at the front of a buffer. -/
def FrameHeader.read (bytes : List UInt8) : FrameHeader :=
  { width := load32 bytes 0
    height := load32 bytes 4
    pixelFormat := load32 bytes 8
    payloadBytes := load32 bytes 12 }

/-- `RPUSB_CHUNK_HEADER`. -/
structure ChunkHeader where
  frameId : UInt32
  chunkIndex : UInt32
  totalChunks : UInt32
  chunkBytes : UInt32
  width : UInt32
  height : UInt32
  pixelFormat : UInt32
  totalBytes : UInt32
  deriving DecidableEq

def sizeofChunkHeader : Nat := 32

/-- The header at the front of a buffer. -/
def ChunkHeader.read (bytes : List UInt8) : ChunkHeader :=
  { frameId := load32 bytes 0
    chunkIndex := load32 bytes 4
    totalChunks := load32 bytes 8
    chunkBytes := load32 bytes 12
    width := load32 bytes 16
    height := load32 bytes 20
    pixelFormat := load32 bytes 24
    totalBytes := load32 bytes 28 }

/-- `RPUSB_STATISTICS`. -/
structure Statistics where
  framesSubmitted : UInt64
  framesAcked : UInt64
  bytesTransferred : UInt64
  lastError : UInt64
  deriving DecidableEq

def sizeofStatistics : Nat := 32

abbrev MaxTouchContacts : Nat := 2

/-- `rpusb::TouchContact`, which is laid out like `RPUSB_TOUCH_CONTACT`. -/
structure TouchContact where
  contactId : UInt8
  tipSwitch : Bool
  inRange : Bool
  x : UInt16
  y : UInt16
  deriving DecidableEq

/-- A contact of zeros. -/
def TouchContact.zero : TouchContact := ⟨0, false, false, 0, 0⟩

/-- `RPUSB_TOUCH_DATA`, and what `TouchDataBuffer` keeps of it. -/
structure TouchData where
  contactCount : UInt8
  contacts : Fin MaxTouchContacts → TouchContact

def sizeofTouchData : Nat := 13

/-- Touch data of zeros. -/
def TouchData.zero : TouchData := ⟨0, fun _ => .zero⟩

inductive PipeType where
  | bulk
  | interrupt
  | other
  deriving DecidableEq

/-- A configured pipe of the interface: its handle, and what the framework says
about it. -/
structure Pipe where
  handle : Nat
  pipeType : PipeType
  isIn : Bool
  deriving DecidableEq

/-- What the callbacks and the request handler read and write of `DeviceContext`. -/
structure DeviceContext where
  bulkIn : Option Pipe
  bulkOut : Option Pipe
  interruptIn : Option Pipe
  statistics : Statistics
  deviceReady : Bool
  touchData : TouchData

/-- A device as `UsbDeviceCreate` leaves it. -/
def DeviceContext.created : DeviceContext :=
  ⟨none, none, none, ⟨0, 0, 0, 0⟩, false, .zero⟩

section Callbacks

/-! ## The callbacks -/

/-- `WDF_POWER_DEVICE_STATE`. -/
inductive PowerDeviceState where
  | invalid
  | d0
  | d1
  | d2
  | d3
  | d3Final
  | prepareForHibernation
  | maximum
  deriving DecidableEq

/-- What the framework and the device answer while the hardware is prepared. -/
structure PrepareAnswers where
  create : NTSTATUS
  descriptor : NTSTATUS
  idVendor : UInt16
  idProduct : UInt16
  selectConfig : NTSTATUS
  hasInterface : Bool
  pipes : List Pipe
  reader : NTSTATUS

def kVendorId : UInt16 := 0x1FC9
def kProductId : UInt16 := 0x0094

/-- The body of the loop over the configured pipes. -/
def configurePipe (context : DeviceContext) (pipe : Pipe) : DeviceContext :=
  if pipe.pipeType = .bulk ∧ pipe.isIn then { context with bulkIn := some pipe }
  else if pipe.pipeType = .bulk ∧ ¬ pipe.isIn then { context with bulkOut := some pipe }
  else if pipe.pipeType = .interrupt ∧ pipe.isIn then { context with interruptIn := some pipe }
  else context

/-- `UsbDevicePrepareHardware`. -/
def usbDevicePrepareHardware (context : DeviceContext) (a : PrepareAnswers) :
    NTSTATUS × DeviceContext :=
  if ¬ NT_SUCCESS a.create then (a.create, context)
  else if ¬ NT_SUCCESS a.descriptor then (a.descriptor, context)
  else if a.idVendor ≠ kVendorId ∨ a.idProduct ≠ kProductId then
    (STATUS_INVALID_DEVICE_REQUEST, context)
  else if ¬ NT_SUCCESS a.selectConfig then (a.selectConfig, context)
  else if ¬ a.hasInterface then (STATUS_INVALID_DEVICE_STATE, context)
  else
    let context := a.pipes.foldl configurePipe context
    if context.bulkIn = none ∨ context.bulkOut = none then (STATUS_INVALID_DEVICE_STATE, context)
    else if context.interruptIn ≠ none ∧ ¬ NT_SUCCESS a.reader then (a.reader, context)
    else (STATUS_SUCCESS, { context with deviceReady := true })

/-- `UsbDeviceReleaseHardware`. -/
def usbDeviceReleaseHardware (context : DeviceContext) : DeviceContext :=
  { context with deviceReady := false }

/-- `UsbDeviceD0Entry`.  That the interrupt reader cannot be restarted is only
traced. -/
def usbDeviceD0Entry (context : DeviceContext) (previousState : PowerDeviceState) : DeviceContext :=
  if previousState = .d3 ∨ previousState = .d3Final then { context with deviceReady := true }
  else context

/-- `UsbDeviceD0Exit`. -/
def usbDeviceD0Exit (context : DeviceContext) (targetState : PowerDeviceState) : DeviceContext :=
  if targetState = .d3 ∨ targetState = .d3Final then
    { context with deviceReady := false, touchData := .zero }
  else context

/-- A packet of the interrupt pipe. -/
inductive InterruptPacket where
  | touch (contact : TouchContact)
  | status (lastFrameAcked : UInt32) (errorCode : UInt8)
  | unknown (packetType : UInt8)

/-- How many contacts have `TipSwitch` set. -/
def activeCount (contacts : Fin MaxTouchContacts → TouchContact) : UInt8 :=
  (List.finRange MaxTouchContacts).foldl
    (fun activeCount i => if (contacts i).tipSwitch then activeCount + 1 else activeCount) 0

/-- `UsbInterruptCompletion`, on a packet that is long enough. -/
def usbInterruptCompletion (context : DeviceContext) : InterruptPacket → DeviceContext
  | .touch contact =>
      if h : contact.contactId.toNat < MaxTouchContacts then
        let contacts := Function.update context.touchData.contacts ⟨contact.contactId.toNat, h⟩ contact
        { context with touchData := ⟨activeCount contacts, contacts⟩ }
      else context
  | .status _ _ => context
  | .unknown _ => context

end Callbacks

section Requests

/-! ## The request handler -/

/-- What a request makes the device do. -/
inductive Transfer where
  | vendorControl (request : UInt8) (value : UInt16) (length : Nat)
  | bulkOut (bytes : List UInt8)
  deriving DecidableEq

/-- What a request hands back. -/
inductive Output where
  | version (v : DriverVersion)
  | statistics (s : Statistics)
  | touchData (t : TouchData)

/-- A request; `InputBufferLength` is the length of its input. -/
structure Request where
  ioControlCode : UInt32
  input : List UInt8
  outputBufferLength : Nat

/-- What the framework and the device answer to the calls of one request: whether
its buffer can be retrieved, how its transfer ends, and how its output is copied. -/
structure IoctlAnswers where
  retrieve : NTSTATUS
  transfer : NTSTATUS
  copy : NTSTATUS

/-- A completed request, and the transfer it issued. -/
structure Completion where
  status : NTSTATUS
  context : DeviceContext
  transfer : Option Transfer
  output : Option Output

/-- Complete a request that did nothing. -/
def Completion.refuse (context : DeviceContext) (status : NTSTATUS) : Completion :=
  ⟨status, context, none, none⟩

/-- Complete a request with what it was to hand back.  The handlers copy it into the
request's output memory and set no information length; that a completed request takes
the copy to its caller is assumed of the framework. -/
def Completion.hand (context : DeviceContext) (transfer : Option Transfer) (status : NTSTATUS)
    (output : Output) : Completion :=
  ⟨status, context, transfer, if NT_SUCCESS status then some output else none⟩

/-- `SendVendorControl`: its status, and the transfer if it came to one. -/
def sendVendorControl (context : DeviceContext) (request : UInt8) (value : UInt16) (length : Nat)
    (answer : NTSTATUS) : NTSTATUS × Option Transfer :=
  if ¬ context.deviceReady then (STATUS_DEVICE_NOT_READY, none)
  else (answer, some (.vendorControl request value length))

/-- `IOCTL_RPUSB_PING`. -/
def ioctlPing (context : DeviceContext) (a : IoctlAnswers) : Completion :=
  let sent := sendVendorControl context kVendorRequestPing 0 0 a.transfer
  ⟨sent.1, context, sent.2, none⟩

/-- `IOCTL_RPUSB_GET_VERSION`. -/
def ioctlGetVersion (context : DeviceContext) (r : Request) (a : IoctlAnswers) : Completion :=
  if r.outputBufferLength < sizeofDriverVersion then .refuse context STATUS_BUFFER_TOO_SMALL
  else if ¬ NT_SUCCESS a.retrieve then .refuse context a.retrieve
  else
    let sent := sendVendorControl context kVendorRequestInit 0 sizeofDriverVersion a.transfer
    if NT_SUCCESS sent.1 then .hand context sent.2 a.copy (.version ⟨1, 0, 0⟩)
    else ⟨sent.1, context, sent.2, none⟩

/-- A frame or its last chunk was transmitted. -/
def Statistics.count (s : Statistics) (bytes : UInt32) : Statistics :=
  { s with
    framesSubmitted := s.framesSubmitted + 1
    bytesTransferred := s.bytesTransferred + bytes.toUInt64 }

/-- `IOCTL_RPUSB_PUSH_FRAME`. -/
def ioctlPushFrame (context : DeviceContext) (r : Request) (a : IoctlAnswers) : Completion :=
  if r.input.length < sizeofFrameHeader then .refuse context STATUS_BUFFER_TOO_SMALL
  else if ¬ NT_SUCCESS a.retrieve then .refuse context a.retrieve
  else
    let frameHeader := FrameHeader.read r.input
    if frameHeader.payloadBytes = 0 then .refuse context STATUS_INVALID_PARAMETER
    else
      let statistics :=
        if NT_SUCCESS a.transfer then context.statistics.count frameHeader.payloadBytes
        else context.statistics
      ⟨a.transfer, { context with statistics := statistics }, some (.bulkOut r.input), none⟩

/-- `IOCTL_RPUSB_SET_MODE`. -/
def ioctlSetMode (context : DeviceContext) (r : Request) (a : IoctlAnswers) : Completion :=
  if r.input.length < 4 then .refuse context STATUS_BUFFER_TOO_SMALL
  else if ¬ NT_SUCCESS a.retrieve then .refuse context a.retrieve
  else
    let sent := sendVendorControl context kVendorRequestModeSet (load32 r.input 0).toUInt16 0 a.transfer
    ⟨sent.1, context, sent.2, none⟩

/-- `IOCTL_RPUSB_GET_STATISTICS` and `IOCTL_RPUSB_GET_TOUCH_DATA`, which only hand
out what the context holds. -/
def ioctlGet (context : DeviceContext) (r : Request) (a : IoctlAnswers) (size : Nat)
    (output : Output) : Completion :=
  if r.outputBufferLength < size then .refuse context STATUS_BUFFER_TOO_SMALL
  else if ¬ NT_SUCCESS a.retrieve then .refuse context a.retrieve
  else .hand context none a.copy output

/-- The parameters `IOCTL_RPUSB_PUSH_FRAME_CHUNK` takes. -/
def ChunkHeader.Valid (header : ChunkHeader) : Prop :=
  ¬ (header.chunkBytes = 0 ∨ header.totalChunks = 0 ∨ header.chunkIndex ≥ header.totalChunks)

instance (header : ChunkHeader) : Decidable header.Valid :=
  inferInstanceAs (Decidable (¬ _))

/-- `IOCTL_RPUSB_PUSH_FRAME_CHUNK`.  Only the last chunk counts. -/
def ioctlPushFrameChunk (context : DeviceContext) (r : Request) (a : IoctlAnswers) : Completion :=
  if r.input.length < sizeofChunkHeader then .refuse context STATUS_BUFFER_TOO_SMALL
  else if ¬ NT_SUCCESS a.retrieve then .refuse context a.retrieve
  else
    let chunkHeader := ChunkHeader.read r.input
    if ¬ chunkHeader.Valid then .refuse context STATUS_INVALID_PARAMETER
    else
      let statistics :=
        if NT_SUCCESS a.transfer ∧ chunkHeader.chunkIndex = chunkHeader.totalChunks - 1 then
          context.statistics.count chunkHeader.totalBytes
        else context.statistics
      ⟨a.transfer, { context with statistics := statistics }, some (.bulkOut r.input), none⟩

/-- `UsbDeviceIoDeviceControl`. -/
def usbDeviceIoDeviceControl (context : DeviceContext) (r : Request) (a : IoctlAnswers) :
    Completion :=
  if r.ioControlCode = IOCTL_RPUSB_PING then ioctlPing context a
  else if r.ioControlCode = IOCTL_RPUSB_GET_VERSION then ioctlGetVersion context r a
  else if r.ioControlCode = IOCTL_RPUSB_PUSH_FRAME then ioctlPushFrame context r a
  else if r.ioControlCode = IOCTL_RPUSB_SET_MODE then ioctlSetMode context r a
  else if r.ioControlCode = IOCTL_RPUSB_GET_STATISTICS then
    ioctlGet context r a sizeofStatistics (.statistics context.statistics)
  else if r.ioControlCode = IOCTL_RPUSB_GET_TOUCH_DATA then
    ioctlGet context r a sizeofTouchData (.touchData context.touchData)
  else if r.ioControlCode = IOCTL_RPUSB_PUSH_FRAME_CHUNK then ioctlPushFrameChunk context r a
  else .refuse context STATUS_INVALID_DEVICE_REQUEST

/-- `WdfIoTargetSendIoctlSynchronously`, seen by a driver that uses this one: the
request is delivered and completed, or it fails on the way and does nothing. -/
def sendIoctl (context : DeviceContext) (r : Request) (delivery : NTSTATUS) (a : IoctlAnswers) :
    Completion :=
  if NT_SUCCESS delivery then usbDeviceIoDeviceControl context r a
  else .refuse context delivery

/-- What the system answers to a driver that looks for this one. -/
structure TargetAnswers where
  interfaces : NTSTATUS
  found : Bool
  create : NTSTATUS
  opened : NTSTATUS

/-- Find the interface of this driver and open a target on it. -/
def openTransportTarget (a : TargetAnswers) : NTSTATUS :=
  if ¬ NT_SUCCESS a.interfaces then a.interfaces
  else if ¬ a.found then STATUS_OBJECT_NAME_NOT_FOUND
  else if ¬ NT_SUCCESS a.create then a.create
  else a.opened

end Requests

section Runs

/-! ## Runs -/

/-- What happens to the driver, one after the other. -/
inductive TransportEvent where
  | prepareHardware (a : PrepareAnswers)
  | releaseHardware
  | d0Entry (previousState : PowerDeviceState)
  | d0Exit (targetState : PowerDeviceState)
  | interrupt (packet : InterruptPacket)
  | request (r : Request) (a : IoctlAnswers)

def step (context : DeviceContext) : TransportEvent → DeviceContext
  | .prepareHardware a => (usbDevicePrepareHardware context a).2
  | .releaseHardware => usbDeviceReleaseHardware context
  | .d0Entry previousState => usbDeviceD0Entry context previousState
  | .d0Exit targetState => usbDeviceD0Exit context targetState
  | .interrupt packet => usbInterruptCompletion context packet
  | .request r a => (usbDeviceIoDeviceControl context r a).context

/-- `P` holds of every event of a run, in the state it happens in. -/
def Throughout (P : DeviceContext → TransportEvent → Prop) :
    DeviceContext → List TransportEvent → Prop
  | _, [] => True
  | context, event :: rest => P context event ∧ Throughout P (step context event) rest

theorem throughout_congr {P Q : DeviceContext → TransportEvent → Prop}
    (h : ∀ context event, P context event ↔ Q context event) (context : DeviceContext)
    (events : List TransportEvent) : Throughout P context events ↔ Throughout Q context events := by
  induction events generalizing context with
  | nil => exact Iff.rfl
  | cons event rest ih => rw [Throughout, Throughout, h, ih]

end Runs

section Readiness

/-! ## What is done while the device is not ready -/

variable {context : DeviceContext} {r : Request} {a : IoctlAnswers}

/-- The requests that only hand out what the driver knows. -/
def Request.Reads (r : Request) : Prop :=
  r.ioControlCode = IOCTL_RPUSB_GET_STATISTICS ∨ r.ioControlCode = IOCTL_RPUSB_GET_TOUCH_DATA

/-- The requests that come to a bulk write: they pass the checks of their buffer. -/
def Request.Pushes (r : Request) (a : IoctlAnswers) : Prop :=
  NT_SUCCESS a.retrieve ∧
    (r.ioControlCode = IOCTL_RPUSB_PUSH_FRAME ∧ sizeofFrameHeader ≤ r.input.length ∧
        (FrameHeader.read r.input).payloadBytes ≠ 0 ∨
      r.ioControlCode = IOCTL_RPUSB_PUSH_FRAME_CHUNK ∧ sizeofChunkHeader ≤ r.input.length ∧
        (ChunkHeader.read r.input).Valid)

/-- What a request that does not write does: it leaves the context alone, it issues
a transfer only while the device is ready, and otherwise it fails unless it only
reads. -/
structure Harmless (context : DeviceContext) (r : Request) (done : Completion) : Prop where
  context_eq : done.context = context
  ready : done.transfer ≠ none → context.deviceReady = true
  refused : context.deviceReady = false → ¬ r.Reads → NT_SUCCESS done.status = false

theorem Harmless.refuse {status : NTSTATUS} (h : NT_SUCCESS status = false) :
    Harmless context r (.refuse context status) :=
  ⟨rfl, fun hnone => absurd rfl hnone, fun _ _ => h⟩

/-- **`SendVendorControl`** asks whether the device is ready. -/
theorem Harmless.vendorControl (request : UInt8) (value : UInt16) (length : Nat)
    (answer : NTSTATUS) (output : Option Output) :
    Harmless context r ⟨(sendVendorControl context request value length answer).1, context,
      (sendVendorControl context request value length answer).2, output⟩ := by
  unfold sendVendorControl
  cases hready : context.deviceReady with
  | false => exact ⟨rfl, fun hnone => absurd rfl hnone, fun _ _ => rfl⟩
  | true => exact ⟨rfl, fun _ => hready, fun hnot => by rw [hready] at hnot; cases hnot⟩

theorem ioctlGetVersion_harmless : Harmless context r (ioctlGetVersion context r a) := by
  unfold ioctlGetVersion
  split
  · exact .refuse rfl
  split
  · rename_i hretrieve
    exact .refuse (Bool.eq_false_iff.mpr hretrieve)
  have hsent : Harmless context r ⟨(sendVendorControl context kVendorRequestInit 0
      sizeofDriverVersion a.transfer).1, context, (sendVendorControl context kVendorRequestInit 0
      sizeofDriverVersion a.transfer).2, none⟩ := .vendorControl _ _ _ _ _
  dsimp only
  split
  · rename_i hok
    refine ⟨rfl, hsent.ready, fun hnot hreads => ?_⟩
    have hfail : NT_SUCCESS (sendVendorControl context kVendorRequestInit 0 sizeofDriverVersion
      a.transfer).1 = false := hsent.refused hnot hreads
    rw [hok] at hfail
    cases hfail
  · exact hsent

theorem ioctlSetMode_harmless : Harmless context r (ioctlSetMode context r a) := by
  unfold ioctlSetMode
  split
  · exact .refuse rfl
  split
  · rename_i hretrieve
    exact .refuse (Bool.eq_false_iff.mpr hretrieve)
  · exact .vendorControl _ _ _ _ _

theorem ioctlGet_harmless (size : Nat) (output : Output) (hreads : r.Reads) :
    Harmless context r (ioctlGet context r a size output) := by
  unfold ioctlGet
  split
  · exact .refuse rfl
  split
  · rename_i hretrieve
    exact .refuse (Bool.eq_false_iff.mpr hretrieve)
  · exact ⟨rfl, fun hnone => absurd rfl hnone, fun _ hnot => absurd hreads hnot⟩

/-- The statistics after a request that comes to a bulk write. -/
def Request.statisticsAfter (r : Request) (a : IoctlAnswers) (statistics : Statistics) : Statistics :=
  let chunkHeader := ChunkHeader.read r.input
  if ¬ NT_SUCCESS a.transfer then statistics
  else if r.ioControlCode = IOCTL_RPUSB_PUSH_FRAME then
    statistics.count (FrameHeader.read r.input).payloadBytes
  else if chunkHeader.chunkIndex = chunkHeader.totalChunks - 1 then
    statistics.count chunkHeader.totalBytes
  else statistics

/-- **A request that comes to a bulk write** issues it, whatever the device is. -/
theorem ioctl_pushes_eq (context : DeviceContext) (h : r.Pushes a) :
    usbDeviceIoDeviceControl context r a =
      ⟨a.transfer, { context with statistics := r.statisticsAfter a context.statistics },
        some (.bulkOut r.input), none⟩ := by
  unfold Request.statisticsAfter
  obtain ⟨hretrieve, ⟨hcode, hsize, hvalid⟩ | ⟨hcode, hsize, hvalid⟩⟩ := h
  · have hhandler : usbDeviceIoDeviceControl context r a = ioctlPushFrame context r a := by
      unfold usbDeviceIoDeviceControl
      rw [hcode]
      rfl
    rw [hhandler, ioctlPushFrame, if_neg (Nat.not_lt.mpr hsize), if_neg (not_not_intro hretrieve)]
    simp only [if_neg hvalid, hcode, if_true]
    cases NT_SUCCESS a.transfer <;> rfl
  · have hhandler : usbDeviceIoDeviceControl context r a = ioctlPushFrameChunk context r a := by
      unfold usbDeviceIoDeviceControl
      rw [hcode]
      rfl
    have hother : ¬ IOCTL_RPUSB_PUSH_FRAME_CHUNK = IOCTL_RPUSB_PUSH_FRAME := by decide
    rw [hhandler, ioctlPushFrameChunk, if_neg (Nat.not_lt.mpr hsize),
      if_neg (not_not_intro hretrieve)]
    simp only [if_neg (not_not_intro hvalid), hcode, hother, if_false]
    cases NT_SUCCESS a.transfer <;> simp

/-- Its transfer and its status, and what it leaves of the touch data. -/
theorem ioctl_pushes (context : DeviceContext) (h : r.Pushes a) :
    (usbDeviceIoDeviceControl context r a).transfer = some (.bulkOut r.input) ∧
      (usbDeviceIoDeviceControl context r a).status = a.transfer ∧
      (usbDeviceIoDeviceControl context r a).context.touchData = context.touchData := by
  rw [ioctl_pushes_eq context h]
  exact ⟨rfl, rfl, rfl⟩

/-- **Every other request** is harmless. -/
theorem ioctl_harmless (context : DeviceContext) (h : ¬ r.Pushes a) :
    Harmless context r (usbDeviceIoDeviceControl context r a) := by
  unfold usbDeviceIoDeviceControl
  split
  · exact .vendorControl _ _ _ _ _
  split
  · exact ioctlGetVersion_harmless
  split
  · rename_i hcode
    unfold ioctlPushFrame
    split
    · exact .refuse rfl
    split
    · rename_i hretrieve
      exact .refuse (Bool.eq_false_iff.mpr hretrieve)
    dsimp only
    split
    · exact .refuse rfl
    · rename_i hsize hretrieve hvalid
      exact absurd ⟨not_not.mp hretrieve, Or.inl ⟨hcode, Nat.not_lt.mp hsize, hvalid⟩⟩ h
  split
  · exact ioctlSetMode_harmless
  split
  · rename_i hcode
    exact ioctlGet_harmless _ _ (Or.inl hcode)
  split
  · rename_i hcode
    exact ioctlGet_harmless _ _ (Or.inr hcode)
  split
  · rename_i hcode
    unfold ioctlPushFrameChunk
    split
    · exact .refuse rfl
    split
    · rename_i hretrieve
      exact .refuse (Bool.eq_false_iff.mpr hretrieve)
    dsimp only
    split
    · exact .refuse rfl
    · rename_i hsize hretrieve hvalid
      exact absurd ⟨not_not.mp hretrieve, Or.inr ⟨hcode, Nat.not_lt.mp hsize, not_not.mp hvalid⟩⟩ h
  · exact .refuse rfl

/-- No request changes the touch data. -/
theorem ioctl_touchData (context : DeviceContext) (r : Request) (a : IoctlAnswers) :
    (usbDeviceIoDeviceControl context r a).context.touchData = context.touchData := by
  by_cases hpushes : r.Pushes a
  · exact (ioctl_pushes context hpushes).2.2
  · rw [(ioctl_harmless context hpushes).context_eq]

/-- What `DeviceReady` is to guarantee about an event: a request issues a transfer
only while the device is ready; otherwise it fails, unless it only reads; and
nothing is counted while the device is not ready, nor by a callback. -/
def Guarded (context : DeviceContext) : TransportEvent → Prop
  | .request r a =>
      ((usbDeviceIoDeviceControl context r a).transfer ≠ none → context.deviceReady = true) ∧
        (context.deviceReady = false →
          (¬ r.Reads → NT_SUCCESS (usbDeviceIoDeviceControl context r a).status = false) ∧
          (usbDeviceIoDeviceControl context r a).context.statistics = context.statistics)
  | event => (step context event).statistics = context.statistics

/-- A request that comes to a bulk write finds the device ready. -/
def PushesWhenReady (context : DeviceContext) : TransportEvent → Prop
  | .request r a => r.Pushes a → context.deviceReady = true
  | _ => True

/-- Configuring the pipes changes nothing but the pipes. -/
theorem configurePipes_keeps (context : DeviceContext) (pipes : List Pipe) :
    (pipes.foldl configurePipe context).statistics = context.statistics ∧
      (pipes.foldl configurePipe context).touchData = context.touchData := by
  induction pipes generalizing context with
  | nil => exact ⟨rfl, rfl⟩
  | cons pipe pipes ih =>
      obtain ⟨hstatistics, htouch⟩ := ih (configurePipe context pipe)
      rw [List.foldl_cons, hstatistics, htouch]
      unfold configurePipe
      grind

/-- Preparing the hardware counts nothing and leaves the touch data. -/
theorem prepareHardware_keeps (context : DeviceContext) (a : PrepareAnswers) :
    (usbDevicePrepareHardware context a).2.statistics = context.statistics ∧
      (usbDevicePrepareHardware context a).2.touchData = context.touchData := by
  have hpipes := configurePipes_keeps context a.pipes
  unfold usbDevicePrepareHardware
  grind

theorem d0Entry_statistics (context : DeviceContext) (previousState : PowerDeviceState) :
    (usbDeviceD0Entry context previousState).statistics = context.statistics := by
  unfold usbDeviceD0Entry
  split <;> rfl

theorem d0Exit_statistics (context : DeviceContext) (targetState : PowerDeviceState) :
    (usbDeviceD0Exit context targetState).statistics = context.statistics := by
  unfold usbDeviceD0Exit
  split <;> rfl

theorem interruptCompletion_statistics (context : DeviceContext) (packet : InterruptPacket) :
    (usbInterruptCompletion context packet).statistics = context.statistics := by
  cases packet with
  | touch contact =>
      rw [usbInterruptCompletion]
      split <;> rfl
  | status lastFrameAcked errorCode => rfl
  | unknown packetType => rfl

/-- **One event** is guarded exactly if it is no bulk write to a device that is not
ready. -/
theorem guarded_iff (context : DeviceContext) (event : TransportEvent) :
    Guarded context event ↔ PushesWhenReady context event := by
  cases event with
  | request r a =>
      by_cases hpushes : r.Pushes a
      · obtain ⟨htransfer, _⟩ := ioctl_pushes context hpushes
        constructor
        · intro hguarded _
          exact hguarded.1 (by rw [htransfer]; exact Option.some_ne_none _)
        · intro hready
          refine ⟨fun _ => hready hpushes, fun hnot => ?_⟩
          rw [hready hpushes] at hnot
          cases hnot
      · have hharmless := ioctl_harmless context hpushes
        constructor
        · exact fun _ h => absurd h hpushes
        · intro _
          refine ⟨hharmless.ready, fun hnot => ⟨hharmless.refused hnot, ?_⟩⟩
          rw [hharmless.context_eq]
  | prepareHardware a => exact iff_of_true (prepareHardware_keeps context a).1 trivial
  | releaseHardware => exact iff_of_true rfl trivial
  | d0Entry previousState => exact iff_of_true (d0Entry_statistics context previousState) trivial
  | d0Exit targetState => exact iff_of_true (d0Exit_statistics context targetState) trivial
  | interrupt packet => exact iff_of_true (interruptCompletion_statistics context packet) trivial

/-- **When readiness is respected.**  In a run, every event is guarded exactly if
every request that comes to a bulk write finds the device ready: the vendor
control transfers take care of it themselves. -/
theorem transport_guarded_iff (events : List TransportEvent) :
    Throughout Guarded .created events ↔ Throughout PushesWhenReady .created events :=
  throughout_congr guarded_iff _ _

/-- A device that is plugged in. -/
def pluggedIn : PrepareAnswers :=
  { create := STATUS_SUCCESS
    descriptor := STATUS_SUCCESS
    idVendor := kVendorId
    idProduct := kProductId
    selectConfig := STATUS_SUCCESS
    hasInterface := true
    pipes := [⟨1, .bulk, true⟩, ⟨2, .bulk, false⟩, ⟨3, .interrupt, true⟩]
    reader := STATUS_SUCCESS }

/-- The only chunk of a frame of one pixel. -/
def onePixelChunk : Request :=
  { ioControlCode := IOCTL_RPUSB_PUSH_FRAME_CHUNK
    input := store32 1 ++ store32 0 ++ store32 1 ++ store32 2 ++ store32 1 ++ store32 1 ++
      store32 0 ++ store32 2 ++ [0, 0]
    outputBufferLength := 0 }

def allGood : IoctlAnswers := ⟨STATUS_SUCCESS, STATUS_SUCCESS, STATUS_SUCCESS⟩

/-- A chunk is written to a device that has been powered off. -/
theorem pushed_while_off :
    ¬ Throughout Guarded .created
      [.prepareHardware pluggedIn, .d0Exit .d3, .request onePixelChunk allGood] := by
  intro hguarded
  have hpush := hguarded.2.2.1.1 (by decide)
  exact absurd hpush (by decide)

end Readiness

end Windows

end RpUsbDisp
