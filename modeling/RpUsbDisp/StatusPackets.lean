import RpUsbDisp.Hotplug
import RpUsbDisp.Transducers

/-!
# Status packets

Both hosts poll the status endpoint into one buffer of 32 bytes and read a packet of
11 bytes from its start.  A transfer overwrites only as many bytes as it brings, and
neither host looks at that number: after a shorter one the rest of the packet is what
earlier transfers left.

What a host makes of a transfer is a function of its bytes exactly when those reach as
far as the host reads.  The Linux driver stops at the packet type, if that is not
`RPUSBDISP_STATUS_TYPE_NORMAL`; the SDK reads all 11 bytes and does not look at the
type (`status_from_received_iff`).
-/

namespace RpUsbDisp.StatusPackets

open Hotplug Programs

/-! ## The buffer -/

def RPUSBDISP_STATUS_BUFFER_SIZE : Nat := 32

/-- `sizeof(rpusbdisp_status_normal_packet_t)`. -/
def sizeofStatusNormalPacket : Nat := 11

/-- The bytes of a successful status transfer, `actual_length` of them. -/
structure Received where
  bytes : List UInt8
  fits : bytes.length ≤ RPUSBDISP_STATUS_BUFFER_SIZE

/-- The transfer buffer of the status endpoint. -/
structure StatusBuffer where
  cells : List UInt8
  size : cells.length = RPUSBDISP_STATUS_BUFFER_SIZE

namespace StatusBuffer

/-- A buffer of zeros, as `kzalloc` leaves it. -/
def zeros : StatusBuffer := ⟨List.replicate RPUSBDISP_STATUS_BUFFER_SIZE 0, List.length_replicate⟩

/-- A transfer overwrites the first bytes. -/
def receive (buffer : StatusBuffer) (t : Received) : StatusBuffer where
  cells := t.bytes ++ buffer.cells.drop t.bytes.length
  size := by
    have hfits := t.fits
    have hsize := buffer.size
    rw [List.length_append, List.length_drop]
    omega

def byte (buffer : StatusBuffer) (i : Nat) (h : i < RPUSBDISP_STATUS_BUFFER_SIZE) : UInt8 :=
  buffer.cells.get ⟨i, by rw [buffer.size]; exact h⟩

/-- What was received is read back. -/
theorem byte_receive (buffer : StatusBuffer) (t : Received) {i : Nat} (h : i < RPUSBDISP_STATUS_BUFFER_SIZE)
    (hi : i < t.bytes.length) : (buffer.receive t).byte i h = t.bytes[i] := by
  unfold byte receive
  simp only [List.get_eq_getElem]
  exact List.getElem_append_left hi

end StatusBuffer

/-! ## The packet -/

/-- A 32-bit register of the host from four bytes of memory. -/
def load32 (host : HostOrder) (b₀ b₁ b₂ b₃ : UInt8) : UInt32 :=
  match host with
  | .little => b₀.toUInt32 ||| (b₁.toUInt32 <<< 8) ||| (b₂.toUInt32 <<< 16) ||| (b₃.toUInt32 <<< 24)
  | .big => b₃.toUInt32 ||| (b₂.toUInt32 <<< 8) ||| (b₁.toUInt32 <<< 16) ||| (b₀.toUInt32 <<< 24)

/-- `le32_to_cpu`. -/
def le32ToCpu (host : HostOrder) (v : UInt32) : UInt32 :=
  match host with
  | .little => v
  | .big => (v >>> 24) ||| (((v >>> 16) &&& 0xff) <<< 8) ||| (((v >>> 8) &&& 0xff) <<< 16) |||
      ((v &&& 0xff) <<< 24)

/-- A converted register is the value of the four little endian bytes, on every host. -/
theorem le32ToCpu_load32 (host : HostOrder) (b₀ b₁ b₂ b₃ : UInt8) :
    le32ToCpu host (load32 host b₀ b₁ b₂ b₃) = load32 .little b₀ b₁ b₂ b₃ := by
  cases host with
  | little => rfl
  | big =>
      apply UInt32.toBitVec_inj.mp
      simp only [le32ToCpu, load32, UInt32.toBitVec_or, UInt32.toBitVec_shiftLeft,
        UInt32.toBitVec_shiftRight, UInt32.toBitVec_and, UInt8.toBitVec_toUInt32]
      have hmask : ∀ j (hj : j < 32), (255#32)[j] = decide (j < 8) := by decide
      have hbeyond : ∀ (b : UInt8) j, 8 ≤ j → b.toBitVec.getLsbD j = false :=
        fun b j hj => BitVec.getLsbD_of_ge _ _ hj
      ext i hi
      simp [hmask]
      grind

/-- `rpusbdisp_status_normal_packet_t` as it lies at the start of the buffer, the two
coordinates still in the byte order of the wire. -/
def loadNormalPacket (host : HostOrder) (buffer : StatusBuffer) : StatusNormalPacket where
  packetType := buffer.byte 0 (by decide)
  displayStatus := buffer.byte 1 (by decide)
  touchStatus := buffer.byte 2 (by decide)
  touchX := load32 host (buffer.byte 3 (by decide)) (buffer.byte 4 (by decide))
    (buffer.byte 5 (by decide)) (buffer.byte 6 (by decide))
  touchY := load32 host (buffer.byte 7 (by decide)) (buffer.byte 8 (by decide))
    (buffer.byte 9 (by decide)) (buffer.byte 10 (by decide))

/-- The packet with its coordinates converted. -/
def statusNormalPacket (host : HostOrder) (buffer : StatusBuffer) : StatusNormalPacket :=
  let packet := loadNormalPacket host buffer
  { packet with
    touchX := le32ToCpu host packet.touchX
    touchY := le32ToCpu host packet.touchY }

/-- The packet is what was received, if enough was. -/
theorem statusNormalPacket_receive (host : HostOrder) (buffer buffer' : StatusBuffer) {t : Received}
    (henough : sizeofStatusNormalPacket ≤ t.bytes.length) :
    statusNormalPacket host (buffer.receive t) = statusNormalPacket host (buffer'.receive t) := by
  unfold sizeofStatusNormalPacket at henough
  have hbyte : ∀ i h, i < 11 → (buffer.receive t).byte i h = (buffer'.receive t).byte i h := by
    intro i h hi
    have hlt : i < t.bytes.length := by omega
    rw [buffer.byte_receive t h hlt, buffer'.byte_receive t h hlt]
  have hload : loadNormalPacket host (buffer.receive t) = loadNormalPacket host (buffer'.receive t) := by
    unfold loadNormalPacket
    simp only [hbyte _ _ (by decide : (0 : Nat) < 11), hbyte _ _ (by decide : 1 < 11),
      hbyte _ _ (by decide : 2 < 11), hbyte _ _ (by decide : 3 < 11), hbyte _ _ (by decide : 4 < 11),
      hbyte _ _ (by decide : 5 < 11), hbyte _ _ (by decide : 6 < 11), hbyte _ _ (by decide : 7 < 11),
      hbyte _ _ (by decide : 8 < 11), hbyte _ _ (by decide : 9 < 11), hbyte _ _ (by decide : 10 < 11)]
  unfold statusNormalPacket
  rw [hload]

/-- Its type is the first byte that was received, if one was. -/
theorem packetType_receive (host : HostOrder) (buffer : StatusBuffer) {t : Received} {packetType : UInt8}
    (hhead : t.bytes.head? = some packetType) :
    (statusNormalPacket host (buffer.receive t)).packetType = packetType := by
  obtain ⟨rest, hbytes⟩ := List.head?_eq_some_iff.mp hhead
  have hlt : 0 < t.bytes.length := by simp [hbytes]
  calc (statusNormalPacket host (buffer.receive t)).packetType
      = t.bytes[0] := buffer.byte_receive t (by decide) hlt
    _ = packetType := by simp [hbytes]

/-! ## The Linux driver -/

inductive AbsAxis where
  | x
  | y
  | pressure
  deriving DecidableEq

/-- What the input subsystem is told. -/
inductive InputEvent where
  | abs (axis : AbsAxis) (value : UInt32)
  | btnTouch (down : Bool)
  | sync
  deriving DecidableEq

/-- `touchhandler_send_ts_event`.  The input device is registered before the USB driver
and outlives it. -/
def touchhandlerSendTsEvent (x y : UInt32) (touch : Bool) : List InputEvent :=
  if touch then [.abs .x x, .abs .y y, .abs .pressure 1, .btnTouch true, .sync]
  else [.abs .pressure 0, .btnTouch false, .sync]

/-- What the driver makes of a transfer: whether the picture is to be sent again, and
the touch event. -/
structure LinuxReaction where
  unsync : Bool
  events : List InputEvent
  deriving DecidableEq

/-- Nothing is to be sent, and no event is reported. -/
def LinuxReaction.none : LinuxReaction := ⟨false, []⟩

/-- `_on_parse_status_packet`. -/
def onParseStatusPacket (packet : StatusNormalPacket) : LinuxReaction :=
  if packet.packetType = RPUSBDISP_STATUS_TYPE_NORMAL then
    { unsync := packet.displayStatus &&& RPUSBDISP_DISPLAY_STATUS_DIRTY_FLAG ≠ 0
      events := touchhandlerSendTsEvent packet.touchX packet.touchY
        (packet.touchStatus = RPUSBDISP_TOUCH_STATUS_PRESSED) }
  else .none

/-- **The reaction is what the driver's program does**: it marks the framebuffer and
schedules the work exactly if `unsync`, and sends the touch event. -/
theorem onParseStatusPacket_program (d : Nat) (packet : StatusNormalPacket) :
    Hotplug.onParseStatusPacket d packet =
      if packet.packetType = RPUSBDISP_STATUS_TYPE_NORMAL then do
        if (onParseStatusPacket packet).unsync then
          framebufferPart (fbhandlerSetUnsync d)
          Prog.ask (HostOp.dev d (.usb .scheduleCompletionWork))
        Prog.ask (HostOp.dev d (.aside (.touchhandlerSendTsEvent packet.touchX packet.touchY
          (packet.touchStatus = RPUSBDISP_TOUCH_STATUS_PRESSED))))
      else return () := by
  unfold Hotplug.onParseStatusPacket onParseStatusPacket
  by_cases hnormal : packet.packetType = RPUSBDISP_STATUS_TYPE_NORMAL
  · simp only [if_pos hnormal, decide_eq_true_eq]
  · simp only [if_neg hnormal]

/-- The part of `struct rpusbdisp_dev` that the status URB fills. -/
structure StatusInput where
  statusInBuffer : StatusBuffer
  statusInBufferRecvsize : Nat

/-- As `rpusbdisp_probe` allocates it. -/
def StatusInput.probed : StatusInput := ⟨.zeros, 0⟩

/-- The URB has written its bytes, and `_on_status_query_finished` stores how many. -/
def StatusInput.receive (input : StatusInput) (t : Received) : StatusInput :=
  ⟨input.statusInBuffer.receive t, t.bytes.length⟩

/-- The status side of a living display; every transfer succeeds. -/
def linuxStatus (host : HostOrder) : Machine StatusInput Received LinuxReaction where
  next := StatusInput.receive
  answer input t := onParseStatusPacket (statusNormalPacket host (input.receive t).statusInBuffer)

/-! ## The SDK -/

/-- What the SDK makes of a transfer: the status it stores, and what it hands to the
callback. -/
structure SdkReaction where
  status : Option StatusNormalPacket
  callback : Option StatusNormalPacket

/-- The status stays as it was. -/
def SdkReaction.none : SdkReaction := ⟨Option.none, Option.none⟩

/-- What `statusFetchingWorker_` keeps: its transfer buffer and `status_`. -/
structure StatusWorker where
  transferBuffer : StatusBuffer
  status : StatusNormalPacket

/-- `decodeAs`, and the conversion of the coordinates. -/
def decodeAsStatus (host : HostOrder) (transferBuffer : StatusBuffer) : StatusNormalPacket :=
  statusNormalPacket host transferBuffer

/-- One completed transfer of `statusFetchingWorker_`. -/
def StatusWorker.receive (host : HostOrder) (worker : StatusWorker) (t : Received) : StatusWorker :=
  let transferBuffer := worker.transferBuffer.receive t
  ⟨transferBuffer, decodeAsStatus host transferBuffer⟩

/-- The worker, with `statusUpdatedCallback_` set or not. -/
def sdkStatus (host : HostOrder) (callback : Bool) : Machine StatusWorker Received SdkReaction where
  next := StatusWorker.receive host
  answer worker t :=
    let status := (worker.receive host t).status
    { status := some status
      callback := if callback then some status else Option.none }

/-! ## What comes from the bytes received -/

/-- The transfer brings a whole packet, of type NORMAL. -/
def Normal (t : Received) : Prop :=
  sizeofStatusNormalPacket ≤ t.bytes.length ∧ t.bytes.head? = some RPUSBDISP_STATUS_TYPE_NORMAL

/-- The packet type was received, and is not NORMAL. -/
def OtherType (t : Received) : Prop :=
  ∃ packetType, t.bytes.head? = some packetType ∧ packetType ≠ RPUSBDISP_STATUS_TYPE_NORMAL

/-- A host reacts to a transfer by its bytes alone, and does nothing about one that is
not a NORMAL packet. -/
def FromReceived {σ α : Type} (m : Machine σ Received α) (Start : σ → Prop) (silent : α) (t : Received) :
    Prop :=
  m.Memoryless Start t ∧ (¬ Normal t → m.Always Start t silent)

/-- A whole packet is NORMAL or of another type. -/
theorem normal_or_otherType {t : Received} (henough : sizeofStatusNormalPacket ≤ t.bytes.length) :
    Normal t ∨ OtherType t := by
  unfold sizeofStatusNormalPacket at henough
  have hlt : 0 < t.bytes.length := by omega
  have hhead : t.bytes.head? = some t.bytes[0] := List.head?_eq_getElem? ▸ List.getElem?_eq_getElem hlt
  by_cases htype : t.bytes[0] = RPUSBDISP_STATUS_TYPE_NORMAL
  · exact Or.inl ⟨henough, hhead.trans (congrArg some htype)⟩
  · exact Or.inr ⟨t.bytes[0], hhead, htype⟩

section Linux

variable (host : HostOrder) {t : Received}

/-- A packet of another type is ignored. -/
theorem linux_ignores_otherType (hother : OtherType t) (input : StatusInput) :
    (linuxStatus host).answer input t = .none := by
  obtain ⟨packetType, hhead, hne⟩ := hother
  have htype := packetType_receive host input.statusInBuffer hhead
  exact if_neg (htype ▸ hne)

/-- A whole packet is read alone. -/
theorem linux_reads_whole (henough : sizeofStatusNormalPacket ≤ t.bytes.length) (input input' : StatusInput) :
    (linuxStatus host).answer input t = (linuxStatus host).answer input' t :=
  congrArg onParseStatusPacket
    (statusNormalPacket_receive host input.statusInBuffer input'.statusInBuffer henough)

/-- A NORMAL packet is never ignored. -/
theorem onParseStatusPacket_normal {packet : StatusNormalPacket}
    (hnormal : packet.packetType = RPUSBDISP_STATUS_TYPE_NORMAL) : onParseStatusPacket packet ≠ .none := by
  intro hnone
  have hevents : (onParseStatusPacket packet).events = [] := congrArg LinuxReaction.events hnone
  unfold onParseStatusPacket touchhandlerSendTsEvent at hevents
  rw [if_pos hnormal] at hevents
  split at hevents
  · cases hevents
  · cases hevents

/-- Short of a packet type that tells otherwise, a short packet is taken for a NORMAL
one after the probing. -/
theorem linux_takes_short (hother : ¬ OtherType t) :
    (linuxStatus host).answer .probed t ≠ .none := by
  apply onParseStatusPacket_normal
  cases hbytes : t.bytes with
  | nil =>
      have hsame : StatusBuffer.zeros.receive t = StatusBuffer.zeros := by
        simp [StatusBuffer.receive, hbytes]
      calc (statusNormalPacket host (StatusBuffer.zeros.receive t)).packetType
          = (statusNormalPacket host StatusBuffer.zeros).packetType := by rw [hsame]
        _ = RPUSBDISP_STATUS_TYPE_NORMAL := rfl
  | cons packetType rest =>
      have hhead : t.bytes.head? = some packetType := by rw [hbytes]; rfl
      have htype := packetType_receive host StatusBuffer.zeros hhead
      by_contra hne
      exact hother ⟨packetType, hhead, fun hnormal => hne (htype.trans hnormal)⟩

/-- **The Linux driver**: a transfer must bring a whole packet, or a packet type other
than NORMAL. -/
theorem linux_fromReceived_iff :
    FromReceived (linuxStatus host) (· = .probed) .none t ↔
      sizeofStatusNormalPacket ≤ t.bytes.length ∨ OtherType t := by
  constructor
  · intro hreceived
    obtain ⟨_, hsilent⟩ := hreceived
    by_cases henough : sizeofStatusNormalPacket ≤ t.bytes.length
    · exact Or.inl henough
    · right
      by_contra hother
      have hnone := hsilent (fun hnormal => henough hnormal.1) StatusInput.probed rfl []
      exact linux_takes_short host hother hnone
  · intro hcond
    have hignored : OtherType t → (linuxStatus host).Always (· = .probed) t .none :=
      fun hother => .of_answer (linux_ignores_otherType host hother)
    constructor
    · rcases hcond with henough | hother
      · exact fun s₁ s₂ _ _ before₁ before₂ => linux_reads_whole host henough _ _
      · exact (hignored hother).memoryless
    · intro hnormal
      rcases hcond with henough | hother
      · rcases normal_or_otherType henough with h | hother
        · exact absurd h hnormal
        · exact hignored hother
      · exact hignored hother

end Linux

section Sdk

variable (host : HostOrder) (callback : Bool) {t : Received}

/-- A whole packet is read alone. -/
theorem sdk_reads_whole (henough : sizeofStatusNormalPacket ≤ t.bytes.length)
    (worker worker' : StatusWorker) :
    (sdkStatus host callback).answer worker t = (sdkStatus host callback).answer worker' t := by
  have hstatus : (worker.receive host t).status = (worker'.receive host t).status :=
    statusNormalPacket_receive host worker.transferBuffer worker'.transferBuffer henough
  simp only [sdkStatus, hstatus]

/-- **The SDK**: a transfer must bring a NORMAL packet. -/
theorem sdk_fromReceived_iff :
    FromReceived (sdkStatus host callback) (fun _ => True) .none t ↔ Normal t := by
  constructor
  · intro hreceived
    obtain ⟨_, hsilent⟩ := hreceived
    by_contra hnormal
    have hnone := hsilent hnormal ⟨.zeros, statusNormalPacket host .zeros⟩ trivial []
    cases congrArg SdkReaction.status hnone
  · intro hnormal
    refine ⟨?_, fun hnot => absurd hnormal hnot⟩
    exact fun s₁ s₂ _ _ before₁ before₂ => sdk_reads_whole host callback hnormal.1 _ _

end Sdk

/-! ## Both hosts -/

/-- A run of transfers that bring whole packets is answered transfer by transfer, on
both hosts and from any state. -/
theorem answers_of_whole (host : HostOrder) (callback : Bool) {ts : List Received}
    (h : ∀ t ∈ ts, sizeofStatusNormalPacket ≤ t.bytes.length) (input : StatusInput)
    (worker : StatusWorker) :
    (linuxStatus host).answers input ts = ts.map ((linuxStatus host).answer .probed) ∧
      (sdkStatus host callback).answers worker ts = ts.map ((sdkStatus host callback).answer worker) :=
  ⟨Machine.answers_eq_map (fun t ht _ => linux_reads_whole host (h t ht) _ _) input,
    Machine.answers_eq_map (fun t ht _ => sdk_reads_whole host callback (h t ht) _ _) worker⟩

/-- **When status events come from the bytes just received.**  On Linux, where the
transfer brings a whole packet or a packet type other than NORMAL; with the SDK, where
it brings a whole NORMAL packet. -/
theorem status_from_received_iff (host : HostOrder) (callback : Bool) (t : Received) :
    (FromReceived (linuxStatus host) (· = .probed) .none t ↔
      sizeofStatusNormalPacket ≤ t.bytes.length ∨ OtherType t) ∧
    (FromReceived (sdkStatus host callback) (fun _ => True) .none t ↔ Normal t) :=
  ⟨linux_fromReceived_iff host, sdk_fromReceived_iff host callback⟩

/-- A finger at (100, 50). -/
def pressed : Received := ⟨[0, 0, 1, 100, 0, 0, 0, 50, 0, 0, 0], by decide⟩

/-- A transfer of one byte, the type of a NORMAL packet. -/
def oneByte : Received := ⟨[0], by decide⟩

/-- A whole packet of type 1. -/
def typeOne : Received := ⟨[1, 0, 1, 100, 0, 0, 0, 50, 0, 0, 0], by decide⟩

/-- **Leftovers are read.**  One byte presses where the finger was before, and releases
right after the probing; and the SDK takes over the status of a packet of type 1. -/
theorem leftovers_read :
    (linuxStatus .little).answer ((linuxStatus .little).after .probed [pressed]) oneByte =
      ⟨false, touchhandlerSendTsEvent 100 50 true⟩ ∧
    (linuxStatus .little).answer ((linuxStatus .little).after .probed []) oneByte =
      ⟨false, touchhandlerSendTsEvent 0 0 false⟩ ∧
    ¬ FromReceived (linuxStatus .little) (· = .probed) .none oneByte ∧
    ¬ FromReceived (sdkStatus .little true) (fun _ => True) .none typeOne := by
  have hpressed : (linuxStatus .little).answer ((linuxStatus .little).after .probed [pressed]) oneByte =
      ⟨false, touchhandlerSendTsEvent 100 50 true⟩ := by decide
  have hreleased : (linuxStatus .little).answer ((linuxStatus .little).after .probed []) oneByte =
      ⟨false, touchhandlerSendTsEvent 0 0 false⟩ := by decide
  refine ⟨hpressed, hreleased, fun h => ?_, fun h => ?_⟩
  · have hsame := h.1 .probed .probed rfl rfl [pressed] []
    rw [hpressed, hreleased] at hsame
    exact absurd hsame (by decide)
  · have hother : ¬ Normal typeOne := fun hnormal => absurd hnormal.2 (by decide)
    have hnone := h.2 hother ⟨.zeros, statusNormalPacket .little .zeros⟩ trivial []
    cases congrArg SdkReaction.status hnone

end RpUsbDisp.StatusPackets
