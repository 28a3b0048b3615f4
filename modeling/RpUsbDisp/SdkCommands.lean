import RpUsbDisp.SdkBitblt

/-!
# The display commands of the SDK

`fill`, `fillrect`, `bitblt` and `copyArea` fill in a packet structure each and hand it to
`sendCommandToDisplayEndpoint`.  Two of them may have a payload: a picture is copied, and
compressed for firmware that can decompress, and a copy for firmware from before a bug fix
gets one more byte, of memory that nobody wrote.

A `DisplayCall` is a call of one of the four, its image given by its pixels: in memory they
stand in the byte order of the host.  Every call prepares its payload and then sends its
command (`run_eq`), and so the packets of all of them carry what `run_written` says.
-/

namespace RpUsbDisp

namespace Sdk

open Framing RunLength

/-! ## The packet structures -/

/-- The packet structure of `fill`. -/
def fillStruct (host : HostOrder) (color : UInt16) : PacketStruct :=
  let packet : FillPacket :=
    { cmdFlag := RPUSBDISP_DISPCMD_FILL
      color565 := cpuToLe16 host color }
  { cmdFlag := packet.cmdFlag
    fields := (packet.toBytes host).tail
    size_lt := by
      rw [List.length_tail, packet.toBytes_length]
      decide }

/-- The packet structure of `fillrect`.  The colour is stored as it is. -/
def fillrectStruct (host : HostOrder) (left top right bottom color : UInt16) (bitOperation : UInt8) :
    PacketStruct :=
  let packet : FillrectPacket :=
    { cmdFlag := RPUSBDISP_DISPCMD_RECT
      left := cpuToLe16 host left
      top := cpuToLe16 host top
      right := cpuToLe16 host right
      bottom := cpuToLe16 host bottom
      color565 := color
      operation := bitOperation }
  { cmdFlag := packet.cmdFlag
    fields := (packet.toBytes host).tail
    size_lt := by
      rw [List.length_tail, packet.toBytes_length]
      decide }

/-- The packet structure of `copyArea`. -/
def copyAreaStruct (host : HostOrder) (srcX srcY destX destY width height : UInt16) : PacketStruct :=
  let packet : CopyareaPacket :=
    { cmdFlag := RPUSBDISP_DISPCMD_COPY_AREA
      sx := cpuToLe16 host srcX
      sy := cpuToLe16 host srcY
      dx := cpuToLe16 host destX
      dy := cpuToLe16 host destY
      width := cpuToLe16 host width
      height := cpuToLe16 host height }
  { cmdFlag := packet.cmdFlag
    fields := (packet.toBytes host).tail
    size_lt := by
      rw [List.length_tail, packet.toBytes_length]
      decide }

def RP_USB_DISPLAY_WIDTH : Int := 320
def RP_USB_DISPLAY_HEIGHT : Int := 240

def RP_USB_DISPLAY_MIN_VERSION_FILL : UInt16 := 0x0104
def RP_USB_DISPLAY_MIN_VERSION_COPY_AREA_BUG_FIX : UInt16 := 0x0104

def RoboPeakUsbDisplayBitOperationCopy : UInt8 := 0

section Code

/-! ## The commands -/

variable (env : Environment)

/-- A payload of no bytes. -/
def noPayload : Buffer := ⟨[], by decide⟩

/-- `sendCommandToDisplayEndpoint`, with a payload or without one.  Where there is none, nothing
is added to the total size and nothing is copied. -/
def sendCommand (maxPacketSize : CInt) (packet : PacketStruct) :
    Option Buffer → Except Stop Submission
  | some payload => sendCommandWithInt env maxPacketSize packet payload
  | none => sendCommandWithInt env maxPacketSize packet noPayload

/-- A new `Buffer` that nobody fills. -/
def freshBuffer (size : Nat) : Except Stop Buffer :=
  if h : env.malloc.succeeds size = true then
    .ok ⟨(List.range size).map env.garbage, by
      rw [List.length_map, List.length_range]
      exact env.malloc.size_lt size h⟩
  else .error .throws

/-- `fillrect`. -/
def fillrect (host : HostOrder) (maxPacketSize : CInt) (left top right bottom color : UInt16)
    (bitOperation : UInt8) : Except Stop Submission :=
  sendCommand env maxPacketSize (fillrectStruct host left top right bottom color bitOperation) none

/-- `fill`, which draws a rectangle where the firmware has no such command. -/
def fill (host : HostOrder) (maxPacketSize : CInt) (firmwareVersion : UInt16) (color : UInt16) :
    Except Stop Submission :=
  if firmwareVersion < RP_USB_DISPLAY_MIN_VERSION_FILL then
    fillrect env host maxPacketSize 0 0 (.ofInt (RP_USB_DISPLAY_WIDTH - 1))
      (.ofInt (RP_USB_DISPLAY_HEIGHT - 1)) color RoboPeakUsbDisplayBitOperationCopy
  else sendCommand env maxPacketSize (fillStruct host color) none

/-- `copyArea`. -/
def copyArea (host : HostOrder) (maxPacketSize : CInt) (firmwareVersion : UInt16)
    (srcX srcY destX destY width height : UInt16) : Except Stop Submission :=
  if firmwareVersion < RP_USB_DISPLAY_MIN_VERSION_COPY_AREA_BUG_FIX then do
    let padding ← freshBuffer env 1
    sendCommand env maxPacketSize (copyAreaStruct host srcX srcY destX destY width height)
      (some padding)
  else
    sendCommand env maxPacketSize (copyAreaStruct host srcX srcY destX destY width height) none

end Code

section Sending

/-! ## What is sent -/

variable {env : Environment} {maxPacketSize : CInt} {packet : PacketStruct} {payload : Option Buffer}

/-- What `maxPacketSize_` comes to in `size_t`, where it divides. -/
def packetSize (maxPacketSize : CInt) : Nat := sizeOfInt (maxPacketSize.val - 1) + 1

theorem packetSize_of_pos (hpos : 0 < maxPacketSize.val) :
    (packetSize maxPacketSize : Int) = maxPacketSize.val := by
  have hrange := maxPacketSize.range
  unfold INT_MIN INT_MAX at hrange
  unfold packetSize sizeOfInt
  omega

/-- Without a payload and with an empty one, the same is sent. -/
theorem exists_payload (env : Environment) (maxPacketSize : CInt) (packet : PacketStruct)
    (payload : Option Buffer) :
    ∃ sent : Buffer, commandBody packet (some sent) = commandBody packet payload ∧
      sendCommand env maxPacketSize packet payload =
        sendCommandWithInt env maxPacketSize packet sent := by
  cases payload with
  | none => exact ⟨noPayload, rfl, rfl⟩
  | some payload => exact ⟨payload, rfl, rfl⟩

/-- **The command is packetised and submitted**, for the packet sizes from 2 on that the
packetiser without `int`s knows. -/
theorem sendCommand_packetises (env : Environment) (htwo : 2 ≤ maxPacketSize.val)
    (hbody : (commandBody packet payload).length < 2 ^ 62) :
    sendCommand env maxPacketSize packet payload =
      ofBuffer (sendCommandToDisplayEndpoint env.malloc (packetSize maxPacketSize)
          env.displayStatus packet payload) >>= fun transferBuffer =>
        if env.transferAllocated && env.submitAccepted then
          .ok ⟨transferBuffer, intOfSize transferBuffer.length⟩
        else .error .throws := by
  obtain ⟨sent, hcommand, heq⟩ := exists_payload env maxPacketSize packet payload
  have hrange := maxPacketSize.range
  have hsize := packetSize_of_pos (show 0 < maxPacketSize.val by omega)
  have hmin : INT_MIN < maxPacketSize.val := by
    unfold INT_MIN
    omega
  have hint : packetSize maxPacketSize < 2 ^ 31 := by
    unfold INT_MAX at hrange
    omega
  have hcells : (frames (firstCommand env.displayStatus packet.cmdFlag) packet.cmdFlag
        (packetSize maxPacketSize - 1) (commandBody packet payload)).flatten.map some =
      transferBuffer env.displayStatus maxPacketSize packet sent := by
    rw [transferBuffer, if_pos (Or.inl htwo), packetsOf, hcommand]
    rfl
  have hlength : (commandBody packet payload).length + 1 +
        (commandBody packet payload).length / (packetSize maxPacketSize - 1) =
      (transferBuffer env.displayStatus maxPacketSize packet sent).length := by
    rw [transferBuffer_length env.displayStatus packet sent hmin, if_pos (Or.inl htwo), hcommand]
    rfl
  rw [heq, sendCommandWithInt_eq env hmin (by omega) (hcommand ▸ hbody), hcommand,
    sendCommandToDisplayEndpoint_eq (by omega) hint, hcells]
  unfold Environment.grants bufferSizes
  rw [hlength]
  simp only [List.all_cons, List.all_nil, Bool.and_true]
  cases env.malloc.succeeds ((commandBody packet payload).length + 1) <;>
    cases env.malloc.succeeds (transferBuffer env.displayStatus maxPacketSize packet sent).length <;>
      cases env.transferAllocated && env.submitAccepted <;> rfl

/-- **A transfer of which every byte was written** is the command, cut into packets. -/
theorem sendCommand_written {stream : List UInt8} {length : Int}
    (hbody : (commandBody packet payload).length < 2 ^ 62)
    (hlong : commandBody packet payload ≠ [])
    (hsent : sendCommand env maxPacketSize packet payload = .ok ⟨stream.map some, length⟩) :
    Packetised (packetSize maxPacketSize) (firstCommand env.displayStatus packet.cmdFlag)
      packet.cmdFlag (commandBody packet payload) stream := by
  obtain ⟨sent, hcommand, heq⟩ := exists_payload env maxPacketSize packet payload
  rw [heq] at hsent
  by_cases hmin : INT_MIN < maxPacketSize.val
  · by_cases hone : maxPacketSize.val = 1
    · rw [sendCommandWithInt_divides env hone] at hsent
      cases hsent
    · rw [← hcommand] at hbody hlong ⊢
      rw [sendCommandWithInt_eq env hmin hone hbody] at hsent
      split at hsent
      · have hbuffer : transferBuffer env.displayStatus maxPacketSize packet sent =
            stream.map some := congrArg Submission.buffer (Except.ok.inj hsent)
        unfold transferBuffer at hbuffer
        split at hbuffer
        · next hpackets =>
            have hstream := (List.map_inj_right fun _ _ h => Option.some.inj h).mp hbuffer
            rw [← hstream]
            exact frames_packetised (capacity_pos hmin hpackets) _ _ _
        · -- nothing was written
          have hne : (commandBody packet (some sent)).length ≠ 0 :=
            fun hzero => hlong (List.length_eq_zero_iff.mp hzero)
          exact absurd hbuffer (unwritten_ne hne stream)
      · cases hsent
  · rw [sendCommandWithInt_overflows env hmin] at hsent
    cases hsent

/-- Where nothing is refused and packets have a size, every byte is written. -/
theorem sendCommand_willing (hwilling : env.Willing) (htwo : 2 ≤ maxPacketSize.val)
    (hbody : (commandBody packet payload).length < 2 ^ 62) :
    ∃ (stream : List UInt8) (length : Int), sendCommand env maxPacketSize packet payload =
      .ok ⟨stream.map some, length⟩ := by
  obtain ⟨sent, hcommand, heq⟩ := exists_payload env maxPacketSize packet payload
  have hmin : INT_MIN < maxPacketSize.val := by
    unfold INT_MIN
    omega
  rw [← hcommand] at hbody
  rcases sendCommandWithInt_ok env hmin hbody (Or.inl htwo) with hok | ⟨hrefused, _⟩
  · exact ⟨_, _, heq.trans hok⟩
  · exact absurd hwilling hrefused

end Sending

section Pictures

/-! ## Pictures in memory -/

theorem ok_bind {α β : Type} (a : α) (f : α → Except Stop β) : Except.ok a >>= f = f a := rfl

theorem error_bind {α β : Type} (stop : Stop) (f : α → Except Stop β) :
    Except.error stop >>= f = .error stop := rfl

theorem bind_eq_ok {α β : Type} {x : Except Stop α} {f : α → Except Stop β} {b : β} :
    x >>= f = .ok b ↔ ∃ a, x = .ok a ∧ f a = .ok b := by
  cases x with
  | error stop => exact ⟨nofun, fun ⟨_, h, _⟩ => nomatch h⟩
  | ok a => exact ⟨fun h => ⟨a, rfl, h⟩, fun ⟨_, ha, h⟩ => Except.ok.inj ha ▸ h⟩

theorem map_eq_ok {α β : Type} {x : Except Stop α} {f : α → β} {b : β} :
    f <$> x = .ok b ↔ ∃ a, x = .ok a ∧ f a = b := by
  cases x with
  | error stop => exact ⟨nofun, fun ⟨_, h, _⟩ => nomatch h⟩
  | ok a => exact ⟨fun h => ⟨a, rfl, Except.ok.inj h⟩, fun ⟨_, ha, h⟩ => by rw [← h, Except.ok.inj ha]; rfl⟩

/-- The pixels a host reads are those it has stored. -/
theorem hostPixels_store16 (host : HostOrder) (pixels : List Pixel) :
    hostPixels host (pixels.flatMap (store16 host)) = pixels := by
  induction pixels with
  | nil => rfl
  | cons p pixels ih =>
      cases host with
      | little =>
          show ofBytes (loByte p) (hiByte p) :: hostPixels .little (pixels.flatMap _) = _
          rw [ofBytes_bytes, ih]
      | big =>
          show ofBytes (loByte p) (hiByte p) :: hostPixels .big (pixels.flatMap _) = _
          rw [ofBytes_bytes, ih]

/-- The memory of the first `n` pixels. -/
theorem take_flatMap_store16 (host : HostOrder) {pixels : List Pixel} {n : Nat}
    (hn : n ≤ pixels.length) :
    (pixels.flatMap (store16 host)).take (2 * n) = (pixels.take n).flatMap (store16 host) := by
  have hlen : ((pixels.take n).flatMap (store16 host)).length = 2 * n := by
    rw [flatMap_store16_length, List.length_take_of_le hn]
  have hsplit : pixels.flatMap (store16 host) =
      (pixels.take n).flatMap (store16 host) ++ (pixels.drop n).flatMap (store16 host) := by
    rw [← List.flatMap_append, List.take_append_drop]
  rw [hsplit, List.take_left' hlen]

/-- What a copy holds, if it is made. -/
theorem copyOf_bytes {env : Environment} {source : List UInt8} {size : Nat} {copy : Buffer}
    (hcopy : copyOf env source size = .ok copy) : copy.bytes = source.take size := by
  unfold copyOf at hcopy
  split at hcopy
  · split at hcopy
    · cases hcopy
      rfl
    · cases hcopy
  · cases hcopy

theorem freshBuffer_bytes {env : Environment} {size : Nat} {fresh : Buffer}
    (hfresh : freshBuffer env size = .ok fresh) : fresh.bytes = (List.range size).map env.garbage := by
  unfold freshBuffer at hfresh
  split at hfresh
  · cases hfresh
    rfl
  · cases hfresh

theorem freshBuffer_ok {env : Environment} {size : Nat} (hgranted : env.malloc.succeeds size = true) :
    ∃ fresh, freshBuffer env size = .ok fresh ∧ fresh.bytes = (List.range size).map env.garbage :=
  ⟨_, dif_pos hgranted, rfl⟩

/-- What a compression holds, if it is made: the picture had pixels. -/
theorem compressed_bytes {env : Environment} {host : HostOrder} {payload output : Buffer}
    {pixels : List Pixel} (hpayload : payload.bytes = pixels.flatMap (store16 host))
    (houtput : compressed env host payload = .ok output) :
    0 < pixels.length ∧
      output.bytes = (encode 128 reopenCommon pixels).flatMap (sectionBytes host) := by
  have hlen : payload.bytes.length = 2 * pixels.length := by
    rw [hpayload, flatMap_store16_length]
  by_cases hpos : 0 < pixels.length
  · rw [compressed_eq env host hpos hlen] at houtput
    split at houtput
    · cases houtput
    · have hbytes := copyOf_bytes houtput
      refine ⟨hpos, ?_⟩
      rw [hbytes, List.take_length, compressedPicture, hpayload, hostPixels_store16]
  · have hempty : payload.bytes = [] := List.length_eq_zero_iff.mp (by omega)
    rw [compressed_empty env host hempty] at houtput
    split at houtput <;> cases houtput

end Pictures

section Calls

/-! ## Calls -/

/-- A call of one of the four commands. -/
inductive DisplayCall where
  | fill (color : UInt16)
  | fillrect (left top right bottom color : UInt16) (bitOperation : UInt8)
  | bitblt (x y width height : UInt16) (bitOperation : UInt8) (image : List Pixel)
      (enough : width.toNat * height.toNat ≤ image.length)
  | copyArea (srcX srcY destX destY width height : UInt16)

namespace DisplayCall

variable (call : DisplayCall)

/-- What the call comes to, on a host that has the image in its memory. -/
def run (env : Environment) (host : HostOrder) (maxPacketSize : CInt) (firmwareVersion : UInt16) :
    Except Stop Submission :=
  match call with
  | .fill color => Sdk.fill env host maxPacketSize firmwareVersion color
  | .fillrect left top right bottom color bitOperation =>
      Sdk.fillrect env host maxPacketSize left top right bottom color bitOperation
  | .bitblt x y width height bitOperation image _ =>
      Sdk.bitblt env host maxPacketSize firmwareVersion x y width height bitOperation
        (image.flatMap (store16 host))
  | .copyArea srcX srcY destX destY width height =>
      Sdk.copyArea env host maxPacketSize firmwareVersion srcX srcY destX destY width height

/-- The command. -/
def command (firmwareVersion : UInt16) : UInt8 :=
  match call with
  | .fill _ =>
      if firmwareVersion < RP_USB_DISPLAY_MIN_VERSION_FILL then RPUSBDISP_DISPCMD_RECT
      else RPUSBDISP_DISPCMD_FILL
  | .fillrect .. => RPUSBDISP_DISPCMD_RECT
  | .bitblt .. =>
      if compresses firmwareVersion then RPUSBDISP_DISPCMD_BITBLT_RLE else RPUSBDISP_DISPCMD_BITBLT
  | .copyArea .. => RPUSBDISP_DISPCMD_COPY_AREA

/-- The packet structure a host fills in. -/
def struct (host : HostOrder) (firmwareVersion : UInt16) : PacketStruct :=
  match call with
  | .fill color =>
      if firmwareVersion < RP_USB_DISPLAY_MIN_VERSION_FILL then
        fillrectStruct host 0 0 319 239 color RPUSBDISP_OPERATION_COPY
      else fillStruct host color
  | .fillrect left top right bottom color bitOperation =>
      fillrectStruct host left top right bottom color bitOperation
  | .bitblt x y width height bitOperation _ _ =>
      bitbltStruct host (compresses firmwareVersion) x y width height bitOperation
  | .copyArea srcX srcY destX destY width height =>
      copyAreaStruct host srcX srcY destX destY width height

/-- Whether the call is padded. -/
def pads (firmwareVersion : UInt16) : Bool :=
  match call with
  | .copyArea .. => firmwareVersion < RP_USB_DISPLAY_MIN_VERSION_COPY_AREA_BUG_FIX
  | _ => false

/-- The payload a host sends, where the padding happens to be `padding`. -/
def payload (host : HostOrder) (firmwareVersion : UInt16) (padding : UInt8) : List UInt8 :=
  match call with
  | .bitblt _ _ width height _ image _ =>
      if compresses firmwareVersion then
        (encode 128 reopenCommon (image.take (width.toNat * height.toNat))).flatMap (sectionBytes host)
      else (image.take (width.toNat * height.toNat)).flatMap (store16 host)
  | .copyArea .. => if call.pads firmwareVersion then [padding] else []
  | _ => []

/-- What the packets of the call carry behind their commands. -/
def body (host : HostOrder) (firmwareVersion : UInt16) (padding : UInt8) : List UInt8 :=
  (call.struct host firmwareVersion).fields ++ call.payload host firmwareVersion padding

/-- What is done before the command is sent. -/
def prepare (env : Environment) (host : HostOrder) (firmwareVersion : UInt16) :
    Except Stop (Option Buffer) :=
  match call with
  | .bitblt _ _ width height _ image _ => do
      let payloadSize ← bitbltPayloadSize width height
      let payload ← copyOf env (image.flatMap (store16 host)) payloadSize
      some <$> if compresses firmwareVersion then compressed env host payload else .ok payload
  | .copyArea .. => if call.pads firmwareVersion then some <$> freshBuffer env 1 else .ok none
  | _ => .ok none

/-- What the arithmetic and the compression need of a picture. -/
def Sendable (firmwareVersion : UInt16) : Prop :=
  match call with
  | .bitblt _ _ width height _ _ _ =>
      (2 * (width.toNat * height.toNat) : Int) ≤ INT_MAX ∧
        (compresses firmwareVersion = true → 0 < width.toNat * height.toNat)
  | _ => True

variable {call} {env : Environment} {host : HostOrder} {maxPacketSize : CInt}
  {firmwareVersion : UInt16}

theorem struct_cmdFlag (host : HostOrder) (firmwareVersion : UInt16) :
    (call.struct host firmwareVersion).cmdFlag = call.command firmwareVersion := by
  cases call with
  | fill color =>
      by_cases hold : firmwareVersion < RP_USB_DISPLAY_MIN_VERSION_FILL
      · simp only [struct, command, if_pos hold]
        rfl
      · simp only [struct, command, if_neg hold]
        rfl
  | _ => rfl

/-- A packet structure has a few bytes behind its command. -/
theorem struct_fields_length (call : DisplayCall) (host : HostOrder) (firmwareVersion : UInt16) :
    0 < (call.struct host firmwareVersion).fields.length ∧
      (call.struct host firmwareVersion).fields.length < sizeofCopyareaPacket := by
  have hsize : ∀ {n : Nat} {bytes : List UInt8}, bytes.length = n → 1 < n → n ≤ sizeofCopyareaPacket →
      0 < bytes.tail.length ∧ bytes.tail.length < sizeofCopyareaPacket := by
    intro n bytes hlen hlo hhi
    rw [List.length_tail]
    omega
  cases call with
  | fill color =>
      by_cases hold : firmwareVersion < RP_USB_DISPLAY_MIN_VERSION_FILL
      · simp only [struct, if_pos hold]
        exact hsize (FillrectPacket.toBytes_length host _) (by decide) (by decide)
      · simp only [struct, if_neg hold]
        exact hsize (FillPacket.toBytes_length host _) (by decide) (by decide)
  | fillrect => exact hsize (FillrectPacket.toBytes_length host _) (by decide) (by decide)
  | bitblt => exact hsize (BitbltPacket.toBytes_length host _) (by decide) (by decide)
  | copyArea => exact hsize (CopyareaPacket.toBytes_length host _) (by decide) (by decide)

/-- **Every call** prepares its payload and sends its command. -/
theorem run_eq (call : DisplayCall) (env : Environment) (host : HostOrder) (maxPacketSize : CInt)
    (firmwareVersion : UInt16) :
    call.run env host maxPacketSize firmwareVersion =
      call.prepare env host firmwareVersion >>=
        sendCommand env maxPacketSize (call.struct host firmwareVersion) := by
  cases call with
  | fill color =>
      by_cases hold : firmwareVersion < RP_USB_DISPLAY_MIN_VERSION_FILL
      · simp only [run, Sdk.fill, prepare, struct, if_pos hold]
        rfl
      · simp only [run, Sdk.fill, prepare, struct, if_neg hold]
        rfl
  | fillrect => rfl
  | bitblt x y width height bitOperation image enough =>
      simp only [run, Sdk.bitblt, prepare, struct]
      cases bitbltPayloadSize width height with
      | error stop => rfl
      | ok size =>
          show (copyOf _ _ size >>= _) = (copyOf _ _ size >>= _) >>= _
          cases copyOf env (image.flatMap (store16 host)) size with
          | error stop => rfl
          | ok payload =>
              by_cases hrle : compresses firmwareVersion = true
              · simp only [if_pos hrle]
                show (compressed env host payload >>= _) = (some <$> compressed env host payload) >>= _
                cases compressed env host payload <;> rfl
              · simp only [if_neg hrle]
                rfl
  | copyArea =>
      by_cases hold : firmwareVersion < RP_USB_DISPLAY_MIN_VERSION_COPY_AREA_BUG_FIX
      · simp only [run, Sdk.copyArea, prepare, struct, pads, decide_eq_true hold, if_pos hold, if_true]
        cases freshBuffer env 1 <;> rfl
      · simp only [run, Sdk.copyArea, prepare, struct, pads, decide_eq_false hold, if_neg hold]
        rfl

/-- **What is prepared** is the payload. -/
theorem prepare_bytes {payload : Option Buffer}
    (hprepare : call.prepare env host firmwareVersion = .ok payload) :
    payloadBytes payload = call.payload host firmwareVersion (env.garbage 0) ∧
      (payloadBytes payload).length < 2 ^ 61 ∧ call.Sendable firmwareVersion := by
  cases call with
  | fill =>
      cases hprepare
      exact ⟨rfl, by decide, trivial⟩
  | fillrect =>
      cases hprepare
      exact ⟨rfl, by decide, trivial⟩
  | bitblt x y width height bitOperation image enough =>
      have hsize := bitbltPayloadSize_eq width height
      simp only [prepare, hsize] at hprepare
      have hlen : (image.take (width.toNat * height.toNat)).length = width.toNat * height.toNat :=
        List.length_take_of_le enough
      by_cases harea : (2 * (width.toNat * height.toNat) : Int) ≤ INT_MAX
      · rw [if_pos harea] at hprepare
        have hlt : width.toNat * height.toNat < 2 ^ 32 := by
          unfold INT_MAX at harea
          omega
        obtain ⟨size, hok, hprepare⟩ := bind_eq_ok.mp hprepare
        obtain rfl := Except.ok.inj hok
        obtain ⟨copy, hcopy, hprepare⟩ := bind_eq_ok.mp hprepare
        rw [map_eq_ok] at hprepare
        obtain ⟨output, houtput, rfl⟩ := hprepare
        have hbytes := copyOf_bytes hcopy
        rw [take_flatMap_store16 host enough] at hbytes
        show output.bytes = (if _ then _ else _) ∧ output.bytes.length < _ ∧ _
        by_cases hrle : compresses firmwareVersion = true
        · rw [if_pos hrle] at houtput ⊢
          obtain ⟨hpos, hcompressed⟩ := compressed_bytes hbytes houtput
          have hcost := encoded_length_le host (image.take (width.toNat * height.toNat))
          refine ⟨hcompressed, ?_, harea, fun _ => hlen ▸ hpos⟩
          rw [hcompressed]
          omega
        · rw [if_neg hrle] at houtput ⊢
          cases houtput
          refine ⟨hbytes, ?_, harea, fun h => absurd h hrle⟩
          rw [hbytes, flatMap_store16_length]
          omega
      · rw [if_neg harea] at hprepare
        cases hprepare
  | copyArea srcX srcY destX destY width height =>
      by_cases hpads : (copyArea srcX srcY destX destY width height).pads firmwareVersion = true
      · simp only [prepare, DisplayCall.payload, if_pos hpads] at hprepare ⊢
        obtain ⟨padding, hpadding, rfl⟩ := map_eq_ok.mp hprepare
        have hbytes : padding.bytes = [env.garbage 0] := freshBuffer_bytes hpadding
        refine ⟨hbytes, ?_, trivial⟩
        show padding.bytes.length < _
        rw [hbytes, List.length_singleton]
        decide
      · simp only [prepare, DisplayCall.payload, if_neg hpads] at hprepare ⊢
        cases hprepare
        exact ⟨rfl, by decide, trivial⟩

/-- What is prepared is small. -/
theorem commandBody_eq {payload : Option Buffer}
    (hprepare : call.prepare env host firmwareVersion = .ok payload) :
    commandBody (call.struct host firmwareVersion) payload =
        call.body host firmwareVersion (env.garbage 0) ∧
      (commandBody (call.struct host firmwareVersion) payload).length < 2 ^ 62 := by
  obtain ⟨hbytes, hlt, _⟩ := prepare_bytes hprepare
  have hfields := (struct_fields_length call host firmwareVersion).2
  refine ⟨by rw [commandBody, hbytes, body], ?_⟩
  rw [commandBody, List.length_append]
  unfold sizeofCopyareaPacket at hfields
  omega

theorem body_ne_nil (call : DisplayCall) (host : HostOrder) (firmwareVersion : UInt16)
    (padding : UInt8) : call.body host firmwareVersion padding ≠ [] := by
  have hfields := (struct_fields_length call host firmwareVersion).1
  intro hnil
  rw [(List.append_eq_nil_iff.mp hnil).1] at hfields
  exact Nat.lt_irrefl 0 hfields

/-- **What the transfer of a call carries**, if every byte of it was written. -/
theorem run_written {stream : List UInt8} {length : Int}
    (hrun : call.run env host maxPacketSize firmwareVersion = .ok ⟨stream.map some, length⟩) :
    Packetised (packetSize maxPacketSize)
        (firstCommand env.displayStatus (call.command firmwareVersion)) (call.command firmwareVersion)
        (call.body host firmwareVersion (env.garbage 0)) stream ∧
      call.Sendable firmwareVersion := by
  rw [run_eq] at hrun
  obtain ⟨payload, hprepare, hsent⟩ := bind_eq_ok.mp hrun
  obtain ⟨hbody, hlt⟩ := commandBody_eq hprepare
  have hlong : commandBody (call.struct host firmwareVersion) payload ≠ [] := by
    rw [hbody]
    exact call.body_ne_nil host firmwareVersion _
  have hpackets := sendCommand_written hlt hlong hsent
  rw [hbody, struct_cmdFlag] at hpackets
  exact ⟨hpackets, (prepare_bytes hprepare).2.2⟩

/-- Where nothing is refused, the payload can be prepared. -/
theorem prepare_willing (hwilling : env.Willing) (hsendable : call.Sendable firmwareVersion)
    (host : HostOrder) : ∃ payload, call.prepare env host firmwareVersion = .ok payload := by
  cases call with
  | fill => exact ⟨none, rfl⟩
  | fillrect => exact ⟨none, rfl⟩
  | bitblt x y width height bitOperation image enough =>
      obtain ⟨harea, hpixels⟩ := hsendable
      have hsize := bitbltPayloadSize_eq width height
      rw [if_pos harea] at hsize
      have hlen : (image.take (width.toNat * height.toNat)).length = width.toNat * height.toNat :=
        List.length_take_of_le enough
      have hlt : width.toNat * height.toNat < 2 ^ 32 := by
        unfold INT_MAX at harea
        omega
      have hroom : 2 * (width.toNat * height.toNat) ≤ (image.flatMap (store16 host)).length := by
        rw [flatMap_store16_length]
        omega
      rcases copyOf_spec env hroom (by omega) with ⟨copy, hbytes, hcopy⟩ | ⟨hrefused, _⟩
      · rw [take_flatMap_store16 host enough] at hbytes
        simp only [prepare, hsize]
        by_cases hrle : compresses firmwareVersion = true
        · have hcopylen : copy.bytes.length = 2 * (width.toNat * height.toNat) := by
            rw [hbytes, flatMap_store16_length, hlen]
          rcases compressed_spec env host (hpixels hrle) hlt hcopylen with
            ⟨output, _, houtput⟩ | ⟨hrefused, _⟩
          · refine ⟨some output, bind_eq_ok.mpr ⟨_, rfl, bind_eq_ok.mpr ⟨copy, hcopy, ?_⟩⟩⟩
            rw [if_pos hrle, houtput]
            rfl
          · exact absurd hwilling hrefused
        · refine ⟨some copy, bind_eq_ok.mpr ⟨_, rfl, bind_eq_ok.mpr ⟨copy, hcopy, ?_⟩⟩⟩
          rw [if_neg hrle]
          rfl
      · exact absurd hwilling hrefused
  | copyArea srcX srcY destX destY width height =>
      simp only [prepare]
      split
      · have hone : env.malloc.succeeds 1 = true := hwilling.malloc 1 (by decide)
        obtain ⟨padding, hpadding, _⟩ := freshBuffer_ok hone
        exact ⟨some padding, map_eq_ok.mpr ⟨padding, hpadding, rfl⟩⟩
      · exact ⟨none, rfl⟩

/-- **A call that can be sent is sent** where nothing is refused and packets have a size. -/
theorem run_willing (hwilling : env.Willing) (hsendable : call.Sendable firmwareVersion)
    (host : HostOrder) (htwo : 2 ≤ maxPacketSize.val) :
    ∃ (stream : List UInt8) (length : Int),
      call.run env host maxPacketSize firmwareVersion = .ok ⟨stream.map some, length⟩ := by
  obtain ⟨payload, hprepare⟩ := prepare_willing hwilling hsendable host
  obtain ⟨stream, length, hsent⟩ := sendCommand_willing hwilling htwo
    (commandBody_eq hprepare).2
  refine ⟨stream, length, ?_⟩
  rw [run_eq]
  exact bind_eq_ok.mpr ⟨payload, hprepare, hsent⟩

end DisplayCall

end Calls

end Sdk

end RpUsbDisp
