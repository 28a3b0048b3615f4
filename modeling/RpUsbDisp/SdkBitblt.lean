import RpUsbDisp.Packetisers
import RpUsbDisp.SdkRle

/-!
# The SDK's bitblt

`bitblt` multiplies two 16-bit sizes as `int`s, copies that many bytes, compresses them
for firmware that can decompress, and sends the packets of the command.  The packet
size is whatever `libusb_get_max_packet_size` returned when the device was opened,
also an error code.

What `malloc`, `new` and libusb answer is an `Environment`.  `bitblt_handled_iff` says for
which arguments every environment is handled: the transfer is correct, or an exception
is thrown before anything is submitted.
-/

namespace RpUsbDisp

namespace Sdk

open Framing RunLength

/-! ## Signed integers -/

def INT_MAX : Int := 2 ^ 31 - 1

def INT_MIN : Int := -2 ^ 31

/-- An `int`. -/
structure CInt where
  val : Int
  range : INT_MIN ≤ val ∧ val ≤ INT_MAX

/-- What keeps `bitblt` from a transfer: an exception, or something C++ leaves
undefined. -/
inductive Stop where
  | throws
  | signedOverflow
  | divisionByZero
  | buffer (fault : BufferFault)
  | rle (fault : RleFault)
  deriving DecidableEq

/-- An `int` computed: undefined where it does not fit. -/
def checkedInt (n : Int) : Except Stop CInt :=
  if h : INT_MIN ≤ n ∧ n ≤ INT_MAX then .ok ⟨n, h⟩ else .error .signedOverflow

/-- A `size_t` cast to `int`. -/
def intOfSize (size : Nat) : Int := (size + 2 ^ 31) % 2 ^ 32 - 2 ^ 31

/-- A cast keeps what an `int` can hold, and nothing else. -/
theorem intOfSize_eq_iff (size : Nat) : intOfSize size = size ↔ (size : Int) ≤ INT_MAX := by
  unfold intOfSize INT_MAX
  omega

/-! ## The surroundings -/

/-- What the allocators and libusb answer, what fresh memory holds, and the display
status of the last status packet. -/
structure Environment where
  malloc : Malloc
  newArray : Nat → Bool
  garbage : Nat → UInt8
  displayStatus : UInt8
  transferAllocated : Bool
  submitAccepted : Bool

/-- What is handed to `libusb_submit_transfer`. -/
structure Submission where
  buffer : List (Option UInt8)
  length : Int

/-- A buffer operation of which `new Buffer` throws. -/
def ofBuffer {α : Type} : Except BufferFault α → Except Stop α
  | .ok a => .ok a
  | .error .badAlloc => .error .throws
  | .error fault => .error (.buffer fault)

/-- A compression, which throws for an odd size. -/
def ofRle {α : Type} : Except RleFault α → Except Stop α
  | .ok a => .ok a
  | .error .unaligned => .error .throws
  | .error fault => .error (.rle fault)

section Code

variable (env : Environment)

/-- A new `Buffer` of `size` bytes, filled from `source` with `memcpy`. -/
def copyOf (source : List UInt8) (size : Nat) : Except Stop Buffer :=
  if h : env.malloc.succeeds size = true then
    if hsize : size ≤ source.length then
      .ok ⟨source.take size, by
        rw [List.length_take_of_le hsize]
        exact env.malloc.size_lt size h⟩
    else .error (.buffer .outOfBounds)
  else .error .throws

/-- `(size_t)(width * height * 2)`. -/
def bitbltPayloadSize (width height : UInt16) : Except Stop Nat := do
  let area ← checkedInt (width.toNat * height.toNat)
  let bytes ← checkedInt (area.val * 2)
  return sizeOfInt bytes.val

/-- `payload = rleCompress(payload)`. -/
def compressed (host : HostOrder) (payload : Buffer) : Except Stop Buffer :=
  let estBufferSize :=
    payload.bytes.length + (((payload.bytes.length >>> 1) + 0x7f) >>> 7)
  if payload.bytes.length &&& 0x1 = 0 ∧ env.newArray estBufferSize = false then .error .throws
  else do
    let output ← ofRle (rleCompress host payload.bytes env.garbage payload.bytes.length)
    copyOf env output output.length

/-- `sendCommandToDisplayEndpoint`, with `maxPacketSize_` the `int` it is.  In `size_t`,
`maxPacketSize_` and `capacity + 1` are the same. -/
def sendCommandWithInt (maxPacketSize : CInt) (packet : PacketStruct) (payload : Buffer) :
    Except Stop Submission := do
  let totalSize := sizeAdd packet.toBytes.length payload.bytes.length
  let capacity := sizeOfInt (← checkedInt (maxPacketSize.val - 1)).val
  if capacity = 0 then .error .divisionByZero
  else
    let packetCount :=
      sizeSub (sizeAdd (sizeSub totalSize 1) (sizeOfInt maxPacketSize.val)) 1 / capacity
    let scopeNakedBuffer ← ofBuffer (overallBuffer env.malloc packet (some payload) totalSize)
    let transferBufferSize := sizeSub (sizeAdd totalSize packetCount) 1
    let transferBuffer ← ofBuffer (newBuffer env.malloc transferBufferSize)
    let transferBuffer ← ofBuffer ((List.range packetCount).foldlM
      (packetStep (capacity + 1) env.displayStatus scopeNakedBuffer totalSize) transferBuffer)
    if env.transferAllocated && env.submitAccepted then
      return ⟨transferBuffer, intOfSize transferBufferSize⟩
    else .error .throws

def RP_USB_DISPLAY_MIN_VERSION_BITBLT_RLE : UInt16 := 0x0104

/-- Whether the firmware gets its pictures compressed. -/
def compresses (firmwareVersion : UInt16) : Bool :=
  !(firmwareVersion < RP_USB_DISPLAY_MIN_VERSION_BITBLT_RLE)

/-- `bitblt`, up to the transfer it submits. -/
def bitblt (host : HostOrder) (maxPacketSize : CInt) (firmwareVersion : UInt16)
    (x y width height : UInt16) (bitOperation : UInt8) (buffer : List UInt8) :
    Except Stop Submission := do
  let payloadSize ← bitbltPayloadSize width height
  let payload ← copyOf env buffer payloadSize
  let payload ← if compresses firmwareVersion then compressed env host payload else .ok payload
  sendCommandWithInt env maxPacketSize
    (bitbltStruct host (compresses firmwareVersion) x y width height bitOperation) payload

end Code

section Outcomes

/-! ## What an environment may do -/

/-- Nothing is refused. -/
structure Environment.Willing (env : Environment) : Prop where
  malloc : ∀ size < 2 ^ 63, env.malloc.succeeds size = true
  newArray : ∀ size, env.newArray size = true
  transferAllocated : env.transferAllocated = true
  submitAccepted : env.submitAccepted = true

variable {env : Environment}

theorem checkedInt_ok {n : Int} (h : INT_MIN ≤ n ∧ n ≤ INT_MAX) : checkedInt n = .ok ⟨n, h⟩ :=
  dif_pos h

theorem checkedInt_overflows {n : Int} (h : ¬ (INT_MIN ≤ n ∧ n ≤ INT_MAX)) :
    checkedInt n = .error .signedOverflow :=
  dif_neg h

/-- A copy of bytes that are there, unless it is refused. -/
theorem copyOf_spec (env : Environment) {source : List UInt8} {size : Nat} (hsize : size ≤ source.length)
    (hlt : size < 2 ^ 63) :
    (∃ copy : Buffer, copy.bytes = source.take size ∧ copyOf env source size = .ok copy) ∨
      (¬ env.Willing ∧ copyOf env source size = .error .throws) := by
  unfold copyOf
  by_cases hgranted : env.malloc.succeeds size = true
  · rw [dif_pos hgranted, dif_pos hsize]
    exact Or.inl ⟨_, rfl, rfl⟩
  · rw [dif_neg hgranted]
    exact Or.inr ⟨fun hwilling => hgranted (hwilling.malloc size hlt), rfl⟩

/-! ## The size of the picture -/

/-- The two products fit an `int`, or one of them overflows. -/
theorem bitbltPayloadSize_eq (width height : UInt16) :
    bitbltPayloadSize width height =
      if (2 * (width.toNat * height.toNat) : Int) ≤ INT_MAX then .ok (2 * (width.toNat * height.toNat))
      else .error .signedOverflow := by
  unfold bitbltPayloadSize
  generalize harea : width.toNat * height.toNat = area
  have hcast : (width.toNat * height.toNat : Int) = area := by exact_mod_cast harea
  rw [hcast]
  by_cases hfits : (2 * (area : Int)) ≤ INT_MAX
  · rw [if_pos hfits]
    have hbounds : INT_MIN ≤ (area : Int) * 2 ∧ (area : Int) * 2 ≤ INT_MAX := by
      unfold INT_MIN INT_MAX at *
      omega
    have hfirst : INT_MIN ≤ (area : Int) ∧ (area : Int) ≤ INT_MAX := by
      unfold INT_MIN INT_MAX at *
      omega
    rw [checkedInt_ok hfirst]
    show (checkedInt ((area : Int) * 2) >>= _) = _
    rw [checkedInt_ok hbounds]
    show Except.ok (sizeOfInt ((area : Int) * 2)) = _
    have hlt : 2 * area < 2 ^ 64 := by
      unfold INT_MAX at hfits
      omega
    have hsize : ((area : Int) * 2) = ((2 * area : Nat) : Int) := by omega
    rw [hsize, sizeOfInt_of_lt hlt]
  · rw [if_neg hfits]
    by_cases hfirst : INT_MIN ≤ (area : Int) ∧ (area : Int) ≤ INT_MAX
    · rw [checkedInt_ok hfirst]
      show (checkedInt ((area : Int) * 2) >>= _) = _
      rw [checkedInt_overflows]
      · rfl
      · intro hbounds
        exact hfits (by omega)
    · rw [checkedInt_overflows hfirst]
      rfl

/-! ## Sending with an `int` -/

/-- The packets of a command: `capacity` bytes each, behind the command byte. -/
def packetsOf (displayStatus : UInt8) (packet : PacketStruct) (payload : Buffer) (capacity : Nat) :
    List UInt8 :=
  (frames (firstCommand displayStatus packet.cmdFlag) packet.cmdFlag capacity
    (commandBody packet (some payload))).flatten

variable {maxPacketSize : CInt} {packet : PacketStruct} {payload : Buffer}

/-- What `maxPacketSize_ - 1` is as a `size_t`, where it does not overflow. -/
theorem capacity_eq (hmin : INT_MIN < maxPacketSize.val) :
    ∃ h, checkedInt (maxPacketSize.val - 1) = .ok ⟨maxPacketSize.val - 1, h⟩ := by
  have hrange := maxPacketSize.range
  have hbounds : INT_MIN ≤ maxPacketSize.val - 1 ∧ maxPacketSize.val - 1 ≤ INT_MAX := by
    unfold INT_MIN INT_MAX at *
    omega
  exact ⟨hbounds, checkedInt_ok hbounds⟩

/-- **How many packets there are**: as many as the body needs for a packet size from 2
on, one for a size that is negative enough, and none for the other sizes. -/
theorem packetCount_eq (hmin : INT_MIN < maxPacketSize.val) {body : Nat} (hbody : body < 2 ^ 62) :
    sizeSub (sizeAdd (sizeSub (body + 1) 1) (sizeOfInt maxPacketSize.val)) 1 /
        sizeOfInt (maxPacketSize.val - 1) =
      if 2 ≤ maxPacketSize.val ∨ maxPacketSize.val + (body + 1) < 2 then
        body / sizeOfInt (maxPacketSize.val - 1) + 1
      else 0 := by
  have hrange := maxPacketSize.range
  generalize maxPacketSize.val = mps at hmin hrange ⊢
  unfold INT_MIN at hmin
  unfold INT_MIN INT_MAX at hrange
  have hrest : sizeSub (body + 1) 1 = body := sizeSub_of_le (by omega)
  rw [hrest]
  by_cases hpos : 1 ≤ mps
  · obtain ⟨m, rfl⟩ : ∃ m : Nat, mps = ((m + 1 : Nat) : Int) := ⟨(mps - 1).toNat, by omega⟩
    have hcapacity : ((m + 1 : Nat) : Int) - 1 = (m : Int) := by omega
    have hsum : sizeAdd body (m + 1) = body + m + 1 := sizeAdd_of_lt (by omega)
    have hup : sizeSub (body + m + 1) 1 = body + m := sizeSub_of_le (by omega)
    rw [hcapacity, sizeOfInt_of_lt (by omega), sizeOfInt_of_lt (by omega), hsum, hup]
    by_cases htwo : 1 ≤ m
    · rw [Nat.add_div_right _ htwo, if_pos (Or.inl (by omega))]
    · obtain rfl : m = 0 := by omega
      rw [Nat.div_zero, if_neg]
      omega
  · obtain ⟨k, rfl⟩ : ∃ k : Nat, mps = -(k : Int) := ⟨(-mps).toNat, by omega⟩
    obtain ⟨d, hd⟩ : ∃ d : Nat, d + (k + 1) = 2 ^ 64 := ⟨2 ^ 64 - (k + 1), by omega⟩
    have hcapacity : sizeOfInt (-(k : Int) - 1) = d := by
      unfold sizeOfInt
      omega
    have hsum : sizeSub (sizeAdd body (sizeOfInt (-(k : Int)))) 1 =
        if body ≤ k then body + d else body - (k + 1) := by
      unfold sizeAdd sizeSub sizeOfInt
      split <;> split <;> omega
    rw [hcapacity, hsum]
    by_cases hwraps : body ≤ k
    · rw [if_pos hwraps, if_pos (Or.inr (by omega)), Nat.add_div_right _ (by omega)]
    · rw [if_neg hwraps, if_neg (by omega), Nat.div_eq_of_lt (by omega)]

/-- A packet takes at least one byte of the body. -/
theorem capacity_pos (hmin : INT_MIN < maxPacketSize.val) {body : Nat}
    (hpackets : 2 ≤ maxPacketSize.val ∨ maxPacketSize.val + (body + 1) < 2) :
    0 < sizeOfInt (maxPacketSize.val - 1) := by
  have hrange := maxPacketSize.range
  unfold INT_MIN INT_MAX at *
  unfold sizeOfInt
  omega

/-- The size of the whole command. -/
theorem totalSize_eq (hbody : (commandBody packet (some payload)).length < 2 ^ 62) :
    sizeAdd packet.toBytes.length payload.bytes.length =
      (commandBody packet (some payload)).length + 1 := by
  have hlength : (commandBody packet (some payload)).length =
      packet.fields.length + payload.bytes.length := by
    rw [commandBody, payloadBytes, List.length_append]
  rw [PacketStruct.toBytes, List.length_cons, sizeAdd_of_lt (by omega), hlength]
  omega

/-- What the transfer buffer of a command comes to hold: its packets, for a packet size from 2
on, or so negative that one packet takes everything.  For other sizes nobody writes it. -/
def transferBuffer (displayStatus : UInt8) (maxPacketSize : CInt) (packet : PacketStruct)
    (payload : Buffer) : List (Option UInt8) :=
  if 2 ≤ maxPacketSize.val ∨
      maxPacketSize.val + ((commandBody packet (some payload)).length + 1) < 2 then
    (packetsOf displayStatus packet payload (sizeOfInt (maxPacketSize.val - 1))).map some
  else List.replicate (commandBody packet (some payload)).length none

/-- Whether a command gets its two buffers and its transfer, and this is accepted. -/
def Environment.grants (env : Environment) (totalSize transferBufferSize : Nat) : Bool :=
  env.malloc.succeeds totalSize && env.malloc.succeeds transferBufferSize &&
    (env.transferAllocated && env.submitAccepted)

theorem Environment.Willing.grants (hwilling : env.Willing) {totalSize transferBufferSize : Nat}
    (htotal : totalSize < 2 ^ 63) (htransfer : transferBufferSize < 2 ^ 63) :
    env.grants totalSize transferBufferSize = true := by
  unfold Environment.grants
  rw [hwilling.malloc _ htotal, hwilling.malloc _ htransfer, hwilling.transferAllocated,
    hwilling.submitAccepted]
  rfl

theorem transferBuffer_length (displayStatus : UInt8) (packet : PacketStruct) (payload : Buffer)
    (hmin : INT_MIN < maxPacketSize.val) :
    (transferBuffer displayStatus maxPacketSize packet payload).length =
      if 2 ≤ maxPacketSize.val ∨
          maxPacketSize.val + ((commandBody packet (some payload)).length + 1) < 2 then
        (commandBody packet (some payload)).length + 1 +
          (commandBody packet (some payload)).length / sizeOfInt (maxPacketSize.val - 1)
      else (commandBody packet (some payload)).length := by
  unfold transferBuffer
  by_cases hpackets : 2 ≤ maxPacketSize.val ∨
      maxPacketSize.val + ((commandBody packet (some payload)).length + 1) < 2
  · rw [if_pos hpackets, if_pos hpackets, List.length_map, packetsOf,
      frames_flatten_length _ _ (capacity_pos hmin hpackets)]
  · rw [if_neg hpackets, if_neg hpackets, List.length_replicate]

/-- What nobody wrote is not what somebody wrote. -/
theorem unwritten_ne {n : Nat} (hne : n ≠ 0) (stream : List UInt8) :
    List.replicate n none ≠ stream.map some := by
  intro heq
  have hmem : none ∈ stream.map some := heq ▸ List.mem_replicate.mpr ⟨hne, rfl⟩
  obtain ⟨byte, _, hbyte⟩ := List.mem_map.mp hmem
  cases hbyte

/-- **What a command submits**, if the environment grants what it asks for; the two packet sizes
with which the arithmetic fails are left out. -/
theorem sendCommandWithInt_eq (env : Environment) (hmin : INT_MIN < maxPacketSize.val)
    (hone : maxPacketSize.val ≠ 1) (hbody : (commandBody packet (some payload)).length < 2 ^ 62) :
    sendCommandWithInt env maxPacketSize packet payload =
      if env.grants ((commandBody packet (some payload)).length + 1)
          (transferBuffer env.displayStatus maxPacketSize packet payload).length then
        .ok ⟨transferBuffer env.displayStatus maxPacketSize packet payload,
          intOfSize (transferBuffer env.displayStatus maxPacketSize packet payload).length⟩
      else .error .throws := by
  obtain ⟨hbounds, hchecked⟩ := capacity_eq hmin
  have hcount := packetCount_eq hmin hbody
  have htotal := totalSize_eq hbody
  have hlength := transferBuffer_length env.displayStatus packet payload hmin
  have hcapacity : sizeOfInt (maxPacketSize.val - 1) ≠ 0 := by
    have hrange := maxPacketSize.range
    unfold INT_MIN INT_MAX at *
    unfold sizeOfInt
    omega
  have hdiv := Nat.div_le_self (commandBody packet (some payload)).length
    (sizeOfInt (maxPacketSize.val - 1))
  generalize hpacketCount : (if 2 ≤ maxPacketSize.val ∨
      maxPacketSize.val + ((commandBody packet (some payload)).length + 1) < 2 then
      (commandBody packet (some payload)).length / sizeOfInt (maxPacketSize.val - 1) + 1
    else 0) = packetCount at hcount
  -- the buffer has the size it is filled to
  have hroom : sizeSub (sizeAdd ((commandBody packet (some payload)).length + 1) packetCount) 1 =
      (transferBuffer env.displayStatus maxPacketSize packet payload).length := by
    rw [hlength]
    by_cases hpackets : 2 ≤ maxPacketSize.val ∨
        maxPacketSize.val + ((commandBody packet (some payload)).length + 1) < 2
    · rw [if_pos hpackets] at hpacketCount ⊢
      rw [sizeAdd_of_lt (by omega), sizeSub_of_le (by omega), ← hpacketCount]
      omega
    · rw [if_neg hpackets] at hpacketCount ⊢
      rw [sizeAdd_of_lt (by omega), sizeSub_of_le (by omega), ← hpacketCount]
      omega
  have hfill : (List.range packetCount).foldlM
      (packetStep (sizeOfInt (maxPacketSize.val - 1) + 1) env.displayStatus
        ((packet.cmdFlag :: commandBody packet (some payload)).map some)
        ((commandBody packet (some payload)).length + 1))
      (List.replicate (transferBuffer env.displayStatus maxPacketSize packet payload).length none) =
      .ok (transferBuffer env.displayStatus maxPacketSize packet payload) := by
    rw [hlength]
    unfold transferBuffer
    by_cases hpackets : 2 ≤ maxPacketSize.val ∨
        maxPacketSize.val + ((commandBody packet (some payload)).length + 1) < 2
    · rw [if_pos hpackets] at hpacketCount ⊢
      rw [if_pos hpackets, ← hpacketCount]
      exact packets_fill (show 2 ≤ _ + 1 by omega) (by omega)
    · rw [if_neg hpackets] at hpacketCount ⊢
      rw [if_neg hpackets, ← hpacketCount]
      rfl
  unfold sendCommandWithInt Environment.grants
  rw [hchecked]
  show (if sizeOfInt (maxPacketSize.val - 1) = 0 then _ else _) = _
  simp only [htotal, hcount, if_neg hcapacity]
  by_cases hfirst : env.malloc.succeeds ((commandBody packet (some payload)).length + 1) = true
  · rw [overallBuffer_ok rfl hfirst, hroom, hfirst]
    show (ofBuffer (newBuffer env.malloc _) >>= _) = _
    unfold newBuffer
    by_cases hsecond : env.malloc.succeeds
        (transferBuffer env.displayStatus maxPacketSize packet payload).length = true
    · rw [if_pos hsecond, hsecond]
      show (ofBuffer (List.foldlM _ _ _) >>= _) = _
      rw [hfill]
      rfl
    · rw [if_neg hsecond, Bool.eq_false_iff.mpr hsecond]
      rfl
  · have hrefused : overallBuffer env.malloc packet (some payload)
        ((commandBody packet (some payload)).length + 1) = .error .badAlloc := by
      rw [overallBuffer, newBuffer, if_neg hfirst]
      rfl
    rw [hrefused, Bool.eq_false_iff.mpr hfirst]
    rfl

/-- **The command is sent in packets**, for a packet size from 2 on, or so negative that one
packet takes everything; unless the environment refuses. -/
theorem sendCommandWithInt_ok (env : Environment) (hmin : INT_MIN < maxPacketSize.val)
    (hbody : (commandBody packet (some payload)).length < 2 ^ 62)
    (hpackets : 2 ≤ maxPacketSize.val ∨
      maxPacketSize.val + ((commandBody packet (some payload)).length + 1) < 2) :
    sendCommandWithInt env maxPacketSize packet payload =
        .ok ⟨(packetsOf env.displayStatus packet payload (sizeOfInt (maxPacketSize.val - 1))).map some,
          intOfSize ((commandBody packet (some payload)).length + 1 +
            (commandBody packet (some payload)).length / sizeOfInt (maxPacketSize.val - 1))⟩ ∨
      (¬ env.Willing ∧ sendCommandWithInt env maxPacketSize packet payload = .error .throws) := by
  have hlength := transferBuffer_length env.displayStatus packet payload hmin
  have hdiv := Nat.div_le_self (commandBody packet (some payload)).length
    (sizeOfInt (maxPacketSize.val - 1))
  rw [if_pos hpackets] at hlength
  rw [sendCommandWithInt_eq env hmin (by omega) hbody, hlength, transferBuffer, if_pos hpackets]
  by_cases hgranted : env.grants ((commandBody packet (some payload)).length + 1)
      ((commandBody packet (some payload)).length + 1 +
        (commandBody packet (some payload)).length / sizeOfInt (maxPacketSize.val - 1)) = true
  · exact Or.inl (if_pos hgranted)
  · exact Or.inr ⟨fun hwilling => hgranted (hwilling.grants (by omega) (by omega)), if_neg hgranted⟩

/-- **Memory that nobody wrote is sent**, for a packet size of 0 or an error code too small
for the command. -/
theorem sendCommandWithInt_unwritten (hwilling : env.Willing) (hmin : INT_MIN < maxPacketSize.val)
    (hbody : (commandBody packet (some payload)).length < 2 ^ 62) (hone : maxPacketSize.val ≠ 1)
    (hpackets : ¬ (2 ≤ maxPacketSize.val ∨
      maxPacketSize.val + ((commandBody packet (some payload)).length + 1) < 2)) :
    sendCommandWithInt env maxPacketSize packet payload =
      .ok ⟨List.replicate (commandBody packet (some payload)).length none,
        intOfSize (commandBody packet (some payload)).length⟩ := by
  have hlength := transferBuffer_length env.displayStatus packet payload hmin
  rw [if_neg hpackets] at hlength
  rw [sendCommandWithInt_eq env hmin hone hbody, hlength,
    if_pos (hwilling.grants (by omega) (by omega)), transferBuffer, if_neg hpackets]

/-- The two packet sizes with which the arithmetic fails. -/
theorem sendCommandWithInt_overflows (env : Environment) (hmin : ¬ INT_MIN < maxPacketSize.val) :
    sendCommandWithInt env maxPacketSize packet payload = .error .signedOverflow := by
  have hoverflows : checkedInt (maxPacketSize.val - 1) = .error .signedOverflow := by
    apply checkedInt_overflows
    omega
  rw [sendCommandWithInt, hoverflows]
  rfl

theorem sendCommandWithInt_divides (env : Environment) (hone : maxPacketSize.val = 1) :
    sendCommandWithInt env maxPacketSize packet payload = .error .divisionByZero := by
  have hmin : INT_MIN < maxPacketSize.val := by
    rw [hone]
    decide
  obtain ⟨hbounds, hchecked⟩ := capacity_eq hmin
  rw [sendCommandWithInt, hchecked]
  simp only [bind, Except.bind, hone]
  rfl

/-! ## The payload -/

/-- A picture, compressed. -/
def compressedPicture (host : HostOrder) (picture : List UInt8) : List UInt8 :=
  (encode 128 reopenCommon (hostPixels host picture)).flatMap (sectionBytes host)

theorem compressedPicture_length_le (host : HostOrder) {n : Nat} {picture : List UInt8}
    (hlen : picture.length = 2 * n) :
    (compressedPicture host picture).length ≤ 2 * n + (n + 127) / 128 := by
  have hsize := encoded_length_le host (hostPixels host picture)
  rwa [(hostPixels_spec host hlen).1] at hsize

/-- **Compression** of a picture with pixels, if there is memory for its output. -/
theorem compressed_eq (env : Environment) (host : HostOrder) {n : Nat} (hpos : 0 < n)
    (hlen : payload.bytes.length = 2 * n) :
    compressed env host payload =
      if env.newArray (payload.bytes.length + (((payload.bytes.length >>> 1) + 0x7f) >>> 7)) = false then
        .error .throws
      else copyOf env (compressedPicture host payload.bytes)
        (compressedPicture host payload.bytes).length := by
  have heven : payload.bytes.length &&& 0x1 = 0 := by
    rw [Nat.and_one_is_mod]
    omega
  have hrun : rleCompress host payload.bytes env.garbage payload.bytes.length =
      .ok (compressedPicture host payload.bytes) := rleCompress_ok env.garbage hpos hlen (by omega)
  unfold compressed
  rw [hrun]
  by_cases hrefused : env.newArray
      (payload.bytes.length + (((payload.bytes.length >>> 1) + 0x7f) >>> 7)) = false
  · rw [if_pos ⟨heven, hrefused⟩, if_pos hrefused]
  · rw [if_neg (fun h => hrefused h.2), if_neg hrefused]
    rfl

/-- It goes on with the compressed picture, unless something is refused. -/
theorem compressed_spec (env : Environment) (host : HostOrder) {n : Nat} (hpos : 0 < n) (hn : n < 2 ^ 32)
    (hlen : payload.bytes.length = 2 * n) :
    (∃ output : Buffer, output.bytes = compressedPicture host payload.bytes ∧
        compressed env host payload = .ok output) ∨
      (¬ env.Willing ∧ compressed env host payload = .error .throws) := by
  rw [compressed_eq env host hpos hlen]
  by_cases hrefused : env.newArray
      (payload.bytes.length + (((payload.bytes.length >>> 1) + 0x7f) >>> 7)) = false
  · refine Or.inr ⟨fun hwilling => ?_, if_pos hrefused⟩
    exact absurd (hrefused.symm.trans (hwilling.newArray _)) nofun
  · have hsize := compressedPicture_length_le host hlen
    rw [if_neg hrefused]
    rcases copyOf_spec env (Nat.le_refl (compressedPicture host payload.bytes).length) (by omega) with
      ⟨copy, hbytes, hcopy⟩ | hthrows
    · refine Or.inl ⟨copy, ?_, hcopy⟩
      rw [hbytes, List.take_length]
    · exact Or.inr hthrows

/-- **An empty picture** leads the compression out of its output, if there is one. -/
theorem compressed_empty (env : Environment) (host : HostOrder) (hempty : payload.bytes = []) :
    compressed env host payload =
      if env.newArray 0 = false then .error .throws else .error (.rle .outOfBounds) := by
  unfold compressed
  rw [hempty]
  by_cases hrefused : env.newArray 0 = false
  · rw [if_pos hrefused]
    exact if_pos ⟨rfl, hrefused⟩
  · rw [if_neg hrefused]
    exact if_neg fun h => hrefused h.2

end Outcomes

/-! ## Calls -/

/-- A call of `bitblt`, with a buffer of at least `2 * width * height` bytes. -/
structure BitbltCall where
  host : HostOrder
  maxPacketSize : CInt
  firmwareVersion : UInt16
  x : UInt16
  y : UInt16
  width : UInt16
  height : UInt16
  bitOperation : UInt8
  buffer : List UInt8
  enough : 2 * (width.toNat * height.toNat) ≤ buffer.length

namespace BitbltCall

variable (call : BitbltCall)

/-- What the call comes to. -/
def outcome (env : Environment) : Except Stop Submission :=
  bitblt env call.host call.maxPacketSize call.firmwareVersion call.x call.y call.width call.height
    call.bitOperation call.buffer

/-- The number of pixels. -/
def area : Nat := call.width.toNat * call.height.toNat

/-- The bytes of the picture. -/
def picture : List UInt8 := call.buffer.take (2 * call.area)

/-- The packet structure of the call. -/
def packet : PacketStruct :=
  bitbltStruct call.host (compresses call.firmwareVersion) call.x call.y call.width call.height
    call.bitOperation

/-- What is sent behind it. -/
def payload : List UInt8 :=
  if compresses call.firmwareVersion then compressedPicture call.host call.picture else call.picture

/-- The payload is, or decodes to, the pixels of the picture. -/
def Carries (payload : List UInt8) : Prop :=
  (hostPixels call.host call.picture).length = call.area ∧
    if compresses call.firmwareVersion then
      (rleDecode payload).map (List.map (cpuToLe16 call.host)) = some (hostPixels call.host call.picture)
    else payload = (hostPixels call.host call.picture).flatMap (store16 call.host)

/-- **A correct transfer**: all of a buffer in which every byte was written, cut into packets
that carry the header and the picture.  The size of the packets is `maxPacketSize_`, if
that is one. -/
def Correct (env : Environment) (submission : Submission) : Prop :=
  ∃ (stream payload : List UInt8) (size : Nat), submission.buffer = stream.map some ∧ submission.length = stream.length ∧
    (0 < call.maxPacketSize.val → (size : Int) = call.maxPacketSize.val) ∧
    Packetised size (firstCommand env.displayStatus call.packet.cmdFlag) call.packet.cmdFlag
      (call.packet.fields ++ payload) stream ∧
    call.Carries payload

/-- The call submits a correct transfer, or throws before it submits anything. -/
def Handled (env : Environment) : Prop :=
  match call.outcome env with
  | .ok submission => call.Correct env submission
  | .error .throws => True
  | .error _ => False

/-- How many bytes the command has behind its first one. -/
def bodySize : Nat := sizeofBitbltPacket - 1 + call.payload.length

/-- How many bytes the transfer has. -/
def transferSize : Nat :=
  call.bodySize + 1 + call.bodySize / sizeOfInt (call.maxPacketSize.val - 1)

/-- When a call is handled: the picture has pixels if it is compressed, its size fits an
`int`, and so does the size of the transfer; and the packet size is at least 2, or an
error code so negative that all goes into one packet. -/
structure Submittable : Prop where
  area : (2 * call.area : Int) ≤ INT_MAX
  pixels : compresses call.firmwareVersion = true → 0 < call.area
  packets : 2 ≤ call.maxPacketSize.val ∨
    (INT_MIN < call.maxPacketSize.val ∧ call.maxPacketSize.val + (call.bodySize + 1) < 2)
  size : (call.transferSize : Int) ≤ INT_MAX

variable {call : BitbltCall} {env : Environment}

theorem picture_length : call.picture.length = 2 * call.area := by
  unfold picture area
  exact List.length_take_of_le call.enough

/-- The picture carries itself. -/
theorem carries_payload : call.Carries call.payload := by
  obtain ⟨hcount, hmemory⟩ := hostPixels_spec call.host call.picture_length
  refine ⟨hcount, ?_⟩
  unfold payload
  by_cases hrle : compresses call.firmwareVersion = true
  · rw [if_pos hrle, if_pos hrle]
    exact encoded_decodes call.host _
  · rw [if_neg hrle, if_neg hrle, hmemory]

/-- A picture that fits an `int` makes a small payload. -/
theorem payload_length_lt (harea : (2 * call.area : Int) ≤ INT_MAX) : call.payload.length < 2 ^ 33 := by
  unfold INT_MAX at harea
  have hlength := call.picture_length
  have hcompressed := compressedPicture_length_le call.host call.picture_length
  unfold payload
  split <;> omega

theorem bodySize_eq {payload : Buffer} (hpayload : payload.bytes = call.payload) :
    (commandBody call.packet (some payload)).length = call.bodySize := by
  have hfields : call.packet.fields.length = sizeofBitbltPacket - 1 := by
    unfold packet bitbltStruct
    rw [List.length_tail, BitbltPacket.toBytes_length]
  rw [commandBody, payloadBytes, List.length_append, hfields, hpayload, bodySize]

/-- A picture that is too large overflows. -/
theorem outcome_overflows (harea : ¬ (2 * call.area : Int) ≤ INT_MAX) (env : Environment) :
    call.outcome env = .error .signedOverflow := by
  have hsize := bitbltPayloadSize_eq call.width call.height
  have harea' : ¬ (2 * (call.width.toNat * call.height.toNat) : Int) ≤ INT_MAX := by
    unfold area at harea
    exact_mod_cast harea
  rw [if_neg harea'] at hsize
  unfold outcome bitblt
  rw [hsize]
  rfl

/-- The copy of the picture, unless it is refused. -/
theorem outcome_copied (harea : (2 * call.area : Int) ≤ INT_MAX) (env : Environment) :
    (∃ copy : Buffer, copy.bytes = call.picture ∧ call.outcome env =
      (if compresses call.firmwareVersion then compressed env call.host copy else .ok copy) >>=
        sendCommandWithInt env call.maxPacketSize call.packet) ∨
      (¬ env.Willing ∧ call.outcome env = .error .throws) := by
  have hsize := bitbltPayloadSize_eq call.width call.height
  have harea' : (2 * (call.width.toNat * call.height.toNat) : Int) ≤ INT_MAX := by
    unfold area at harea
    exact_mod_cast harea
  have hlt : 2 * (call.width.toNat * call.height.toNat) < 2 ^ 63 := by
    unfold INT_MAX area at harea
    omega
  rw [if_pos harea'] at hsize
  unfold outcome bitblt
  rw [hsize]
  simp only [bind, Except.bind]
  rcases copyOf_spec env call.enough hlt with ⟨copy, hbytes, hcopy⟩ | ⟨hrefused, hthrows⟩
  · rw [hcopy]
    refine Or.inl ⟨copy, hbytes, ?_⟩
    by_cases hrle : compresses call.firmwareVersion = true
    · simp only [if_pos hrle, packet]
    · simp only [if_neg hrle, packet]
  · rw [hthrows]
    exact Or.inr ⟨hrefused, rfl⟩

/-- **The payload is sent**, unless something is refused. -/
theorem outcome_sends (harea : (2 * call.area : Int) ≤ INT_MAX)
    (hpixels : compresses call.firmwareVersion = true → 0 < call.area) (env : Environment) :
    (∃ payload : Buffer, payload.bytes = call.payload ∧
      call.outcome env = sendCommandWithInt env call.maxPacketSize call.packet payload) ∨
      (¬ env.Willing ∧ call.outcome env = .error .throws) := by
  rcases call.outcome_copied harea env with ⟨copy, hbytes, houtcome⟩ | hthrows
  · rw [houtcome]
    by_cases hrle : compresses call.firmwareVersion = true
    · have hlength : copy.bytes.length = 2 * call.area := by rw [hbytes, call.picture_length]
      have hlt : call.area < 2 ^ 32 := by
        unfold INT_MAX at harea
        omega
      rw [if_pos hrle]
      rcases compressed_spec env call.host (hpixels hrle) hlt hlength with
        ⟨output, houtput, hrun⟩ | ⟨hrefused, hthrows⟩
      · rw [hrun]
        refine Or.inl ⟨output, ?_, rfl⟩
        rw [houtput, hbytes, payload, if_pos hrle]
      · rw [hthrows]
        exact Or.inr ⟨hrefused, rfl⟩
    · rw [if_neg hrle]
      refine Or.inl ⟨copy, ?_, rfl⟩
      rw [hbytes, payload, if_neg hrle]
  · exact Or.inr hthrows

/-- **The transfer is correct** if its size fits an `int`. -/
theorem correct_packetsOf {payload : Buffer} (hpayload : payload.bytes = call.payload)
    (hcapacity : 0 < sizeOfInt (call.maxPacketSize.val - 1))
    (hsize : (call.transferSize : Int) ≤ INT_MAX) :
    call.Correct env
      ⟨(packetsOf env.displayStatus call.packet payload (sizeOfInt (call.maxPacketSize.val - 1))).map some,
        intOfSize ((commandBody call.packet (some payload)).length + 1 +
          (commandBody call.packet (some payload)).length / sizeOfInt (call.maxPacketSize.val - 1))⟩ := by
  have hbody := call.bodySize_eq hpayload
  have hpacketised := frames_packetised hcapacity (firstCommand env.displayStatus call.packet.cmdFlag)
    call.packet.cmdFlag (commandBody call.packet (some payload))
  have hcommand : commandBody call.packet (some payload) = call.packet.fields ++ call.payload := by
    rw [commandBody, payloadBytes, hpayload]
  refine ⟨_, call.payload, sizeOfInt (call.maxPacketSize.val - 1) + 1, rfl, ?_, ?_,
    hcommand ▸ hpacketised, call.carries_payload⟩
  · unfold packetsOf
    rw [frames_flatten_length _ _ hcapacity]
    apply (intOfSize_eq_iff _).mpr
    rw [hbody]
    exact hsize
  · intro hpos
    have hrange := call.maxPacketSize.range
    unfold INT_MIN INT_MAX at hrange
    unfold sizeOfInt
    omega

/-- **A submittable call is handled** in every environment. -/
theorem Submittable.handled (h : call.Submittable) (env : Environment) : call.Handled env := by
  have hmin : INT_MIN < call.maxPacketSize.val := by
    have hpackets := h.packets
    unfold INT_MIN at hpackets ⊢
    omega
  unfold Handled
  rcases call.outcome_sends h.area h.pixels env with ⟨payload, hpayload, houtcome⟩ | ⟨_, hthrows⟩
  · have hbody := call.bodySize_eq hpayload
    have hlt : (commandBody call.packet (some payload)).length < 2 ^ 62 := by
      have hsmall := call.payload_length_lt h.area
      rw [hbody, bodySize, sizeofBitbltPacket]
      omega
    have hcounts : 2 ≤ call.maxPacketSize.val ∨
        call.maxPacketSize.val + ((commandBody call.packet (some payload)).length + 1) < 2 := by
      have hpackets := h.packets
      rw [hbody]
      omega
    rcases sendCommandWithInt_ok env hmin hlt hcounts with hok | ⟨_, hthrows⟩
    · rw [houtcome, hok]
      exact call.correct_packetsOf hpayload (capacity_pos hmin hcounts) h.size
    · rw [houtcome, hthrows]
      trivial
  · rw [hthrows]
    trivial

/-- An undefined operation is not handled. -/
theorem not_handled_of_fault {stop : Stop} (hstop : stop ≠ .throws)
    (houtcome : call.outcome env = .error stop) : ¬ call.Handled env := by
  intro h
  unfold Handled at h
  rw [houtcome] at h
  cases stop with
  | throws => exact hstop rfl
  | _ => exact h

/-- What is handled where nothing is refused has its pixels. -/
theorem area_of_handled (hhandled : call.Handled env) : (2 * call.area : Int) ≤ INT_MAX := by
  by_contra harea
  exact not_handled_of_fault (by decide) (call.outcome_overflows harea env) hhandled

theorem pixels_of_handled (hwilling : env.Willing) (hhandled : call.Handled env)
    (hrle : compresses call.firmwareVersion = true) : 0 < call.area := by
  by_contra hnone
  rcases call.outcome_copied (area_of_handled hhandled) env with ⟨copy, hbytes, houtcome⟩ | ⟨hrefused, _⟩
  · have hempty : copy.bytes = [] := by
      apply List.length_eq_zero_iff.mp
      rw [hbytes, call.picture_length]
      omega
    rw [if_pos hrle, compressed_empty env call.host hempty,
      if_neg (fun hrefused => absurd (hrefused.symm.trans (hwilling.newArray _)) nofun)] at houtcome
    exact not_handled_of_fault (by decide) houtcome hhandled
  · exact hrefused hwilling

/-- **What is handled where nothing is refused is submittable.** -/
theorem submittable_of_handled (hwilling : env.Willing) (hhandled : call.Handled env) :
    call.Submittable := by
  have harea := area_of_handled hhandled
  have hpixels := pixels_of_handled hwilling hhandled
  rcases call.outcome_sends harea hpixels env with ⟨payload, hpayload, houtcome⟩ | ⟨hrefused, _⟩
  · have hbody := call.bodySize_eq hpayload
    have hlt : (commandBody call.packet (some payload)).length < 2 ^ 62 := by
      have hsmall := call.payload_length_lt harea
      rw [hbody, bodySize, sizeofBitbltPacket]
      omega
    have hmin : INT_MIN < call.maxPacketSize.val := by
      by_contra hnot
      refine @not_handled_of_fault _ _ .signedOverflow (by decide) ?_ hhandled
      rw [houtcome, sendCommandWithInt_overflows env hnot]
    have hone : call.maxPacketSize.val ≠ 1 := by
      intro hone
      refine @not_handled_of_fault _ _ .divisionByZero (by decide) ?_ hhandled
      rw [houtcome, sendCommandWithInt_divides env hone]
    unfold Handled at hhandled
    rw [houtcome] at hhandled
    by_cases hcounts : 2 ≤ call.maxPacketSize.val ∨
        call.maxPacketSize.val + ((commandBody call.packet (some payload)).length + 1) < 2
    · rcases sendCommandWithInt_ok env hmin hlt hcounts with hok | ⟨hrefused, _⟩
      · rw [hok] at hhandled
        obtain ⟨stream, _, _, hwritten, hlength, _⟩ := hhandled
        have hstream : (packetsOf env.displayStatus call.packet payload
            (sizeOfInt (call.maxPacketSize.val - 1))).length = stream.length := by
          have hlen := congrArg List.length hwritten
          rwa [List.length_map, List.length_map] at hlen
        unfold packetsOf at hstream
        rw [frames_flatten_length _ _ (capacity_pos hmin hcounts)] at hstream
        rw [← hstream] at hlength
        refine ⟨harea, hpixels, ?_, ?_⟩
        · rw [hbody] at hcounts
          omega
        · have hfits := (intOfSize_eq_iff _).mp hlength
          rwa [hbody] at hfits
      · exact absurd hwilling hrefused
    · rw [sendCommandWithInt_unwritten hwilling hmin hlt hone hcounts] at hhandled
      obtain ⟨stream, _, _, hwritten, _⟩ := hhandled
      have hne : (commandBody call.packet (some payload)).length ≠ 0 := by
        rw [hbody, bodySize, sizeofBitbltPacket]
        omega
      exact absurd hwritten (unwritten_ne hne stream)
  · exact absurd hwilling hrefused

end BitbltCall

/-- An environment that refuses nothing. -/
def Environment.generous : Environment where
  malloc := .generous
  newArray _ := true
  garbage _ := 0
  displayStatus := 0x80
  transferAllocated := true
  submitAccepted := true

theorem Environment.generous_willing : Environment.generous.Willing :=
  ⟨fun _ hsize => decide_eq_true hsize, fun _ => rfl, rfl, rfl⟩

/-- **When a bitblt is handled.**  In every environment it submits a correct transfer or
throws before it submits anything, if and only if the call is submittable. -/
theorem bitblt_handled_iff (call : BitbltCall) :
    (∀ env, call.Handled env) ↔ call.Submittable :=
  ⟨fun h => BitbltCall.submittable_of_handled Environment.generous_willing (h .generous),
    fun h env => h.handled env⟩

/-- An empty picture for firmware that decompresses, and packets of 64 bytes. -/
def emptyCall : BitbltCall where
  host := .little
  maxPacketSize := ⟨64, by decide⟩
  firmwareVersion := 0x0104
  x := 0
  y := 0
  width := 0
  height := 0
  bitOperation := 0
  buffer := []
  enough := Nat.le_refl 0

/-- **An empty picture is compressed out of bounds.** -/
theorem empty_out_of_bounds :
    emptyCall.outcome .generous = .error (.rle .outOfBounds) ∧ ¬ ∀ env, emptyCall.Handled env := by
  have houtcome : emptyCall.outcome .generous = .error (.rle .outOfBounds) := by
    with_unfolding_all rfl
  exact ⟨houtcome, fun h => BitbltCall.not_handled_of_fault (by decide) houtcome (h .generous)⟩

end Sdk

end RpUsbDisp
