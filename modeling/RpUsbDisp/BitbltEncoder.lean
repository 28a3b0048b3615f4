import RpUsbDisp.Tickets

/-!
# The bitblt encoder

The incremental writer of `usbhandlers.c`: it buys tickets for the worst case,
copies bytes into the current ticket's buffer, writes a packet header whenever a
packet is full and submits a ticket whenever its packets are full.

`Encoding` is the invariant between two calls of the encoder.  Its first half
holds on every device: which tickets are held, and that the later ones are
untouched.  Its second half (`Stream`) holds on a `Regular` device and says what
stands on the wire and in the buffer together: the first byte and the body,
stuffed with one mark in front of every further packet.
-/

namespace RpUsbDisp

open Programs Framing

/-! ## The encoder -/

/-- `struct bitblt_encoding_context_t`.  Of the bundle's list only the node of
`ticket` and the nodes `later` than it matter; `advanced` says whether
`current_node` has already moved past `ticket`.  `urbbuffer` is an offset into
the buffer of `ticket`. -/
structure BitbltEncodingContext where
  ticket : Ticket
  later : List Ticket
  advanced : Bool
  encodedPos : Nat
  packetPos : Nat
  urbbuffer : Nat
  rlemode : Bool

namespace BitbltEncodingContext

/-- The bundle's list from `current_node` on. -/
def currentNode (ctx : BitbltEncodingContext) : List Ticket :=
  if ctx.advanced then ctx.later else ctx.ticket :: ctx.later

/-- The command every packet of the image carries. -/
def dispCmd (ctx : BitbltEncodingContext) : UInt8 :=
  if ctx.rlemode then RPUSBDISP_DISPCMD_BITBLT_RLE else RPUSBDISP_DISPCMD_BITBLT

end BitbltEncodingContext

/-- The first part of `_bitblt_encoder_init`: how many tickets the worst case
needs.  There is no answer where the code divides by zero. -/
def requiredTicketsCount (dev : Dev) (imageSize : Nat) (rlemode : Bool) : Option Nat :=
  let payloadWithoutHeaderSize := sizeAdd (sizeofBitbltPacket - sizeofPacketHeader) imageSize
  let payloadWithoutHeaderSize :=
    if rlemode then sizeAdd payloadWithoutHeaderSize (sizeAdd (imageSize / 2) 0x7f / 128)
    else payloadWithoutHeaderSize
  let effectivePayloadPerPacketSize := sizeSub dev.dispOutEpMaxSize sizeofPacketHeader
  if effectivePayloadPerPacketSize = 0 ∨ dev.packetSizeFactor = 0 then none
  else
    let packetCount :=
      sizeSub (sizeAdd payloadWithoutHeaderSize effectivePayloadPerPacketSize) 1 /
        effectivePayloadPerPacketSize
    some (sizeSub (sizeAdd packetCount dev.packetSizeFactor) 1 / dev.packetSizeFactor)

/-- `_bitblt_encoder_init`. -/
def bitbltEncoderInit (dev : Dev) (imageSize : Nat) (rlemode : Bool) :
    UsbProg (Option BitbltEncodingContext) := do
  match requiredTicketsCount dev imageSize rlemode with
  | none => .fault .oops
  | some required =>
      if required > RPUSBDISP_MAX_TRANSFER_TICKETS_COUNT then return none
      else
        match ← sellDispTickets required with
        | none => return none
        | some [] => .fault .oops
        | some (ticket :: later) =>
            return some
              { ticket := ticket
                later := later
                advanced := false
                encodedPos := 0
                packetPos := 0
                urbbuffer := 0
                rlemode := rlemode }

/-- The header `_bitblt_encode_command_header` writes. -/
def bitbltHeader (dev : Dev) (rlemode : Bool) (x y right bottom : Int) (clearDirty : Bool) :
    BitbltPacket :=
  let cmdFlag := if rlemode then RPUSBDISP_DISPCMD_BITBLT_RLE else RPUSBDISP_DISPCMD_BITBLT
  let cmdFlag := cmdFlag ||| RPUSBDISP_CMD_FLAG_START
  { cmdFlag := if clearDirty then cmdFlag ||| RPUSBDISP_CMD_FLAG_CLEARDITY else cmdFlag
    x := cpuToLe16 dev.host (.ofInt x)
    y := cpuToLe16 dev.host (.ofInt y)
    width := cpuToLe16 dev.host (.ofInt (right + 1 - x))
    height := cpuToLe16 dev.host (.ofInt (bottom + 1 - y))
    operation := RPUSBDISP_OPERATION_COPY }

/-- `_bitblt_encode_command_header`. -/
def bitbltEncodeCommandHeader (dev : Dev) (ctx : BitbltEncodingContext) (header : BitbltPacket) :
    UsbProg BitbltEncodingContext := do
  let ticket ← storeBuffer ctx.ticket ctx.urbbuffer (header.toBytes dev.host)
  return { ctx with ticket := ticket, encodedPos := sizeofBitbltPacket }

/-- Return one ticket after the other. -/
def returnAll : List Ticket → UsbProg Unit
  | [] => .ret ()
  | ticket :: rest => do
      let _ ← returnDispTickets ticket
      returnAll rest

/-- `_bitblt_encoder_cleanup`: return the tickets that were not used. -/
def bitbltEncoderCleanup (ctx : BitbltEncodingContext) : UsbProg Unit :=
  returnAll ctx.currentNode

/-- `_bitblt_encoder_flush`: submit the final ticket. -/
def bitbltEncoderFlush (dev : Dev) (ctx : BitbltEncodingContext) : UsbProg Bool := do
  let transferSize := ctx.packetPos * dev.dispOutEpMaxSize + ctx.encodedPos
  if transferSize ≠ 0 then
    let ctx := { ctx with ticket := ctx.ticket.setLength transferSize, advanced := true }
    match ← usbSubmitUrb .finalFlush ctx.ticket with
    | .refused status =>
        onDisplayTransferFinished dev (ctx.ticket.setStatus status)
        return false
    | .submitted =>
        bitbltEncoderCleanup ctx
        return true
  else
    bitbltEncoderCleanup ctx
    return true

/-- The header of the next packet. -/
def encodePacketHeader (ctx : BitbltEncodingContext) : UsbProg BitbltEncodingContext := do
  let ticket ← storeBuffer ctx.ticket ctx.urbbuffer [ctx.dispCmd]
  return { ctx with ticket := ticket, encodedPos := sizeofPacketHeader }

/-- The part of `_bitblt_encode_n_transfer_data` that runs when the current
packet is full: go on to the next one, and to the next ticket if need be. -/
def encodeNextPacket (dev : Dev) (ctx : BitbltEncodingContext) :
    UsbProg (BitbltEncodingContext × Bool) := do
  let ctx := { ctx with
    urbbuffer := ctx.urbbuffer + dev.dispOutEpMaxSize, packetPos := ctx.packetPos + 1 }
  if ctx.packetPos ≥ dev.packetSizeFactor then
    let ctx := { ctx with advanced := true }
    match ← usbSubmitUrb .fullUrb ctx.ticket with
    | .refused status =>
        onDisplayTransferFinished dev (ctx.ticket.setStatus status)
        return (ctx, false)
    | .submitted =>
        match ctx.currentNode with
        -- BUG_ON: the bundle has no further ticket
        | [] => .fault .oops
        | ticket :: later =>
            let ctx ← encodePacketHeader { ctx with
              ticket := ticket, later := later, advanced := false, packetPos := 0, urbbuffer := 0 }
            return (ctx, true)
  else
    let ctx ← encodePacketHeader ctx
    return (ctx, true)

/-- The loop of `_bitblt_encode_n_transfer_data`, for at most `fuel` rounds. -/
def encodeLoop (dev : Dev) : Nat → BitbltEncodingContext → List UInt8 →
    UsbProg (BitbltEncodingContext × Bool)
  | _, ctx, [] => .ret (ctx, true)
  | 0, _, _ :: _ => .fault .hang
  | fuel+1, ctx, b :: bs => do
      let data := b :: bs
      let bufferAvailLength := sizeSub dev.dispOutEpMaxSize ctx.encodedPos
      let sizeToCopy := if data.length > bufferAvailLength then bufferAvailLength else data.length
      let ticket ← storeBuffer ctx.ticket (ctx.urbbuffer + ctx.encodedPos) (data.take sizeToCopy)
      let ctx := { ctx with ticket := ticket, encodedPos := ctx.encodedPos + sizeToCopy }
      if bufferAvailLength = sizeToCopy then
        match ← encodeNextPacket dev ctx with
        | (ctx, true) => encodeLoop dev fuel ctx (data.drop sizeToCopy)
        | (ctx, false) => return (ctx, false)
      else encodeLoop dev fuel ctx (data.drop sizeToCopy)

/-- `_bitblt_encode_n_transfer_data`.  A round that copies nothing fills a packet,
and the bundle has only so many packets. -/
def bitbltEncodeNTransferData (dev : Dev) (ctx : BitbltEncodingContext) (data : List UInt8) :
    UsbProg (BitbltEncodingContext × Bool) :=
  encodeLoop dev (data.length + (ctx.later.length + 1) * (dev.packetSizeFactor + 1)) ctx data

/-! ## The invariant -/

/-- A device whose packets hold a bitblt header, and whose URBs hold at least one
packet and fit their buffers. -/
structure Dev.Regular (dev : Dev) (size : Nat) : Prop where
  header_le : sizeofBitbltPacket ≤ dev.dispOutEpMaxSize
  factor_pos : 0 < dev.packetSizeFactor
  fits : dev.packetSizeFactor * dev.dispOutEpMaxSize ≤ size

/-- The payload of a packet. -/
def Dev.payload (dev : Dev) : Nat := dev.dispOutEpMaxSize - sizeofPacketHeader

/-- The body a single URB carries. -/
def Dev.urbPayload (dev : Dev) : Nat := dev.packetSizeFactor * dev.payload

/-- The packet in work has room. -/
def BitbltEncodingContext.Open (dev : Dev) (ctx : BitbltEncodingContext) : Prop :=
  ctx.encodedPos < dev.dispOutEpMaxSize

/-- What does not change while an image is written: the size of the buffers, how
many tickets were bought, how long the body is going to be, the first byte and the
mark of the other packets. -/
structure Plan where
  size : Nat
  bundle : Nat
  total : Nat
  first : UInt8
  mark : UInt8

/-- What is on the wire and in the buffer, after `body`: the stream of stuffed
packets, of which the mark of a packet just filled is not written yet. -/
structure Stream (dev : Dev) (plan : Plan) (body : List UInt8) (ctx : BitbltEncodingContext)
    (g : Call) : Prop where
  unfailed : g.failed = false
  mark_eq : ctx.dispCmd = plan.mark
  pos : 1 ≤ ctx.encodedPos
  pos_le : ctx.encodedPos ≤ dev.dispOutEpMaxSize
  packet_lt : ctx.packetPos < dev.packetSizeFactor
  buffer_eq : ctx.urbbuffer = ctx.packetPos * dev.dispOutEpMaxSize
  length_eq : body.length =
    (g.sent.length * dev.packetSizeFactor + ctx.packetPos) * dev.payload + (ctx.encodedPos - 1)
  bundle_eq : g.sent.length + 1 + ctx.later.length = plan.bundle
  full_eq : ctx.ticket.transferUrb.transferBufferLength =
    dev.packetSizeFactor * dev.dispOutEpMaxSize
  wire : g.sent.flatten ++
      ctx.ticket.transferUrb.transferBuffer.take (ctx.urbbuffer + ctx.encodedPos) ++
      (if ctx.encodedPos = dev.dispOutEpMaxSize then [plan.mark] else []) =
    plan.first :: stuff plan.mark dev.payload body dev.payload

/-- **The invariant of the encoder** between two of its calls. -/
structure Encoding (dev : Dev) (plan : Plan) (body : List UInt8) (ctx : BitbltEncodingContext)
    (g : Call) : Prop where
  current : ctx.advanced = false
  held : g.held = ctx.ticket.id :: ctx.later.map Ticket.id
  room_eq : ctx.ticket.room = plan.size
  ready : ∀ t ∈ ctx.later, t.Ready dev plan.size
  started : 1 ≤ ctx.encodedPos
  whole : g.stranded = false
  stream : dev.Regular plan.size → Stream dev plan body ctx g

/-- The invariant between two calls with data of their own: once anything follows
the header, the packet in work has room. -/
structure Settled (dev : Dev) (plan : Plan) (body : List UInt8) (ctx : BitbltEncodingContext)
    (g : Call) : Prop extends Encoding dev plan body ctx g where
  isOpen : dev.Regular plan.size → sizeofBitbltPacket - sizeofPacketHeader < body.length →
    ctx.Open dev

/-- The encoder as `_bitblt_encoder_init` leaves it, with `bundle` tickets. -/
structure Fresh (dev : Dev) (size bundle : Nat) (rlemode : Bool) (ctx : BitbltEncodingContext)
    (g : Call) : Prop where
  current : ctx.advanced = false
  encodedPos_eq : ctx.encodedPos = 0
  packetPos_eq : ctx.packetPos = 0
  urbbuffer_eq : ctx.urbbuffer = 0
  rlemode_eq : ctx.rlemode = rlemode
  held : g.held = ctx.ticket.id :: ctx.later.map Ticket.id
  ready : ∀ t ∈ ctx.ticket :: ctx.later, t.Ready dev size
  bundle_eq : ctx.later.length + 1 = bundle
  whole : g.stranded = false
  unfailed : g.failed = false
  unsent : g.sent = []

/-- The encoder of a bundle that has just been sold. -/
theorem Fresh.sold {dev : Dev} {size bundle : Nat} {rlemode : Bool} {task : Task} {ticket : Ticket}
    {later : List Ticket} (hready : ∀ t ∈ ticket :: later, t.Ready dev size)
    (hlen : (ticket :: later).length = bundle) :
    Fresh dev size bundle rlemode
      { ticket := ticket, later := later, advanced := false, encodedPos := 0, packetPos := 0,
        urbbuffer := 0, rlemode := rlemode }
      { Call.start task with held := (ticket :: later).map Ticket.id } where
  current := rfl
  encodedPos_eq := rfl
  packetPos_eq := rfl
  urbbuffer_eq := rfl
  rlemode_eq := rfl
  held := rfl
  ready := hready
  bundle_eq := hlen
  whole := rfl
  unfailed := rfl
  unsent := rfl

/-- What is left of an encoder whose submission was refused: the tickets from
`current_node` on, all of them untouched.  A URB was full by then. -/
structure Aborted (dev : Dev) (plan : Plan) (ctx : BitbltEncodingContext) (g : Call) : Prop where
  held : g.held = ctx.currentNode.map Ticket.id
  ready : ∀ t ∈ ctx.currentNode, t.Ready dev plan.size
  whole : g.stranded = false
  failed : g.failed = true
  filled : dev.Regular plan.size → dev.urbPayload ≤ plan.total

section Steps

variable {dev : Dev} {plan : Plan} {body : List UInt8} {ctx : BitbltEncodingContext} {g : Call}

/-- The room `stuff` sees is what the code computes as `buffer_avail_length`. -/
theorem Stream.roomAfter_eq (h : Stream dev plan body ctx g) (hopen : ctx.Open dev) :
    roomAfter dev.payload body.length dev.payload = dev.dispOutEpMaxSize - ctx.encodedPos := by
  have hpos := h.pos
  have hlt : ctx.encodedPos < dev.dispOutEpMaxSize := hopen
  have hpay : dev.payload = dev.dispOutEpMaxSize - 1 := rfl
  have hmod : body.length % dev.payload = ctx.encodedPos - 1 := by
    rw [h.length_eq, Nat.mul_comm, Nat.mul_add_mod]
    exact Nat.mod_eq_of_lt (by omega)
  rw [roomAfter_fresh (by omega), hmod]
  omega

/-- **Copy.**  Bytes that fit the current packet go behind what it holds. -/
theorem Stream.copy (h : Stream dev plan body ctx g) {bs buffer : List UInt8}
    (hfit : bs.length ≤ dev.dispOutEpMaxSize - ctx.encodedPos)
    (hstore : writeAt ctx.ticket.transferUrb.transferBuffer (ctx.urbbuffer + ctx.encodedPos) bs =
      some buffer) :
    Stream dev plan (body ++ bs)
      { ctx with
        ticket := ctx.ticket.setBuffer buffer
        encodedPos := ctx.encodedPos + bs.length } g := by
  have hpos := h.pos
  have hle := h.pos_le
  have htake : buffer.take (ctx.urbbuffer + (ctx.encodedPos + bs.length)) =
      ctx.ticket.transferUrb.transferBuffer.take (ctx.urbbuffer + ctx.encodedPos) ++ bs := by
    rw [← Nat.add_assoc]
    exact writeAt_take hstore
  have hwire : g.sent.flatten ++
      (ctx.ticket.transferUrb.transferBuffer.take (ctx.urbbuffer + ctx.encodedPos) ++ bs) ++
      (if ctx.encodedPos + bs.length = dev.dispOutEpMaxSize then [plan.mark] else []) =
      plan.first :: stuff plan.mark dev.payload (body ++ bs) dev.payload := by
    have hold := h.wire
    rw [stuff_append]
    by_cases hopen : ctx.encodedPos = dev.dispOutEpMaxSize
    · have hbs : bs = [] := List.length_eq_zero_iff.mp (by omega)
      subst hbs
      simpa [stuff, hopen] using hold
    · have hroom := h.roomAfter_eq (show ctx.Open dev from by
        unfold BitbltEncodingContext.Open
        omega)
      rw [if_neg hopen, List.append_nil] at hold
      rw [hroom, ← List.append_assoc, hold]
      by_cases hfull : ctx.encodedPos + bs.length = dev.dispOutEpMaxSize
      · have hbs : stuff plan.mark dev.payload bs (dev.dispOutEpMaxSize - ctx.encodedPos) =
            bs ++ [plan.mark] := stuff_fill plan.mark dev.payload (by omega) (by omega)
        rw [if_pos hfull, hbs, List.cons_append]
        simp
      · have hbs : stuff plan.mark dev.payload bs (dev.dispOutEpMaxSize - ctx.encodedPos) = bs :=
          stuff_short plan.mark dev.payload (by omega)
        rw [if_neg hfull, hbs, List.cons_append]
        simp
  exact
    { unfailed := h.unfailed
      mark_eq := h.mark_eq
      pos := by
        show 1 ≤ ctx.encodedPos + bs.length
        omega
      pos_le := by
        show ctx.encodedPos + bs.length ≤ dev.dispOutEpMaxSize
        omega
      packet_lt := h.packet_lt
      buffer_eq := h.buffer_eq
      length_eq := by
        show (body ++ bs).length = (g.sent.length * dev.packetSizeFactor + ctx.packetPos) *
          dev.payload + (ctx.encodedPos + bs.length - 1)
        rw [List.length_append, h.length_eq]
        omega
      bundle_eq := h.bundle_eq
      full_eq := h.full_eq
      wire := by
        show g.sent.flatten ++ buffer.take (ctx.urbbuffer + (ctx.encodedPos + bs.length)) ++ _ = _
        rw [htake]
        exact hwire }

/-- **Next packet.**  Behind a full packet the mark of the next one is written. -/
theorem Stream.nextPacket (h : Stream dev plan body ctx g)
    (hfull : ctx.encodedPos = dev.dispOutEpMaxSize) (hone : 1 < dev.dispOutEpMaxSize)
    (hpacket : ctx.packetPos + 1 < dev.packetSizeFactor) {buffer : List UInt8}
    (hstore : writeAt ctx.ticket.transferUrb.transferBuffer
      (ctx.urbbuffer + dev.dispOutEpMaxSize) [plan.mark] = some buffer) :
    Stream dev plan body
      { ctx with
        ticket := ctx.ticket.setBuffer buffer
        encodedPos := sizeofPacketHeader
        packetPos := ctx.packetPos + 1
        urbbuffer := ctx.urbbuffer + dev.dispOutEpMaxSize } g where
  unfailed := h.unfailed
  mark_eq := h.mark_eq
  pos := Nat.le_refl 1
  pos_le := by
    have hpos := h.pos
    show 1 ≤ dev.dispOutEpMaxSize
    omega
  packet_lt := hpacket
  buffer_eq := by
    show ctx.urbbuffer + dev.dispOutEpMaxSize = (ctx.packetPos + 1) * dev.dispOutEpMaxSize
    rw [h.buffer_eq, Nat.succ_mul]
  length_eq := by
    show body.length = (g.sent.length * dev.packetSizeFactor + (ctx.packetPos + 1)) * dev.payload +
      (1 - 1)
    have hpay : dev.payload = ctx.encodedPos - 1 := by rw [hfull]; rfl
    rw [h.length_eq, ← Nat.add_assoc, Nat.succ_mul, hpay, Nat.sub_self, Nat.add_zero]
  bundle_eq := h.bundle_eq
  full_eq := h.full_eq
  wire := by
    show g.sent.flatten ++ buffer.take (ctx.urbbuffer + dev.dispOutEpMaxSize + 1) ++
      (if 1 = dev.dispOutEpMaxSize then [plan.mark] else []) = _
    have htake : buffer.take (ctx.urbbuffer + dev.dispOutEpMaxSize + 1) =
        ctx.ticket.transferUrb.transferBuffer.take (ctx.urbbuffer + dev.dispOutEpMaxSize) ++
          [plan.mark] := writeAt_take hstore
    have hold := h.wire
    rw [if_pos hfull, hfull] at hold
    rw [htake, if_neg (by omega), List.append_nil, ← List.append_assoc, hold]

/-- **Next ticket.**  A full URB goes out and the mark of its next packet opens
the buffer of another ticket. -/
theorem Stream.nextTicket (h : Stream dev plan body ctx g)
    (hfull : ctx.encodedPos = dev.dispOutEpMaxSize) (hone : 1 < dev.dispOutEpMaxSize)
    (hpacket : ctx.packetPos + 1 = dev.packetSizeFactor) {ticket : Ticket} {later : List Ticket}
    (hlater : ctx.later = ticket :: later) (hready : ticket.Ready dev plan.size)
    {buffer : List UInt8}
    (hstore : writeAt ticket.transferUrb.transferBuffer 0 [plan.mark] = some buffer) :
    Stream dev plan body
      { ctx with
        ticket := ticket.setBuffer buffer
        later := later
        advanced := false
        encodedPos := sizeofPacketHeader
        packetPos := 0
        urbbuffer := 0 }
      { g with
        held := g.held.erase ctx.ticket.id
        sent := g.sent ++ [ctx.ticket.transfer] } where
  unfailed := h.unfailed
  mark_eq := h.mark_eq
  pos := Nat.le_refl 1
  pos_le := Nat.le_of_lt hone
  packet_lt := by
    show 0 < dev.packetSizeFactor
    omega
  buffer_eq := (Nat.zero_mul _).symm
  length_eq := by
    show body.length = ((g.sent ++ [ctx.ticket.transfer]).length * dev.packetSizeFactor + 0) *
      dev.payload + (1 - 1)
    have hpay : dev.payload = ctx.encodedPos - 1 := by rw [hfull]; rfl
    have hcount : (g.sent ++ [ctx.ticket.transfer]).length * dev.packetSizeFactor + 0 =
        g.sent.length * dev.packetSizeFactor + ctx.packetPos + 1 := by
      rw [List.length_append, List.length_singleton, Nat.succ_mul, Nat.add_zero, Nat.add_assoc,
        hpacket]
    rw [h.length_eq, hcount, Nat.succ_mul, hpay]
    omega
  bundle_eq := by
    show (g.sent ++ [ctx.ticket.transfer]).length + 1 + later.length = plan.bundle
    have hbundle := h.bundle_eq
    rw [hlater, List.length_cons] at hbundle
    rw [List.length_append, List.length_singleton]
    omega
  full_eq := hready.length_eq
  wire := by
    show (g.sent ++ [ctx.ticket.transfer]).flatten ++ buffer.take (0 + 1) ++
      (if 1 = dev.dispOutEpMaxSize then [plan.mark] else []) = _
    have htake : buffer.take (0 + 1) = [plan.mark] := by
      have hbuffer := writeAt_take hstore
      rwa [List.take_zero, List.nil_append] at hbuffer
    have htransfer : ctx.ticket.transfer =
        ctx.ticket.transferUrb.transferBuffer.take (ctx.urbbuffer + dev.dispOutEpMaxSize) := by
      rw [Ticket.transfer, h.full_eq, h.buffer_eq, ← hpacket, Nat.succ_mul]
    have hold := h.wire
    rw [if_pos hfull, hfull] at hold
    rw [htake, if_neg (by omega), List.append_nil, List.flatten_append, List.flatten_singleton,
      htransfer, hold]

/-- At the end of a URB the body is a whole number of URBs. -/
theorem Stream.urb_full (h : Stream dev plan body ctx g)
    (hfull : ctx.encodedPos = dev.dispOutEpMaxSize)
    (hpacket : dev.packetSizeFactor ≤ ctx.packetPos + 1) :
    (g.sent.length + 1) * dev.urbPayload = body.length := by
  have hlt := h.packet_lt
  have hpay : dev.payload = ctx.encodedPos - 1 := by rw [hfull]; rfl
  have hsum : g.sent.length * dev.packetSizeFactor + dev.packetSizeFactor =
      g.sent.length * dev.packetSizeFactor + ctx.packetPos + 1 := by omega
  calc (g.sent.length + 1) * dev.urbPayload
      = (g.sent.length * dev.packetSizeFactor + dev.packetSizeFactor) * dev.payload := by
        rw [Dev.urbPayload, ← Nat.mul_assoc, Nat.succ_mul]
    _ = (g.sent.length * dev.packetSizeFactor + ctx.packetPos) * dev.payload + dev.payload := by
        rw [hsum, Nat.succ_mul]
    _ = body.length := by rw [h.length_eq, hpay]

/-- A bundle is exhausted when its packets are. -/
theorem Stream.exhausted (h : Stream dev plan body ctx g)
    (hfull : ctx.encodedPos = dev.dispOutEpMaxSize) (hlater : ctx.later = [])
    (hpacket : dev.packetSizeFactor ≤ ctx.packetPos + 1) :
    plan.bundle * dev.urbPayload = body.length := by
  have hbundle := h.bundle_eq
  rw [hlater, List.length_nil, Nat.add_zero] at hbundle
  rw [← hbundle]
  exact h.urb_full hfull hpacket

/-- What is written never exceeds the packets of the bundle. -/
theorem Stream.length_lt (h : Stream dev plan body ctx g) (hopen : ctx.Open dev) :
    body.length < plan.bundle * dev.urbPayload := by
  have hlt := h.packet_lt
  have hpos := h.pos
  have hopen' : ctx.encodedPos < dev.dispOutEpMaxSize := hopen
  have hpay : dev.payload = dev.dispOutEpMaxSize - 1 := rfl
  have hbundle : g.sent.length + 1 ≤ plan.bundle := by
    have := h.bundle_eq
    omega
  calc body.length
      = (g.sent.length * dev.packetSizeFactor + ctx.packetPos) * dev.payload +
          (ctx.encodedPos - 1) := h.length_eq
    _ < (g.sent.length * dev.packetSizeFactor + ctx.packetPos + 1) * dev.payload := by
        rw [Nat.succ_mul]
        omega
    _ ≤ (g.sent.length * dev.packetSizeFactor + dev.packetSizeFactor) * dev.payload :=
        Nat.mul_le_mul_right _ (by omega)
    _ = (g.sent.length + 1) * dev.urbPayload := by
        rw [← Nat.succ_mul, Nat.mul_assoc, Dev.urbPayload]
    _ ≤ plan.bundle * dev.urbPayload := Nat.mul_le_mul_right _ hbundle

end Steps

/-! ## What the functions of the encoder do -/

section Rules

variable {dev : Dev} {plan : Plan} {body : List UInt8} {ctx : BitbltEncodingContext} {g : Call}
  {F : Fault → Prop}

/-- The header of the next packet is one byte. -/
theorem encodePacketHeader_wp {P : Protocol UsbOp UsbOp.Res Call}
    {Q : BitbltEncodingContext × Bool → Call → Prop}
    (hstored : ∀ buffer,
      writeAt ctx.ticket.transferUrb.transferBuffer ctx.urbbuffer [ctx.dispCmd] = some buffer →
      Q ({ ctx with ticket := ctx.ticket.setBuffer buffer, encodedPos := sizeofPacketHeader },
        true) g)
    (hfault : ctx.ticket.room ≤ ctx.urbbuffer → F .oops) :
    (do
      let ctx ← encodePacketHeader ctx
      return (ctx, true)).wp P F Q g := by
  unfold encodePacketHeader
  rw [wp_bind, wp_bind]
  apply storeBuffer_wp
  · exact hstored
  · intro hroom
    exact hfault (Nat.le_of_lt_succ hroom)

theorem Dev.Regular.one_lt {size : Nat} (hreg : dev.Regular size) : 1 < dev.dispOutEpMaxSize := by
  have hheader := hreg.header_le
  have hten : sizeofBitbltPacket = 10 := rfl
  omega

/-- The next packet of the same ticket. -/
theorem Encoding.nextPacket (h : Encoding dev plan body ctx g)
    (hfull : dev.Regular plan.size → ctx.encodedPos = dev.dispOutEpMaxSize)
    (hpacket : ¬ ctx.packetPos + 1 ≥ dev.packetSizeFactor) {buffer : List UInt8}
    (hstore : writeAt ctx.ticket.transferUrb.transferBuffer (ctx.urbbuffer + dev.dispOutEpMaxSize)
      [ctx.dispCmd] = some buffer) :
    Encoding dev plan body
      { ctx with
        ticket := ctx.ticket.setBuffer buffer
        encodedPos := sizeofPacketHeader
        urbbuffer := ctx.urbbuffer + dev.dispOutEpMaxSize
        packetPos := ctx.packetPos + 1 } g where
  current := h.current
  held := h.held
  room_eq := by
    show buffer.length = plan.size
    rw [writeAt_length hstore]
    exact h.room_eq
  ready := h.ready
  started := Nat.le_refl 1
  whole := h.whole
  stream := by
    intro hreg
    have hstream := h.stream hreg
    have hmark : writeAt ctx.ticket.transferUrb.transferBuffer
        (ctx.urbbuffer + dev.dispOutEpMaxSize) [plan.mark] = some buffer := by
      rw [← hstream.mark_eq]
      exact hstore
    exact hstream.nextPacket (hfull hreg) hreg.one_lt (by omega) hmark

/-- Its buffer has room for it. -/
theorem Encoding.packet_room (h : Encoding dev plan body ctx g)
    (hpacket : ¬ ctx.packetPos + 1 ≥ dev.packetSizeFactor) (hreg : dev.Regular plan.size) :
    ctx.urbbuffer + dev.dispOutEpMaxSize < ctx.ticket.room := by
  have hbuffer := (h.stream hreg).buffer_eq
  have hsize : (ctx.packetPos + 2) * dev.dispOutEpMaxSize ≤ plan.size :=
    Nat.le_trans (Nat.mul_le_mul_right _ (by omega)) hreg.fits
  have hpos := hreg.one_lt
  rw [Nat.add_mul, ← hbuffer] at hsize
  rw [h.room_eq]
  omega

/-- The first packet of the next ticket. -/
theorem Encoding.nextTicket (h : Encoding dev plan body ctx g)
    (hfull : dev.Regular plan.size → ctx.encodedPos = dev.dispOutEpMaxSize)
    (hpacket : ctx.packetPos + 1 ≥ dev.packetSizeFactor) {ticket : Ticket} {later : List Ticket}
    (hlater : ctx.later = ticket :: later) {buffer : List UInt8}
    (hstore : writeAt ticket.transferUrb.transferBuffer 0 [ctx.dispCmd] = some buffer) :
    Encoding dev plan body
      { ctx with
        ticket := ticket.setBuffer buffer
        later := later
        advanced := false
        encodedPos := sizeofPacketHeader
        packetPos := 0
        urbbuffer := 0 }
      (g.track (.submitUrb .fullUrb ctx.ticket) .submitted) where
  current := rfl
  held := by
    show g.held.erase ctx.ticket.id = ticket.id :: later.map Ticket.id
    rw [h.held, List.erase_cons_head, hlater, List.map_cons]
  room_eq := by
    show buffer.length = plan.size
    rw [writeAt_length hstore]
    exact (h.ready ticket (by simp [hlater])).room_eq
  ready := by
    intro t ht
    apply h.ready
    rw [hlater]
    exact List.mem_cons_of_mem ticket ht
  started := Nat.le_refl 1
  whole := h.whole
  stream := by
    intro hreg
    have hstream := h.stream hreg
    have hlast : ctx.packetPos + 1 = dev.packetSizeFactor := by
      have hlt := hstream.packet_lt
      omega
    have hmark : writeAt ticket.transferUrb.transferBuffer 0 [plan.mark] = some buffer := by
      rw [← hstream.mark_eq]
      exact hstore
    exact hstream.nextTicket (hfull hreg) hreg.one_lt hlast hlater
      (h.ready ticket (by simp [hlater])) hmark

/-- The driver gives up when a full URB is refused. -/
theorem Encoding.aborted (h : Encoding dev plan body ctx g)
    (hfull : dev.Regular plan.size → ctx.encodedPos = dev.dispOutEpMaxSize)
    (hle : body.length ≤ plan.total) (hpacket : ctx.packetPos + 1 ≥ dev.packetSizeFactor)
    (status : Int) :
    Aborted dev plan
      { ctx with
        advanced := true
        urbbuffer := ctx.urbbuffer + dev.dispOutEpMaxSize
        packetPos := ctx.packetPos + 1 }
      ((g.track (.submitUrb .fullUrb ctx.ticket) (.refused status)).track
        (.returnTicket (ctx.ticket.setStatus status)) true) where
  held := by
    show g.held.erase ctx.ticket.id = ctx.later.map Ticket.id
    rw [h.held, List.erase_cons_head]
  ready := h.ready
  whole := by
    show (g.stranded || g.strands .fullUrb ctx.ticket) = false
    rw [h.whole]
    rfl
  failed := rfl
  filled := by
    intro hreg
    have hwhole := (h.stream hreg).urb_full (hfull hreg) hpacket
    rw [← hwhole] at hle
    exact Nat.le_trans (Nat.le_mul_of_pos_left _ (Nat.succ_pos _)) hle

/-- A full packet is followed by the next one, in the same ticket or in another,
unless the bundle is exhausted or a submission is refused. -/
theorem encodeNextPacket_wp {Q : BitbltEncodingContext × Bool → Call → Prop}
    (h : Encoding dev plan body ctx g)
    (hfull : dev.Regular plan.size → ctx.encodedPos = dev.dispOutEpMaxSize)
    (hle : body.length ≤ plan.total)
    (hirregular : ¬ dev.Regular plan.size → ∀ e, F e)
    (hexhausted : plan.bundle * dev.urbPayload ≤ plan.total → F .oops)
    (hok : ∀ ctx' g', Encoding dev plan body ctx' g' →
      (dev.Regular plan.size → ctx'.Open dev) → Q (ctx', true) g')
    (habort : ∀ ctx' g', Aborted dev plan ctx' g' → Q (ctx', false) g') :
    (encodeNextPacket dev ctx).wp (callProtocol dev plan.size) F Q g := by
  have hheld : ctx.ticket.id ∈ g.held := by
    rw [h.held]
    exact List.mem_cons_self
  unfold encodeNextPacket
  by_cases hpacket : ctx.packetPos + 1 ≥ dev.packetSizeFactor
  · rw [if_pos hpacket, wp_ask_bind]
    refine ⟨⟨hheld, h.room_eq⟩, fun r _ => ?_⟩
    cases r with
    | refused status =>
        rw [wp_bind]
        apply onDisplayTransferFinished_wp
        · exact hheld
        · exact h.room_eq
        · exact habort _ _ (h.aborted hfull hle hpacket status)
    | submitted =>
        cases hlater : ctx.later with
        | nil =>
            by_cases hreg : dev.Regular plan.size
            · apply hexhausted
              rw [(h.stream hreg).exhausted (hfull hreg) hlater hpacket]
              exact hle
            · exact hirregular hreg .oops
        | cons ticket later =>
            have hready : ticket.Ready dev plan.size := h.ready ticket (by simp [hlater])
            apply encodePacketHeader_wp
            · intro buffer hstore
              exact hok _ _ (h.nextTicket hfull hpacket hlater hstore) fun hreg => hreg.one_lt
            · intro hroom
              have hempty : plan.size = 0 := by
                rw [← hready.room_eq]
                exact Nat.le_zero.mp hroom
              by_cases hreg : dev.Regular plan.size
              · have hsize : dev.dispOutEpMaxSize ≤ plan.size :=
                  Nat.le_trans (Nat.le_mul_of_pos_left _ hreg.factor_pos) hreg.fits
                have hpos := hreg.one_lt
                omega
              · exact hirregular hreg .oops
  · rw [if_neg hpacket]
    apply encodePacketHeader_wp
    · intro buffer hstore
      exact hok _ _ (h.nextPacket hfull hpacket hstore) fun hreg => hreg.one_lt
    · intro hroom
      by_cases hreg : dev.Regular plan.size
      · exact absurd hroom (Nat.not_le.mpr (h.packet_room hpacket hreg))
      · exact hirregular hreg .oops

/-- Bytes stored behind the current packet keep the invariant. -/
theorem Encoding.copy (h : Encoding dev plan body ctx g) {bs buffer : List UInt8}
    (hfit : dev.Regular plan.size → bs.length ≤ dev.dispOutEpMaxSize - ctx.encodedPos)
    (hstore : writeAt ctx.ticket.transferUrb.transferBuffer (ctx.urbbuffer + ctx.encodedPos) bs =
      some buffer) :
    Encoding dev plan (body ++ bs)
      { ctx with
        ticket := ctx.ticket.setBuffer buffer
        encodedPos := ctx.encodedPos + bs.length } g where
  current := h.current
  held := h.held
  room_eq := by
    show buffer.length = plan.size
    rw [writeAt_length hstore]
    exact h.room_eq
  ready := h.ready
  started := Nat.le_trans h.started (Nat.le_add_right _ _)
  whole := h.whole
  stream := fun hreg => (h.stream hreg).copy (hfit hreg) hstore

/-- **The copy loop.**  It ends with all bytes copied, or with a refused
submission; the induction is on the rounds left, and a round that copies nothing
opens a packet. -/
theorem encodeLoop_wp {Q : BitbltEncodingContext × Bool → Call → Prop} {fuel : Nat}
    {data : List UInt8} (h : Encoding dev plan body ctx g)
    (hfuel : dev.Regular plan.size →
      ctx.Open dev ∧ data.length ≤ fuel ∨ data.length + 1 ≤ fuel)
    (hlen : (body ++ data).length ≤ plan.total)
    (hirregular : ¬ dev.Regular plan.size → ∀ e, F e)
    (hexhausted : plan.bundle * dev.urbPayload ≤ plan.total → F .oops)
    (hok : ∀ ctx' g', Encoding dev plan (body ++ data) ctx' g' →
      (dev.Regular plan.size → (data = [] → ctx.Open dev) → ctx'.Open dev) → Q (ctx', true) g')
    (habort : ∀ ctx' g', Aborted dev plan ctx' g' → Q (ctx', false) g') :
    (encodeLoop dev fuel ctx data).wp (callProtocol dev plan.size) F Q g := by
  induction fuel generalizing ctx data body g with
  | zero =>
      cases data with
      | nil =>
          refine hok ctx g ?_ fun _ hopen => hopen rfl
          rwa [List.append_nil]
      | cons b bs =>
          by_cases hreg : dev.Regular plan.size
          · rcases hfuel hreg with ⟨_, hlen⟩ | hlen
            · cases hlen
            · cases hlen
          · exact hirregular hreg .hang
  | succ fuel ih =>
      cases hdata : data with
      | nil =>
          subst hdata
          refine hok ctx g ?_ fun _ hopen => hopen rfl
          rwa [List.append_nil]
      | cons b bs =>
          rw [encodeLoop, ← hdata]
          have hne : data ≠ [] := by simp [hdata]
          have hcons : 1 ≤ data.length := List.length_pos_iff.mpr hne
          generalize havail : sizeSub dev.dispOutEpMaxSize ctx.encodedPos = avail
          generalize hcopy : (if data.length > avail then avail else data.length) = k
          have hle : k ≤ data.length := by
            split at hcopy <;> omega
          have hk : (data.take k).length = k := List.length_take_of_le hle
          have hregular : dev.Regular plan.size → avail = dev.dispOutEpMaxSize - ctx.encodedPos ∧
              ctx.encodedPos ≤ dev.dispOutEpMaxSize := by
            intro hreg
            have hle := (h.stream hreg).pos_le
            exact ⟨by rw [← havail, sizeSub_of_le hle], hle⟩
          rw [wp_bind]
          apply storeBuffer_wp
          · intro buffer hstore
            have hnext := h.copy (fun hreg => by
              rw [hk]
              have := (hregular hreg).1
              split at hcopy <;> omega) hstore
            rw [hk] at hnext
            have hsplit : body ++ data.take k ++ data.drop k = body ++ data := by
              rw [List.append_assoc, List.take_append_drop]
            by_cases hturn : avail = k
            · rw [if_pos hturn, wp_bind]
              apply encodeNextPacket_wp hnext
              · intro hreg
                have := hregular hreg
                show ctx.encodedPos + k = dev.dispOutEpMaxSize
                omega
              · rw [List.length_append, hk]
                rw [List.length_append] at hlen
                omega
              · exact hirregular
              · exact hexhausted
              · intro ctx' g' h' hopen
                apply ih h'
                · intro hreg
                  refine Or.inl ⟨hopen hreg, ?_⟩
                  have hregular' := hregular hreg
                  rw [List.length_drop]
                  rcases hfuel hreg with ⟨hlt, hlen⟩ | hlen
                  · have hlt' : ctx.encodedPos < dev.dispOutEpMaxSize := hlt
                    omega
                  · omega
                · rwa [hsplit]
                · intro ctx'' g'' h'' hopen''
                  rw [hsplit] at h''
                  exact hok ctx'' g'' h'' fun hreg _ => hopen'' hreg fun _ => hopen hreg
              · exact habort
            · rw [if_neg hturn]
              have hlen : k = data.length := by
                split at hcopy <;> omega
              have hopen : dev.Regular plan.size → ctx.encodedPos + k < dev.dispOutEpMaxSize := by
                intro hreg
                have hregular' := hregular hreg
                split at hcopy <;> omega
              apply ih hnext
              · intro hreg
                refine Or.inl ⟨hopen hreg, ?_⟩
                rw [List.length_drop]
                omega
              · rwa [hsplit]
              · intro ctx'' g'' h'' hopen''
                rw [hsplit] at h''
                exact hok ctx'' g'' h'' fun hreg _ => hopen'' hreg fun _ => hopen hreg
          · intro hroom
            by_cases hreg : dev.Regular plan.size
            · have hregular' := hregular hreg
              have hstream := h.stream hreg
              have hsize : (ctx.packetPos + 1) * dev.dispOutEpMaxSize ≤ plan.size :=
                Nat.le_trans (Nat.mul_le_mul_right _ hstream.packet_lt) hreg.fits
              rw [h.room_eq, hk, hstream.buffer_eq] at hroom
              rw [Nat.succ_mul] at hsize
              split at hcopy <;> omega
            · exact hirregular hreg .oops

/-- **`_bitblt_encode_n_transfer_data`** appends its data to the body. -/
theorem bitbltEncodeNTransferData_wp {Q : BitbltEncodingContext × Bool → Call → Prop}
    {data : List UInt8} (h : Settled dev plan body ctx g)
    (hlen : (body ++ data).length ≤ plan.total)
    (hirregular : ¬ dev.Regular plan.size → ∀ e, F e)
    (hexhausted : plan.bundle * dev.urbPayload ≤ plan.total → F .oops)
    (hok : ∀ ctx' g', Settled dev plan (body ++ data) ctx' g' → Q (ctx', true) g')
    (habort : ∀ ctx' g', Aborted dev plan ctx' g' → Q (ctx', false) g') :
    (bitbltEncodeNTransferData dev ctx data).wp (callProtocol dev plan.size) F Q g := by
  apply encodeLoop_wp h.toEncoding
  · intro _
    have hpos : 1 ≤ (ctx.later.length + 1) * (dev.packetSizeFactor + 1) :=
      Nat.mul_pos (Nat.succ_pos _) (Nat.succ_pos _)
    exact Or.inr (Nat.add_le_add_left hpos _)
  · exact hlen
  · exact hirregular
  · exact hexhausted
  · intro ctx' g' h' hopen
    apply hok
    refine ⟨h', fun hreg hlong => hopen hreg fun hnil => h.isOpen hreg ?_⟩
    rwa [hnil, List.append_nil] at hlong
  · exact habort

/-- The encoder starts with a bundle of ready tickets, or not at all. -/
theorem bitbltEncoderInit_wp {size imageSize : Nat} {rlemode : Bool} {task : Task}
    {Q : Option BitbltEncodingContext → Call → Prop}
    (hnone : Q none (Call.start task))
    (hsome : ∀ n ctx g', requiredTicketsCount dev imageSize rlemode = some n →
      n ≤ RPUSBDISP_MAX_TRANSFER_TICKETS_COUNT → Fresh dev size n rlemode ctx g' → Q (some ctx) g')
    (htrap : requiredTicketsCount dev imageSize rlemode = none → F .oops) :
    (bitbltEncoderInit dev imageSize rlemode).wp (callProtocol dev size) F Q (Call.start task) := by
  unfold bitbltEncoderInit
  cases hrequired : requiredTicketsCount dev imageSize rlemode with
  | none => exact htrap hrequired
  | some n =>
      by_cases hmany : n > RPUSBDISP_MAX_TRANSFER_TICKETS_COUNT
      · simp only [if_pos hmany]
        exact hnone
      · simp only [if_neg hmany]
        rw [wp_bind]
        apply sellDispTickets_wp
        · exact hnone
        · intro ts hpos hlen hready
          cases ts with
          | nil =>
              have : n = 0 := hlen.symm
              omega
          | cons ticket later =>
              apply hsome n _ _ hrequired (Nat.le_of_not_lt hmany)
              exact Fresh.sold hready hlen

/-- Conversely, whenever some tickets are enough, the conversation can go on to a
fresh encoder. -/
theorem bitbltEncoderInit_reaches {size imageSize n : Nat} {rlemode : Bool} {task : Task}
    {α : Type} {Q : α → Call → Prop} {k : Option BitbltEncodingContext → UsbProg α}
    (h : (bitbltEncoderInit dev imageSize rlemode >>= k).wp (callProtocol dev size) F Q
      (Call.start task))
    (hrequired : requiredTicketsCount dev imageSize rlemode = some n) (hpos : 0 < n)
    (hmax : n ≤ RPUSBDISP_MAX_TRANSFER_TICKETS_COUNT) :
    ∃ ctx g', Fresh dev size n rlemode ctx g' ∧
      (k (some ctx)).wp (callProtocol dev size) F Q g' := by
  obtain ⟨later, rfl⟩ : ∃ later, n = later + 1 := ⟨n - 1, by omega⟩
  let ticket : Ticket :=
    { id := 0
      transferUrb :=
        { transferBuffer := List.replicate size 0
          transferBufferLength := dev.packetSizeFactor * dev.dispOutEpMaxSize
          status := 0 } }
  have hticket : ticket.Ready dev size := ⟨List.length_replicate, rfl⟩
  have hready : ∀ t ∈ ticket :: List.replicate later ticket, t.Ready dev size := by
    intro t ht
    rw [List.eq_of_mem_replicate (show t ∈ List.replicate (later + 1) ticket from ht)]
    exact hticket
  have hlen : (List.replicate later ticket).length + 1 = later + 1 := by
    rw [List.length_replicate]
  unfold bitbltEncoderInit sellDispTickets at h
  rw [hrequired] at h
  simp only [if_neg (Nat.not_lt.mpr hmax), if_neg (Nat.succ_ne_zero later), Prog.bind_assoc] at h
  rw [wp_ask_bind] at h
  have halive := h.2 true trivial
  rw [if_pos rfl, wp_ask_bind] at halive
  have hsold := halive.2 (some (ticket :: List.replicate later ticket)) (by
    intro ts hts
    rw [← Option.some.inj hts]
    exact ⟨hlen, hready⟩)
  exact ⟨_, _, Fresh.sold hready hlen, hsold⟩

/-- A stored command header opens the stream. -/
theorem Fresh.header {header : BitbltPacket} {rlemode : Bool} {buffer : List UInt8}
    (h : Fresh dev plan.size plan.bundle rlemode ctx g)
    (hfirst : plan.first = header.cmdFlag) (hmark : ctx.dispCmd = plan.mark)
    (hstore : writeAt ctx.ticket.transferUrb.transferBuffer ctx.urbbuffer
      (header.toBytes dev.host) = some buffer) :
    Settled dev plan (header.toBytes dev.host).tail
      { ctx with ticket := ctx.ticket.setBuffer buffer, encodedPos := sizeofBitbltPacket } g where
  current := h.current
  held := h.held
  room_eq := by
    show buffer.length = plan.size
    rw [writeAt_length hstore]
    exact (h.ready ctx.ticket List.mem_cons_self).room_eq
  ready := fun t ht => h.ready t (List.mem_cons_of_mem _ ht)
  started := Nat.le_add_left 1 9
  whole := h.whole
  stream := by
    intro hreg
    have hlen : (header.toBytes dev.host).length = 10 := header.toBytes_length dev.host
    have htail : (header.toBytes dev.host).tail.length = 9 := by
      rw [List.length_tail, hlen]
    have hle : 10 ≤ dev.dispOutEpMaxSize := hreg.header_le
    have hpay : dev.payload = dev.dispOutEpMaxSize - 1 := rfl
    have htake : buffer.take (0 + 10) = plan.first :: (header.toBytes dev.host).tail := by
      have hbuffer := writeAt_take hstore
      rw [h.urbbuffer_eq, List.take_zero, hlen, List.nil_append] at hbuffer
      rw [hbuffer, hfirst]
      rfl
    exact
      { unfailed := h.unfailed
        mark_eq := hmark
        pos := Nat.le_add_left 1 9
        pos_le := hle
        packet_lt := by
          show ctx.packetPos < dev.packetSizeFactor
          rw [h.packetPos_eq]
          exact hreg.factor_pos
        buffer_eq := by
          show ctx.urbbuffer = ctx.packetPos * dev.dispOutEpMaxSize
          rw [h.urbbuffer_eq, h.packetPos_eq, Nat.zero_mul]
        length_eq := by
          show (header.toBytes dev.host).tail.length =
            (g.sent.length * dev.packetSizeFactor + ctx.packetPos) * dev.payload + (10 - 1)
          rw [htail, h.unsent, h.packetPos_eq]
          simp
        bundle_eq := by
          show g.sent.length + 1 + ctx.later.length = plan.bundle
          rw [← h.bundle_eq, h.unsent, List.length_nil]
          omega
        full_eq := (h.ready ctx.ticket List.mem_cons_self).length_eq
        wire := by
          show g.sent.flatten ++ buffer.take (ctx.urbbuffer + 10) ++
            (if 10 = dev.dispOutEpMaxSize then [plan.mark] else []) = _
          rw [h.unsent, h.urbbuffer_eq, htake, List.flatten_nil, List.nil_append]
          by_cases hten : 10 = dev.dispOutEpMaxSize
          · rw [if_pos hten, stuff_fill plan.mark dev.payload (by omega) (by omega)]
            rfl
          · rw [if_neg hten, stuff_short plan.mark dev.payload (by omega), List.append_nil] }
  isOpen := by
    intro _ hlong
    rw [List.length_tail, header.toBytes_length dev.host] at hlong
    exact absurd hlong (Nat.lt_irrefl _)

/-- The command header opens the stream. -/
theorem bitbltEncodeCommandHeader_wp {header : BitbltPacket} {rlemode : Bool}
    {Q : BitbltEncodingContext → Call → Prop}
    (h : Fresh dev plan.size plan.bundle rlemode ctx g)
    (hfirst : plan.first = header.cmdFlag) (hmark : ctx.dispCmd = plan.mark)
    (hirregular : ¬ dev.Regular plan.size → ∀ e, F e)
    (hok : ∀ ctx', Settled dev plan (header.toBytes dev.host).tail ctx' g → Q ctx' g) :
    (bitbltEncodeCommandHeader dev ctx header).wp (callProtocol dev plan.size) F Q g := by
  have hready : ctx.ticket.Ready dev plan.size := h.ready ctx.ticket List.mem_cons_self
  unfold bitbltEncodeCommandHeader
  rw [wp_bind]
  apply storeBuffer_wp
  · intro buffer hstore
    exact hok _ (h.header hfirst hmark hstore)
  · intro hroom
    by_cases hreg : dev.Regular plan.size
    · have hle := hreg.header_le
      have hsize : dev.dispOutEpMaxSize ≤ plan.size :=
        Nat.le_trans (Nat.le_mul_of_pos_left _ hreg.factor_pos) hreg.fits
      rw [hready.room_eq, h.urbbuffer_eq, header.toBytes_length dev.host] at hroom
      omega
    · exact hirregular hreg .oops

/-- Cleaning up returns all that is held. -/
theorem returnAll_wp {size : Nat} {ts : List Ticket} {Q : Unit → Call → Prop}
    (hheld : g.held = ts.map Ticket.id) (hready : ∀ t ∈ ts, t.Ready dev size)
    (hQ : Q () { g with held := [] }) : (returnAll ts).wp (callProtocol dev size) F Q g := by
  induction ts generalizing g with
  | nil =>
      have hg : g = { g with held := [] } := by
        rw [← show g.held = [] from hheld]
      rw [hg]
      exact hQ
  | cons t ts ih =>
      have hmem : t.id ∈ g.held := by
        rw [hheld]
        exact List.mem_cons_self
      rw [returnAll, wp_ask_bind]
      refine ⟨⟨hmem, hready t List.mem_cons_self⟩, fun _ _ => ?_⟩
      apply ih
      · show g.held.erase t.id = ts.map Ticket.id
        rw [hheld, List.map_cons, List.erase_cons_head]
      · intro u hu
        exact hready u (List.mem_cons_of_mem t hu)
      · exact hQ

/-- `_bitblt_encoder_cleanup` after a refused submission. -/
theorem bitbltEncoderCleanup_wp {Q : Unit → Call → Prop} (h : Aborted dev plan ctx g)
    (hQ : Q () { g with held := [] }) :
    (bitbltEncoderCleanup ctx).wp (callProtocol dev plan.size) F Q g :=
  returnAll_wp h.held h.ready hQ

/-- **`_bitblt_encoder_flush`** submits the rest of the stream and returns what
is not used.  If the submission is refused, the tickets behind it stay where
they are. -/
theorem bitbltEncoderFlush_wp {Q : Bool → Call → Prop} (h : Settled dev plan body ctx g)
    (hok : ∀ g', g'.held = [] → g'.stranded = false →
      (dev.Regular plan.size → sizeofBitbltPacket - sizeofPacketHeader < body.length →
        g'.failed = false ∧
        g'.sent.flatten = plan.first :: stuff plan.mark dev.payload body dev.payload) → Q true g')
    (hrefused : ∀ g', g'.held = [] ∨ g'.stranded = true → g'.failed = true →
      (dev.Regular plan.size → g'.sent.length + 1 + g'.held.length = plan.bundle) → Q false g') :
    (bitbltEncoderFlush dev ctx).wp (callProtocol dev plan.size) F Q g := by
  have hheld : ctx.ticket.id ∈ g.held := by
    rw [h.held]
    exact List.mem_cons_self
  have hsize : ctx.packetPos * dev.dispOutEpMaxSize + ctx.encodedPos ≠ 0 := by
    have := h.started
    omega
  unfold bitbltEncoderFlush
  rw [if_pos hsize, wp_ask_bind]
  refine ⟨⟨hheld, h.room_eq⟩, fun r _ => ?_⟩
  cases r with
  | refused status =>
      rw [wp_bind]
      apply onDisplayTransferFinished_wp
      · exact hheld
      · exact h.room_eq
      · apply hrefused
        · show g.held.erase ctx.ticket.id = [] ∨
            (g.stranded || decide (g.held ≠ [ctx.ticket.id])) = true
          rw [h.held, List.erase_cons_head]
          cases hlater : ctx.later with
          | nil => exact Or.inl rfl
          | cons t later => exact Or.inr (by simp)
        · rfl
        · intro hreg
          show g.sent.length + 1 + (g.held.erase ctx.ticket.id).length = plan.bundle
          rw [h.held, List.erase_cons_head, List.length_map]
          exact (h.stream hreg).bundle_eq
  | submitted =>
      rw [wp_bind]
      apply returnAll_wp
      · show g.held.erase ctx.ticket.id = ctx.later.map Ticket.id
        rw [h.held, List.erase_cons_head]
      · exact h.ready
      · apply hok
        · rfl
        · exact h.whole
        · intro hreg hlong
          have hstream := h.stream hreg
          have hopen : ctx.encodedPos ≠ dev.dispOutEpMaxSize := Nat.ne_of_lt (h.isOpen hreg hlong)
          refine ⟨hstream.unfailed, ?_⟩
          show (g.sent ++ [ctx.ticket.transferUrb.transferBuffer.take
            (ctx.packetPos * dev.dispOutEpMaxSize + ctx.encodedPos)]).flatten = _
          have hwire := hstream.wire
          rw [if_neg hopen, List.append_nil, hstream.buffer_eq] at hwire
          rw [List.flatten_append, List.flatten_singleton, hwire]

end Rules

end RpUsbDisp
