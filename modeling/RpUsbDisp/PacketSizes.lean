import RpUsbDisp.PacketDemands

/-!
# Packet sizes

Which packet sizes the display path can live with.  Too small a packet does not hold
the header of a command, and with one byte or more than a whole buffer the estimate of
the tickets divides by zero.

`Cursor` is the invariant of the copy loop: the position is inside the packet in work,
and that packet is inside the buffer.  It is kept on a regular device
(`encodeLoop_safe`), so every demand is met.  For the other devices a conversation is
followed to the demand they do not meet.  `packet_sizes_safe_iff` joins both with the
search for endpoints, which only asks for a packet size that is not zero.
-/

namespace RpUsbDisp

open Programs Framing RunLength

/-- Nothing is said about what is asked.  A sale is of ready tickets, and all other
answers are free. -/
def poolProtocol (dev : Dev) (size : Nat) : Protocol UsbOp UsbOp.Res Call :=
  { callProtocol dev size with pre := fun _ _ => True }

/-- The display path with a generous environment, about which nothing is said
either. -/
def generousPool (dev : Dev) (size : Nat) : Protocol UsbOp UsbOp.Res Call :=
  { generousProtocol dev size with pre := fun _ _ => True }

/-- Every demand has to be met, over tickets with the buffers of the pool. -/
abbrev sizeProtocol (dev : Dev) : Protocol (Noted SizeDemand UsbOp) (Noted.Res UsbOp.Res) Call :=
  (poolProtocol dev RPUSBDISP_MAX_TRANSFER_SIZE).demanding SizeDemand.Met

/-- **Packet safety.**  Whatever the pool and the USB core answer, every demand of the
command is met and nothing goes wrong, to the end of the command or of its tickets. -/
def Command.PacketSafe (dev : Dev) (c : Command) : Prop :=
  (c.noted dev).Safe (sizeProtocol dev) (Call.start (.command c))

/-- An image, a rectangle or both areas of a copy lie on the screen. -/
def Command.OnScreen : Command → Prop
  | .sendImage _ x y right bottom _ _ => InScreen x y right bottom
  | .drawRect x y right bottom _ _ => InScreen x y right bottom
  | .copyArea sx sy dx dy width height =>
      InScreen sx sy (sx + width - 1) (sy + height - 1) ∧
        InScreen dx dy (dx + width - 1) (dy + height - 1)

/-- The packet sizes a command can live with. -/
def Command.Fits (maxSize : Nat) : Command → Prop
  | .sendImage .. => sizeofBitbltPacket ≤ maxSize ∧ maxSize ≤ RPUSBDISP_MAX_TRANSFER_SIZE
  | .drawRect .. => sizeofFillrectPacket ≤ maxSize
  | .copyArea .. => sizeofCopyareaPacket ≤ maxSize

/-- **The program itself** of a packet safe command never hangs.  It goes wrong only
where its tickets have come to an end. -/
theorem Command.PacketSafe.halts {dev : Dev} {c : Command} (h : c.PacketSafe dev) :
    (c.prog dev).wp (poolProtocol dev RPUSBDISP_MAX_TRANSFER_SIZE) (fun e => e = .oops)
      (fun _ _ => True) (Call.start (.command c)) := by
  rw [← c.erase_noted]
  exact wp_mono (wp_erase h) (fun _ he => he.resolve_left id) fun _ _ hq => hq

section Safety

/-! ## The invariant -/

variable {dev : Dev} {size : Nat} {g : Call} {F : Fault → Prop}

/-- What is known of a program under the protocol of a call is known of it here. -/
theorem wp_pool {α : Type} {p : UsbProg α} {Q : α → Call → Prop}
    (h : p.wp (callProtocol dev size) F Q g) : p.wp (poolProtocol dev size) F Q g :=
  wp_restrict h (fun _ _ _ => trivial) (fun _ _ _ _ hr => hr) (fun _ _ _ => rfl)

theorem onDisplayTransferFinished_safe (t : Ticket) :
    (onDisplayTransferFinished dev t).Safe (poolProtocol dev size) g := by
  have hreturn : ∀ g, (do
      let allFinished ← returnDispTickets
        (t.setLength (dev.packetSizeFactor * dev.dispOutEpMaxSize))
      if allFinished = true ∧ t.transferUrb.status = 0 then
        scheduleCompletionWork : UsbProg Unit).Safe (poolProtocol dev size) g := by
    intro g
    unfold Prog.Safe
    rw [wp_ask_bind]
    refine ⟨trivial, fun allFinished _ => ?_⟩
    split
    · exact ⟨trivial, fun _ _ => trivial⟩
    · trivial
  unfold onDisplayTransferFinished
  split
  · refine ⟨trivial, fun alive _ => ?_⟩
    cases alive with
    | false => exact hreturn _
    | true => exact ⟨trivial, fun _ _ => hreturn _⟩
  · exact hreturn g

theorem returnAll_safe (ts : List Ticket) : (returnAll ts).Safe (poolProtocol dev size) g := by
  induction ts generalizing g with
  | nil => exact trivial
  | cons t ts ih => exact ⟨trivial, fun _ _ => ih⟩

theorem finishImage_safe (r : RleEncoderContext BitbltEncodingContext × Bool) :
    (finishImage dev r).Safe (poolProtocol dev size) g := by
  obtain ⟨c, ok⟩ := r
  cases ok with
  | false => exact (returnAll_safe _).bind fun _ _ => trivial
  | true =>
      rw [finishImage, bitbltEncoderFlush]
      split
      · refine ⟨trivial, fun answer _ => ?_⟩
        cases answer with
        | refused status => exact (onDisplayTransferFinished_safe _).bind fun _ _ => trivial
        | submitted => exact (returnAll_safe _).bind fun _ _ => trivial
      · exact (returnAll_safe _).bind fun _ _ => trivial

/-- Where the encoder stands: in a packet of a ticket, and its tickets have whole
buffers. -/
structure Cursor (dev : Dev) (size : Nat) (ctx : BitbltEncodingContext) : Prop where
  pos_le : ctx.encodedPos ≤ dev.dispOutEpMaxSize
  packet_lt : ctx.packetPos < dev.packetSizeFactor
  buffer_eq : ctx.urbbuffer = ctx.packetPos * dev.dispOutEpMaxSize
  room_eq : ctx.ticket.room = size
  rooms : ∀ t ∈ ctx.later, t.room = size

/-- The packet in work ends inside the buffer. -/
theorem Cursor.packet_end {ctx : BitbltEncodingContext} (hreg : dev.Regular size)
    (h : Cursor dev size ctx) : ctx.urbbuffer + dev.dispOutEpMaxSize ≤ size := by
  calc ctx.urbbuffer + dev.dispOutEpMaxSize
      = (ctx.packetPos + 1) * dev.dispOutEpMaxSize := by rw [h.buffer_eq, Nat.succ_mul]
    _ ≤ dev.packetSizeFactor * dev.dispOutEpMaxSize := Nat.mul_le_mul_right _ h.packet_lt
    _ ≤ size := hreg.fits

variable {ctx : BitbltEncodingContext}

/-- What follows a demand that is met. -/
theorem demand_safe {α : Type} {d : SizeDemand} {f : Unit → SizedProg α} {Q : α → Call → Prop}
    (hmet : d.Met) (h : (f ()).wp (sizeProtocol dev) F Q g) :
    (Prog.demand d >>= f).wp (sizeProtocol dev) F Q g :=
  wp_demand_bind.mpr ⟨hmet, fun _ => h⟩

/-- What follows a write inside a whole buffer. -/
theorem store_safe {α : Type} {t : Ticket} {pos : Nat} {bytes : List UInt8}
    {f : Ticket → SizedProg α} {Q : α → Call → Prop} (hroom : t.room = RPUSBDISP_MAX_TRANSFER_SIZE)
    (hfits : pos + bytes.length ≤ RPUSBDISP_MAX_TRANSFER_SIZE)
    (h : ∀ t' : Ticket, t'.room = RPUSBDISP_MAX_TRANSFER_SIZE →
      (f t').wp (sizeProtocol dev) F Q g) :
    ((storeBuffer t pos bytes).lift >>= f).wp (sizeProtocol dev) F Q g := by
  rw [wp_bind, wp_lift]
  apply storeBuffer_wp
  · intro buffer hstore
    exact h _ ((writeAt_length hstore).trans hroom)
  · intro hsmall
    rw [hroom] at hsmall
    omega

/-- The header of the next packet is written inside the buffer. -/
theorem encodePacketHeader_safe {Q : BitbltEncodingContext → Call → Prop}
    (hroom : ctx.ticket.room = RPUSBDISP_MAX_TRANSFER_SIZE)
    (hfits : ctx.urbbuffer + sizeofPacketHeader ≤ RPUSBDISP_MAX_TRANSFER_SIZE)
    (h : ∀ t : Ticket, t.room = RPUSBDISP_MAX_TRANSFER_SIZE →
      Q { ctx with ticket := t, encodedPos := sizeofPacketHeader } g) :
    (Noted.encodePacketHeader ctx).wp (sizeProtocol dev) F Q g := by
  refine demand_safe ?_ ?_
  · exact hfits
  rw [wp_lift]
  unfold encodePacketHeader
  rw [wp_bind]
  apply storeBuffer_wp
  · intro buffer hstore
    exact h _ ((writeAt_length hstore).trans hroom)
  · intro hsmall
    rw [hroom] at hsmall
    exact absurd hfits (Nat.not_le.mpr hsmall)

/-- **Next packet.**  The cursor goes on to the beginning of a packet. -/
theorem encodeNextPacket_safe (hreg : dev.Regular RPUSBDISP_MAX_TRANSFER_SIZE)
    (h : Cursor dev RPUSBDISP_MAX_TRANSFER_SIZE ctx) :
    (Noted.encodeNextPacket dev ctx).wp (sizeProtocol dev) F
      (Went (fun c _ => Cursor dev RPUSBDISP_MAX_TRANSFER_SIZE c ∧
        c.encodedPos = sizeofPacketHeader) fun _ _ => True) g := by
  have hpacket := hreg.header_le
  simp only [sizeofBitbltPacket] at hpacket
  have hheader : sizeofPacketHeader ≤ dev.dispOutEpMaxSize := by
    simp only [sizeofPacketHeader]
    omega
  have hinside := h.packet_end hreg
  unfold Noted.encodeNextPacket
  dsimp only
  split
  · rw [wp_lift_ask_bind]
    refine ⟨trivial, fun answer _ => ?_⟩
    cases answer with
    | refused status =>
        dsimp only
        rw [wp_bind, wp_lift]
        apply wp_mono (onDisplayTransferFinished_safe _)
        · exact fun _ he => he.elim
        · exact fun _ _ _ => trivial
    | submitted =>
        simp only [BitbltEncodingContext.currentNode, if_true]
        cases hlater : ctx.later with
        | nil => exact wp_stop.mpr trivial
        | cons ticket later =>
            have hrooms := h.rooms
            rw [hlater] at hrooms
            dsimp only
            rw [wp_bind]
            apply encodePacketHeader_safe
            · exact hrooms ticket List.mem_cons_self
            · show 0 + sizeofPacketHeader ≤ RPUSBDISP_MAX_TRANSFER_SIZE
              omega
            · intro t hroom
              exact
                ⟨{ pos_le := hheader
                   packet_lt := hreg.factor_pos
                   buffer_eq := (Nat.zero_mul _).symm
                   room_eq := hroom
                   rooms := fun u hu => hrooms u (List.mem_cons_of_mem _ hu) }, rfl⟩
  · next hmore =>
      have hlt : ctx.packetPos + 1 < dev.packetSizeFactor := Nat.lt_of_not_le hmore
      have hnext : (ctx.packetPos + 1 + 1) * dev.dispOutEpMaxSize ≤ RPUSBDISP_MAX_TRANSFER_SIZE :=
        Nat.le_trans (Nat.mul_le_mul_right _ hlt) hreg.fits
      have hbuffer : ctx.urbbuffer + dev.dispOutEpMaxSize =
          (ctx.packetPos + 1) * dev.dispOutEpMaxSize := by
        rw [h.buffer_eq, Nat.succ_mul]
      rw [Nat.succ_mul] at hnext
      rw [wp_bind]
      apply encodePacketHeader_safe
      · exact h.room_eq
      · show ctx.urbbuffer + dev.dispOutEpMaxSize + sizeofPacketHeader ≤ _
        omega
      · intro t hroom
        exact
          ⟨{ pos_le := hheader
             packet_lt := hlt
             buffer_eq := hbuffer
             room_eq := hroom
             rooms := h.rooms }, rfl⟩

/-- **The loop.**  It comes to an end, and each of its rounds meets its demands.  Only
the first round can copy nothing, if the header has filled its packet. -/
theorem encodeLoop_safe (hreg : dev.Regular RPUSBDISP_MAX_TRANSFER_SIZE) {fuel : Nat}
    {data : List UInt8} (h : Cursor dev RPUSBDISP_MAX_TRANSFER_SIZE ctx)
    (hfuel : (ctx.Open dev ∧ data.length ≤ fuel) ∨ data.length + 1 ≤ fuel) :
    (Noted.encodeLoop dev fuel ctx data).wp (sizeProtocol dev) F
      (Went (fun c _ => Cursor dev RPUSBDISP_MAX_TRANSFER_SIZE c) fun _ _ => True) g := by
  have hpacket := hreg.header_le
  simp only [sizeofBitbltPacket] at hpacket
  induction fuel generalizing ctx data g with
  | zero =>
      cases data with
      | nil => exact h
      | cons b bs =>
          rw [List.length_cons] at hfuel
          omega
  | succ fuel ih =>
      cases data with
      | nil => exact h
      | cons b bs =>
          have hle := h.pos_le
          have hinside := h.packet_end hreg
          have hpos : 0 < (b :: bs).length := Nat.succ_pos _
          unfold Noted.encodeLoop
          dsimp only
          rw [sizeSub_of_le hle]
          generalize b :: bs = data at hfuel hpos
          generalize hcopy : (if data.length > dev.dispOutEpMaxSize - ctx.encodedPos then
            dev.dispOutEpMaxSize - ctx.encodedPos else data.length) = sizeToCopy
          have hroom : sizeToCopy ≤ dev.dispOutEpMaxSize - ctx.encodedPos := by
            split at hcopy <;> omega
          have hshort : sizeToCopy ≤ data.length := by
            split at hcopy <;> omega
          have htaken : (data.take sizeToCopy).length = sizeToCopy :=
            List.length_take_of_le hshort
          have hfits : ctx.urbbuffer + ctx.encodedPos + sizeToCopy ≤
              RPUSBDISP_MAX_TRANSFER_SIZE := by omega
          refine demand_safe ?_ ?_
          · exact hle
          refine demand_safe ?_ ?_
          · exact hfits
          apply store_safe h.room_eq
          · rwa [htaken]
          · intro t hwhole
            have hnext : Cursor dev RPUSBDISP_MAX_TRANSFER_SIZE
                { ctx with ticket := t, encodedPos := ctx.encodedPos + sizeToCopy } :=
              { pos_le := by
                  show ctx.encodedPos + sizeToCopy ≤ dev.dispOutEpMaxSize
                  omega
                packet_lt := h.packet_lt
                buffer_eq := h.buffer_eq
                room_eq := hwhole
                rooms := h.rooms }
            have hdrop : (data.drop sizeToCopy).length = data.length - sizeToCopy :=
              List.length_drop
            split
            · next hfull =>
                rw [wp_bind]
                apply wp_mono (encodeNextPacket_safe hreg hnext) (fun _ he => he)
                intro r g' hr
                obtain ⟨c, ok⟩ := r
                cases ok with
                | false => exact trivial
                | true =>
                    obtain ⟨hcursor, hone⟩ := hr
                    have hopen : c.Open dev := by
                      show c.encodedPos < dev.dispOutEpMaxSize
                      rw [hone, sizeofPacketHeader]
                      omega
                    apply ih hcursor
                    left
                    refine ⟨hopen, ?_⟩
                    rcases hfuel with ⟨hold, hlen⟩ | hlen
                    · have hold' : ctx.encodedPos < dev.dispOutEpMaxSize := hold
                      omega
                    · omega
            · next hpart =>
                apply ih hnext
                left
                have hall : sizeToCopy = data.length := by
                  split at hcopy <;> omega
                refine ⟨?_, by omega⟩
                show ctx.encodedPos + sizeToCopy < dev.dispOutEpMaxSize
                omega

theorem bitbltEncodeNTransferData_safe (hreg : dev.Regular RPUSBDISP_MAX_TRANSFER_SIZE)
    {data : List UInt8} (h : Cursor dev RPUSBDISP_MAX_TRANSFER_SIZE ctx) :
    (Noted.bitbltEncodeNTransferData dev ctx data).wp (sizeProtocol dev) F
      (Went (fun c _ => Cursor dev RPUSBDISP_MAX_TRANSFER_SIZE c) fun _ _ => True) g := by
  apply encodeLoop_safe hreg h
  right
  have hspare : 1 ≤ (ctx.later.length + 1) * (dev.packetSizeFactor + 1) :=
    Nat.mul_pos (Nat.succ_pos _) (Nat.succ_pos _)
  omega

/-- In either mode the payload of an image goes to the sink. -/
theorem noted_encodePixels_wp {P : Protocol (Noted SizeDemand UsbOp) (Noted.Res UsbOp.Res) Call}
    {I : List UInt8 → BitbltEncodingContext → Call → Prop} {J : BitbltEncodingContext → Call → Prop}
    {pixels : List Pixel}
    (hsink : Accepts P F I J (imagePayload dev pixels) (Noted.bitbltEncodeNTransferData dev))
    (h : I [] ctx g) :
    (Noted.encodePixels dev pixels (rleCompressInit (List.replicate 128 0) ctx)).wp P F
      (Went (fun c => I (imagePayload dev pixels) c.encoderCtx) fun c => J c.encoderCtx) g := by
  unfold Noted.encodePixels imagePayload at *
  cases hmode : dev.rlemode with
  | true =>
      rw [hmode, if_pos rfl] at hsink
      have hstart : RleState I [] none (rleCompressInit (List.replicate 128 0) ctx) g :=
        ⟨h, List.length_replicate, rfl, rfl⟩
      apply wp_mono (rleCompressAll_wp hsink hstart) (fun _ he => he)
      intro r g' hr
      obtain ⟨c, ok⟩ := r
      cases ok with
      | false => exact hr
      | true => exact hr.sunk
  | false =>
      rw [hmode, if_neg Bool.false_ne_true] at hsink
      apply wp_feed (fun (done : List Pixel) (c : RleEncoderContext BitbltEncodingContext) g =>
        I (done.flatMap (store16 dev.host)) c.encoderCtx g)
      · intro done p rest c g₁ hall hdone
        have hprefix : done.flatMap (store16 dev.host) ++ store16 dev.host p <+:
            pixels.flatMap (store16 dev.host) := by
          rw [hall, List.flatMap_append, List.flatMap_cons, ← List.append_assoc]
          exact List.prefix_append _ _
        unfold Noted.sendPixel
        rw [wp_bind]
        apply wp_mono (hsink _ _ c.encoderCtx g₁ hprefix hdone) (fun _ he => he)
        intro r g₂ hr
        obtain ⟨k, ok⟩ := r
        cases ok with
        | false => exact hr
        | true =>
            show I ((done ++ [p]).flatMap (store16 dev.host)) k g₂
            rw [List.flatMap_append, List.flatMap_singleton]
            exact hr
      · exact h

/-- The command header is written at the beginning of a whole buffer. -/
theorem noted_header_wp {must may : SizeDemand → Prop} {stops : Prop}
    {P : Protocol UsbOp UsbOp.Res Call} {Q : BitbltEncodingContext → Call → Prop}
    {header : BitbltPacket} (hmust : must (.stores ctx.urbbuffer sizeofBitbltPacket))
    (hroom : ctx.ticket.room = RPUSBDISP_MAX_TRANSFER_SIZE) (hstart : ctx.urbbuffer = 0)
    (h : ∀ t : Ticket, t.room = RPUSBDISP_MAX_TRANSFER_SIZE →
      Q { ctx with ticket := t, encodedPos := sizeofBitbltPacket } g) :
    (Noted.bitbltEncodeCommandHeader dev ctx header).wp (P.noted must may stops) F Q g := by
  unfold Noted.bitbltEncodeCommandHeader
  rw [wp_demand_bind]
  refine ⟨hmust, fun _ => ?_⟩
  rw [wp_lift]
  unfold bitbltEncodeCommandHeader
  rw [wp_bind]
  apply storeBuffer_wp
  · intro buffer hstore
    exact h _ ((writeAt_length hstore).trans hroom)
  · intro hsmall
    rw [hroom, hstart, BitbltPacket.toBytes_length] at hsmall
    exact absurd hsmall (by decide)

/-- **From the header on**, a regular device is safe. -/
theorem encodeImage_safe (hreg : dev.Regular RPUSBDISP_MAX_TRANSFER_SIZE) {n : Nat}
    {framebuffer : Int → Pixel} {x y right bottom lineWidth : Int} {clearDirty : Bool}
    (h : Fresh dev RPUSBDISP_MAX_TRANSFER_SIZE n dev.rlemode ctx g) :
    (Noted.encodeImage dev framebuffer x y right bottom lineWidth clearDirty ctx).Safe
      (sizeProtocol dev) g := by
  have hsink : Accepts (sizeProtocol dev) (fun _ => False)
      (fun _ c _ => Cursor dev RPUSBDISP_MAX_TRANSFER_SIZE c) (fun _ _ => True)
      (imagePayload dev
        ((rectPixels framebuffer x y right bottom lineWidth).map (cpuToLe16 dev.host)))
      (Noted.bitbltEncodeNTransferData dev) :=
    fun _ _ _ _ _ hk => bitbltEncodeNTransferData_safe hreg hk
  unfold Noted.encodeImage Prog.Safe
  rw [wp_bind]
  apply noted_header_wp
  · show ctx.urbbuffer + sizeofBitbltPacket ≤ RPUSBDISP_MAX_TRANSFER_SIZE
    rw [h.urbbuffer_eq]
    decide
  · exact (h.ready ctx.ticket List.mem_cons_self).room_eq
  · exact h.urbbuffer_eq
  · intro t hroom
    have hcursor : Cursor dev RPUSBDISP_MAX_TRANSFER_SIZE
        { ctx with ticket := t, encodedPos := sizeofBitbltPacket } :=
      { pos_le := hreg.header_le
        packet_lt := by
          show ctx.packetPos < dev.packetSizeFactor
          rw [h.packetPos_eq]
          exact hreg.factor_pos
        buffer_eq := by
          show ctx.urbbuffer = ctx.packetPos * dev.dispOutEpMaxSize
          rw [h.urbbuffer_eq, h.packetPos_eq, Nat.zero_mul]
        room_eq := hroom
        rooms := fun t ht => (h.ready t (List.mem_cons_of_mem _ ht)).room_eq }
    rw [wp_bind]
    apply wp_mono (noted_encodePixels_wp hsink hcursor) (fun _ he => he)
    intro r g' _
    rw [wp_lift]
    exact finishImage_safe r

/-- **Images on a regular device.** -/
theorem trySendImage_packetSafe (hreg : dev.Regular RPUSBDISP_MAX_TRANSFER_SIZE)
    {framebuffer : Int → Pixel} {x y right bottom lineWidth : Int} {clearDirty : Bool} :
    (Command.sendImage framebuffer x y right bottom lineWidth clearDirty).PacketSafe dev := by
  have hpacket := hreg.header_le
  have hfactor := hreg.factor_pos
  simp only [sizeofBitbltPacket] at hpacket
  have heffective : sizeSub dev.dispOutEpMaxSize sizeofPacketHeader ≠ 0 := by
    rw [sizeSub_of_le (by simp only [sizeofPacketHeader]; omega), sizeofPacketHeader]
    omega
  unfold Command.PacketSafe Command.noted Noted.trySendImage Prog.Safe
  dsimp only
  split
  · exact trivial
  · rw [wp_bind]
    refine demand_safe ?_ ?_
    · exact heffective
    refine demand_safe ?_ ?_
    · exact Nat.pos_iff_ne_zero.mp hfactor
    rw [wp_lift]
    apply wp_pool
    apply bitbltEncoderInit_wp
    · exact trivial
    · intro n ctx g' _ _ hfresh
      exact encodeImage_safe hreg hfresh
    · intro hnone
      rw [requiredTicketsCount, if_neg (by omega)] at hnone
      cases hnone

/-! ## The other devices -/

/-- Behind the end of a packet no byte can be written: the first demand is that the
position is inside. -/
theorem transfer_behind {total : List UInt8} {P : Protocol UsbOp UsbOp.Res Call} :
    Accepts (P.untilUnmet SizeDemand.Met) (fun _ => False)
      (fun bytes c _ => bytes = [] ∧ dev.dispOutEpMaxSize < c.encodedPos) (fun _ _ => False)
      total (Noted.bitbltEncodeNTransferData dev) := by
  intro bytes data c g _ hbehind
  unfold Noted.bitbltEncodeNTransferData
  cases data with
  | nil =>
      rw [List.append_nil]
      cases (([] : List UInt8).length + (c.later.length + 1) * (dev.packetSizeFactor + 1)) with
      | zero => exact hbehind
      | succ fuel => exact hbehind
  | cons b bs =>
      rw [List.length_cons, Nat.add_right_comm, Noted.encodeLoop]
      dsimp only
      rw [wp_demand_bind]
      refine ⟨trivial, fun hmet => ?_⟩
      exact absurd hbehind.2 (Nat.not_lt.mpr hmet)

/-- The generous environment gives answers the pool may give. -/
theorem generous_answers (dev : Dev) (size : Nat) (g : Call) (o : UsbOp) :
    ∃ r, (poolProtocol dev size).answer g o r ∧ (generousPool dev size).answer g o r :=
  ⟨generousReply dev size o, generousReply_allowed dev size g o, rfl⟩

/-- **A header that does not fit.**  An encoder whose packets are smaller than the
command header is not safe. -/
theorem encodeImage_unsafe {framebuffer : Int → Pixel} {x y right bottom lineWidth : Int}
    {clearDirty : Bool} {P : Protocol UsbOp UsbOp.Res Call}
    (hin : InScreen x y right bottom) (hsmall : dev.dispOutEpMaxSize < sizeofBitbltPacket)
    (hroom : ctx.ticket.room = RPUSBDISP_MAX_TRANSFER_SIZE) (hstart : ctx.urbbuffer = 0) :
    (Noted.encodeImage dev framebuffer x y right bottom lineWidth clearDirty ctx).wp
      (P.untilUnmet SizeDemand.Met) (fun _ => False) (fun _ _ => False) g := by
  obtain ⟨_, hpos, _⟩ := imageSize_eq hin framebuffer lineWidth
  unfold Noted.encodeImage
  rw [wp_bind]
  apply noted_header_wp trivial hroom hstart
  intro t _
  rw [wp_bind]
  apply wp_mono (noted_encodePixels_wp transfer_behind ⟨rfl, hsmall⟩) (fun _ he => he)
  intro r g' hr
  obtain ⟨c, ok⟩ := r
  cases ok with
  | false => exact hr.elim
  | true =>
      have hnil := imagePayload_nil dev hr.1
      rw [List.map_eq_nil_iff] at hnil
      rw [hnil] at hpos
      exact absurd hpos (Nat.lt_irrefl 0)

/-- A generous pool sells what is asked for. -/
theorem bitbltEncoderInit_generous {imageSize n : Nat} {rlemode : Bool}
    {Q : Option BitbltEncodingContext → Call → Prop}
    (hrequired : requiredTicketsCount dev imageSize rlemode = some n) (hpos : 0 < n)
    (hmax : n ≤ RPUSBDISP_MAX_TRANSFER_TICKETS_COUNT)
    (h : ∀ ctx g', ctx.ticket.room = size → ctx.urbbuffer = 0 → Q (some ctx) g') :
    (bitbltEncoderInit dev imageSize rlemode).wp (generousPool dev size) F Q g := by
  obtain ⟨later, rfl⟩ : ∃ later, n = later + 1 := ⟨n - 1, by omega⟩
  unfold bitbltEncoderInit sellDispTickets
  rw [hrequired]
  simp only [if_neg (Nat.not_lt.mpr hmax), if_neg (Nat.succ_ne_zero later), Prog.bind_assoc]
  rw [wp_ask_bind]
  refine ⟨trivial, fun alive halive => ?_⟩
  rw [if_pos (show alive = true from halive), wp_ask_bind]
  refine ⟨trivial, fun sold hsold => ?_⟩
  rw [show sold = generousReply dev size (.sellTickets (later + 1)) from hsold]
  exact h _ _ List.length_replicate rfl

/-- An image on the screen never comes to its end with packets that do not hold a
command header, if the tickets can be bought. -/
theorem trySendImage_endless {framebuffer : Int → Pixel} {x y right bottom lineWidth : Int}
    {clearDirty : Bool} {n : Nat} (hin : InScreen x y right bottom)
    (hsmall : dev.dispOutEpMaxSize < sizeofBitbltPacket)
    (hrequired : requiredTicketsCount dev (imageSize x y right bottom) dev.rlemode = some n)
    (hpos : 0 < n) (hmax : n ≤ RPUSBDISP_MAX_TRANSFER_TICKETS_COUNT) :
    (Noted.trySendImage dev framebuffer x y right bottom lineWidth clearDirty).wp
      ((generousPool dev RPUSBDISP_MAX_TRANSFER_SIZE).untilUnmet SizeDemand.Met)
      (fun _ => False) (fun _ _ => False) g := by
  obtain ⟨hsize, hpixels, _⟩ := imageSize_eq hin framebuffer lineWidth
  unfold Noted.trySendImage
  rw [if_neg (by omega), wp_bind]
  unfold Noted.bitbltEncoderInit
  rw [wp_demand_bind]
  refine ⟨trivial, fun _ => ?_⟩
  rw [wp_demand_bind]
  refine ⟨trivial, fun _ => ?_⟩
  rw [wp_lift]
  apply bitbltEncoderInit_generous hrequired hpos hmax
  intro ctx g' hroom hstart
  exact encodeImage_unsafe hin hsmall hroom hstart

/-- What the two divisors say about the packet size. -/
theorem divisors_iff {mps : Nat} {fwver : UInt16} {host : HostOrder} :
    (sizeSub (Dev.attached mps fwver host).dispOutEpMaxSize sizeofPacketHeader ≠ 0 ∧
      (Dev.attached mps fwver host).packetSizeFactor ≠ 0) ↔
      1 < mps ∧ mps ≤ RPUSBDISP_MAX_TRANSFER_SIZE := by
  have hmax : RPUSBDISP_MAX_TRANSFER_SIZE = 65024 := rfl
  show sizeSub mps 1 ≠ 0 ∧ 65024 / mps ≠ 0 ↔ _
  rw [hmax]
  constructor
  · intro hdivides
    obtain ⟨heffective, hfactor⟩ := hdivides
    have hle : mps ≤ 65024 := by
      by_contra hlarge
      exact hfactor (Nat.div_eq_of_lt (by omega))
    have hzero : mps ≠ 0 := by
      intro hzero
      rw [hzero, Nat.div_zero] at hfactor
      exact hfactor rfl
    have hone : mps ≠ 1 := by
      intro hone
      rw [hone] at heffective
      exact heffective rfl
    omega
  · intro hfits
    obtain ⟨hone, hle⟩ := hfits
    refine ⟨?_, Nat.pos_iff_ne_zero.mp (Nat.div_pos hle (by omega))⟩
    rw [sizeSub_of_le (by omega)]
    omega

/-- What a safe image says about the device. -/
theorem fits_of_packetSafe {mps : Nat} {fwver : UInt16} {host : HostOrder}
    {framebuffer : Int → Pixel} {x y right bottom lineWidth : Int} {clearDirty : Bool}
    (hin : InScreen x y right bottom)
    (hsafe : (Command.sendImage framebuffer x y right bottom lineWidth clearDirty).PacketSafe
      (.attached mps fwver host)) :
    sizeofBitbltPacket ≤ mps ∧ mps ≤ RPUSBDISP_MAX_TRANSFER_SIZE := by
  obtain ⟨hsize, hpos, _⟩ := imageSize_eq hin framebuffer lineWidth
  have hdivides : sizeSub (Dev.attached mps fwver host).dispOutEpMaxSize sizeofPacketHeader ≠ 0 ∧
      (Dev.attached mps fwver host).packetSizeFactor ≠ 0 := by
    unfold Command.PacketSafe Command.noted Noted.trySendImage Prog.Safe at hsafe
    dsimp only at hsafe
    rw [if_neg (by omega), wp_bind] at hsafe
    unfold Noted.bitbltEncoderInit at hsafe
    rw [wp_demand_bind] at hsafe
    obtain ⟨heffective, hrest⟩ := hsafe
    have hfactor := hrest trivial
    rw [wp_demand_bind] at hfactor
    exact ⟨heffective, hfactor.1⟩
  have hnone : requiredTicketsCount (.attached mps fwver host) (imageSize x y right bottom)
      (Dev.attached mps fwver host).rlemode ≠ none := by
    rw [requiredTicketsCount, if_neg (by omega)]
    simp
  refine ⟨?_, (divisors_iff.mp hdivides).2⟩
  by_contra hsmall
  obtain hzero | ⟨n, hrequired, hn, hmax⟩ := Dev.attached_required fwver host _ hin
  · exact hnone hzero
  · refine unmet_of_endless (fun g o _ => generous_answers _ _ g o) (fun _ _ _ => rfl) hsafe ?_
    exact trySendImage_endless hin (Nat.lt_of_not_le hsmall) hrequired hn hmax

/-! ## Every command -/

/-- **The short commands** are safe where their packet fits. -/
theorem trySingle_safe_iff {site : SubmitSite} {sizeofPacket length : Nat} {packet : List UInt8}
    {task : Task} (hsite : site ≠ .finalFlush) (hpacket : packet.length = sizeofPacket)
    (hlength : sizeofPacket ≤ length) (hsmall : sizeofPacket ≤ RPUSBDISP_MAX_TRANSFER_SIZE) :
    (Noted.trySingle dev site sizeofPacket length packet).Safe (sizeProtocol dev)
      (Call.start task) ↔ sizeofPacket ≤ dev.dispOutEpMaxSize := by
  unfold Noted.trySingle Prog.Safe
  rw [wp_bind, wp_lift]
  constructor
  · intro hsafe
    let ticket : Ticket :=
      { id := 0
        transferUrb :=
          { transferBuffer := List.replicate RPUSBDISP_MAX_TRANSFER_SIZE 0
            transferBufferLength := dev.packetSizeFactor * dev.dispOutEpMaxSize
            status := 0 } }
    have hready : ticket.Ready dev RPUSBDISP_MAX_TRANSFER_SIZE := ⟨List.length_replicate, rfl⟩
    unfold sellDispTickets at hsafe
    rw [wp_ask_bind] at hsafe
    have hsold := (hsafe.2 true trivial).2 (some [ticket]) (by
      intro ts hts
      rw [← Option.some.inj hts]
      exact ⟨rfl, fun t ht => List.mem_singleton.mp ht ▸ hready⟩)
    exact (wp_demand_bind.mp hsold).1
  · intro hfits
    apply wp_pool
    apply sellDispTickets_wp
    · exact trivial
    · intro ts _ hlen hready
      obtain ⟨ticket, rfl⟩ : ∃ ticket, ts = [ticket] := List.length_eq_one_iff.mp hlen
      dsimp only
      refine demand_safe ?_ ?_
      · exact hfits
      rw [decide_eq_false (Nat.not_lt.mpr hfits)]
      refine demand_safe ?_ ?_
      · rw [SizeDemand.Met, hpacket, Nat.zero_add]
        exact hsmall
      · rw [wp_lift]
        apply wp_pool
        subst hpacket
        apply submitSingle_wp hsite hlength rfl (hready ticket List.mem_cons_self)
        · exact fun hlarge => absurd hlarge (Nat.not_lt.mpr hsmall)
        · exact fun _ _ => trivial
        · exact trivial

/-- **The packet sizes of a command**: it is safe with exactly these. -/
theorem Command.packetSafe_iff {mps : Nat} {fwver : UInt16} {host : HostOrder} {c : Command}
    (hscreen : c.OnScreen) : c.PacketSafe (.attached mps fwver host) ↔ c.Fits mps := by
  cases c with
  | sendImage framebuffer x y right bottom lineWidth clearDirty =>
      constructor
      · exact fits_of_packetSafe hscreen
      · intro hfits
        obtain ⟨hlo, hhi⟩ := hfits
        exact trySendImage_packetSafe (Dev.attached_regular fwver host hlo hhi)
  | drawRect x y right bottom color operation =>
      exact trySingle_safe_iff nofun (FillrectPacket.toBytes_length _ _) (Nat.le_refl _) (by decide)
  | copyArea sx sy dx dy width height =>
      exact trySingle_safe_iff nofun (CopyareaPacket.toBytes_length _ _) (Nat.le_succ _) (by decide)

end Safety

/-! ## The devices the driver accepts -/

theorem cpuToLe16_ne_zero (host : HostOrder) {v : UInt16} (h : v ≠ 0) : cpuToLe16 host v ≠ 0 := by
  intro hzero
  apply h
  calc v = cpuToLe16 host (cpuToLe16 host v) := (cpuToLe16_cpuToLe16 host v).symm
    _ = cpuToLe16 host 0 := by rw [hzero]
    _ = 0 := by cases host <;> decide

/-- A display endpoint is only taken with a packet size. -/
theorem checkEndpoint_pos {host : HostOrder} {dev : FoundEndpoints} {e : EndpointDescriptor}
    (h : dev.dispOutEpAddr ≠ 0 → 0 < dev.dispOutEpMaxSize) :
    (checkEndpoint host dev e).dispOutEpAddr ≠ 0 →
      0 < (checkEndpoint host dev e).dispOutEpMaxSize := by
  unfold checkEndpoint
  generalize hstatus : (if dev.statusInEpAddr = 0 ∧ e.isIntIn then
    { dev with statusInEpAddr := e.bEndpointAddress } else dev) = dev'
  have h' : dev'.dispOutEpAddr ≠ 0 → 0 < dev'.dispOutEpMaxSize := by
    rw [← hstatus]
    split <;> exact h
  by_cases htaken : dev'.dispOutEpAddr = 0 ∧ e.isBulkOut ∧ e.wMaxPacketSize ≠ 0
  · have hne := cpuToLe16_ne_zero host htaken.2.2
    rw [if_pos htaken]
    exact fun _ => Nat.pos_of_ne_zero fun hzero => hne (UInt16.toNat_inj.mp hzero)
  · rw [if_neg htaken]
    exact h'

/-- An accepted device has a display endpoint whose packet size is not zero. -/
theorem probeEndpoints_pos {host : HostOrder} {endpoints : List EndpointDescriptor}
    {found : FoundEndpoints} (h : probeEndpoints host endpoints = some found) :
    0 < found.dispOutEpMaxSize := by
  have hloop : ∀ dev : FoundEndpoints, (dev.dispOutEpAddr ≠ 0 → 0 < dev.dispOutEpMaxSize) →
      (endpoints.foldl (checkEndpoint host) dev).dispOutEpAddr ≠ 0 →
        0 < (endpoints.foldl (checkEndpoint host) dev).dispOutEpMaxSize := by
    clear h
    induction endpoints with
    | nil => exact fun dev hdev => hdev
    | cons e endpoints ih => exact fun dev hdev => ih _ (checkEndpoint_pos hdev)
  unfold probeEndpoints at h
  dsimp only at h
  split at h
  · cases h
  · next hboth =>
      rw [← Option.some.inj h]
      exact hloop ⟨0, 0, 0⟩ (fun hne => absurd rfl hne) (Decidable.not_not.mp hboth).2

/-- **The probe looks at nothing else**: every other packet size is accepted. -/
theorem probeEndpoints_accepts (host : HostOrder) {wMaxPacketSize : UInt16}
    (h : wMaxPacketSize ≠ 0) :
    probeEndpoints host [⟨0x81, 3, 32⟩, ⟨0x01, 2, wMaxPacketSize⟩] =
      some ⟨0x81, 0x01, (cpuToLe16 host wMaxPacketSize).toNat⟩ := by
  have hstatus : checkEndpoint host ⟨0, 0, 0⟩ ⟨0x81, 3, 32⟩ = ⟨0x81, 0, 0⟩ := rfl
  have hbulk : (2 : UInt8) &&& 0x03 = 2 := by decide
  have hout : (0x01 : UInt8) &&& 0x80 = 0 := by decide
  have hdisplay : checkEndpoint host ⟨0x81, 0, 0⟩ ⟨0x01, 2, wMaxPacketSize⟩ =
      ⟨0x81, 0x01, (cpuToLe16 host wMaxPacketSize).toNat⟩ :=
    if_pos ⟨rfl, ⟨hbulk, hout⟩, h⟩
  rw [probeEndpoints, List.foldl_cons, List.foldl_cons, List.foldl_nil, hstatus, hdisplay]
  rfl

/-- **Which devices are safe.**  The probe accepts a device only if the pool does not
divide by zero for it.  Every command on the screen is then safe with exactly the packet
sizes it fits; and so all commands are with packets from 13 bytes, which hold a copy,
up to the size of a ticket's buffer. -/
theorem packet_sizes_safe_iff {host : HostOrder} {endpoints : List EndpointDescriptor}
    {found : FoundEndpoints} (hprobe : probeEndpoints host endpoints = some found)
    (fwver : UInt16) :
    0 < found.dispOutEpMaxSize ∧
      (∀ c : Command, c.OnScreen →
        (c.PacketSafe (.attached found.dispOutEpMaxSize fwver host) ↔
          c.Fits found.dispOutEpMaxSize)) ∧
      ((∀ c : Command, c.OnScreen → c.PacketSafe (.attached found.dispOutEpMaxSize fwver host)) ↔
        sizeofCopyareaPacket ≤ found.dispOutEpMaxSize ∧
          found.dispOutEpMaxSize ≤ RPUSBDISP_MAX_TRANSFER_SIZE) := by
  have hdot : InScreen 0 0 0 0 :=
    ⟨by decide, by decide, by decide, by decide, by decide, by decide⟩
  have hexact : ∀ c : Command, c.OnScreen →
      (c.PacketSafe (.attached found.dispOutEpMaxSize fwver host) ↔
        c.Fits found.dispOutEpMaxSize) := fun c hscreen => c.packetSafe_iff hscreen
  refine ⟨probeEndpoints_pos hprobe, hexact, ?_⟩
  constructor
  · intro hall
    have himage : (Command.sendImage (fun _ => 0) 0 0 0 0 320 false).OnScreen := hdot
    have hcopy : (Command.copyArea 0 0 0 0 1 1).OnScreen := ⟨hdot, hdot⟩
    exact ⟨(hexact _ hcopy).mp (hall _ hcopy), ((hexact _ himage).mp (hall _ himage)).2⟩
  · intro hsize c hscreen
    obtain ⟨hlo, hhi⟩ := hsize
    apply (hexact c hscreen).mpr
    simp only [sizeofCopyareaPacket] at hlo
    cases c with
    | sendImage framebuffer x y right bottom lineWidth clearDirty =>
        exact ⟨by simp only [sizeofBitbltPacket]; omega, hhi⟩
    | drawRect x y right bottom color operation =>
        show sizeofFillrectPacket ≤ found.dispOutEpMaxSize
        simp only [sizeofFillrectPacket]
        omega
    | copyArea sx sy dx dy width height => exact hlo

/-- Packets of 64 bytes are large enough for everything. -/
theorem packet_sizes_safe_64 :
    probeEndpoints .little [⟨0x81, 3, 32⟩, ⟨0x01, 2, 64⟩] = some ⟨0x81, 0x01, 64⟩ ∧
      ∀ c : Command, c.OnScreen → c.PacketSafe (.attached 64 0x0104 .little) := by
  have hprobe : probeEndpoints .little [⟨0x81, 3, 32⟩, ⟨0x01, 2, 64⟩] = some ⟨0x81, 0x01, 64⟩ :=
    probeEndpoints_accepts .little (by decide)
  exact ⟨hprobe, (packet_sizes_safe_iff hprobe 0x0104).2.2.mpr (by decide)⟩

/-- A display endpoint with packets of eight bytes, which USB allows, is accepted.  Then
no rectangle passes the assertion on its packet. -/
theorem small_packets_accepted :
    ¬ ∀ (host : HostOrder) (endpoints : List EndpointDescriptor) (found : FoundEndpoints),
      probeEndpoints host endpoints = some found → ∀ (fwver : UInt16) (c : Command), c.OnScreen →
        c.PacketSafe (.attached found.dispOutEpMaxSize fwver host) := by
  intro hall
  have hscreen : (Command.drawRect 0 0 0 0 0xFFFF 0).OnScreen :=
    ⟨by decide, by decide, by decide, by decide, by decide, by decide⟩
  have hprobe : probeEndpoints .little [⟨0x81, 3, 32⟩, ⟨0x01, 2, 8⟩] = some ⟨0x81, 0x01, 8⟩ :=
    probeEndpoints_accepts .little (by decide)
  have hsafe := hall .little _ _ hprobe 0x0104 _ hscreen
  have hfits : sizeofFillrectPacket ≤ 8 := (Command.packetSafe_iff hscreen).mp hsafe
  exact absurd hfits (by decide)

end RpUsbDisp
