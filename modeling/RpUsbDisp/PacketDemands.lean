import RpUsbDisp.Demands
import RpUsbDisp.TicketPool

/-!
# What the display path demands of the packet size

The packet size of the display pipe comes from a descriptor of the device.
`rpusbdisp_probe` only makes sure that it is not zero; after that it is a divisor,
a capacity from which positions are subtracted, and a stride inside the buffers of
the tickets.

The functions in `Noted` are the display path once more, with a demand in front of
every division, of every subtraction from the packet size, of every write to a
buffer and of every assertion on the packet size, and with a stop where the bundle
has no further ticket.  `Command.erase_noted` says that they are nothing else:
without their notes they are the functions of the source.
-/

namespace RpUsbDisp

open Programs Framing

/-! ## The endpoints -/

/-- What `rpusbdisp_probe` reads of an endpoint descriptor.  `wMaxPacketSize` is the
little endian field, loaded into a register as it is. -/
structure EndpointDescriptor where
  bEndpointAddress : UInt8
  bmAttributes : UInt8
  wMaxPacketSize : UInt16

/-- `usb_endpoint_is_int_in`. -/
def EndpointDescriptor.isIntIn (e : EndpointDescriptor) : Prop :=
  e.bmAttributes &&& 0x03 = 3 ∧ e.bEndpointAddress &&& 0x80 = 0x80

/-- `usb_endpoint_is_bulk_out`. -/
def EndpointDescriptor.isBulkOut (e : EndpointDescriptor) : Prop :=
  e.bmAttributes &&& 0x03 = 2 ∧ e.bEndpointAddress &&& 0x80 = 0

instance (e : EndpointDescriptor) : Decidable e.isIntIn :=
  inferInstanceAs (Decidable (_ ∧ _))

instance (e : EndpointDescriptor) : Decidable e.isBulkOut :=
  inferInstanceAs (Decidable (_ ∧ _))

/-- What the search for endpoints leaves in `struct rpusbdisp_dev`. -/
structure FoundEndpoints where
  statusInEpAddr : UInt8
  dispOutEpAddr : UInt8
  dispOutEpMaxSize : Nat
  deriving DecidableEq

/-- The body of the loop over the endpoints. -/
def checkEndpoint (host : HostOrder) (dev : FoundEndpoints) (endpoint : EndpointDescriptor) :
    FoundEndpoints :=
  let dev :=
    if dev.statusInEpAddr = 0 ∧ endpoint.isIntIn then
      { dev with statusInEpAddr := endpoint.bEndpointAddress }
    else dev
  if dev.dispOutEpAddr = 0 ∧ endpoint.isBulkOut ∧ endpoint.wMaxPacketSize ≠ 0 then
    { dev with
      dispOutEpAddr := endpoint.bEndpointAddress
      dispOutEpMaxSize := (cpuToLe16 host endpoint.wMaxPacketSize).toNat }
  else dev

/-- The endpoints with which `rpusbdisp_probe` goes on, if it does. -/
def probeEndpoints (host : HostOrder) (endpoints : List EndpointDescriptor) :
    Option FoundEndpoints :=
  let dev := endpoints.foldl (checkEndpoint host) ⟨0, 0, 0⟩
  if ¬ (dev.statusInEpAddr ≠ 0 ∧ dev.dispOutEpAddr ≠ 0) then none else some dev

/-! ## Demands -/

/-- What the code relies on where it reckons with the packet size. -/
inductive SizeDemand where
  | divides (divisor : Nat)
  | subtracts (capacity pos : Nat)
  | stores (pos count : Nat)
  | packs (sizeofPacket maxSize : Nat)

/-- A divisor is not zero, a difference does not wrap, a write stays inside the
buffer of a ticket, and a command fits a packet. -/
def SizeDemand.Met : SizeDemand → Prop
  | .divides divisor => divisor ≠ 0
  | .subtracts capacity pos => pos ≤ capacity
  | .stores pos count => pos + count ≤ RPUSBDISP_MAX_TRANSFER_SIZE
  | .packs sizeofPacket maxSize => sizeofPacket ≤ maxSize

abbrev SizedProg (α : Type) := NotedProg SizeDemand UsbOp UsbOp.Res α

namespace Noted

/-- `_bitblt_encoder_init`, which divides before it does anything else. -/
def bitbltEncoderInit (dev : Dev) (imageSize : Nat) (rlemode : Bool) :
    SizedProg (Option BitbltEncodingContext) := do
  Prog.demand (.divides (sizeSub dev.dispOutEpMaxSize sizeofPacketHeader))
  Prog.demand (.divides dev.packetSizeFactor)
  (RpUsbDisp.bitbltEncoderInit dev imageSize rlemode).lift

/-- `_bitblt_encode_command_header`. -/
def bitbltEncodeCommandHeader (dev : Dev) (ctx : BitbltEncodingContext) (header : BitbltPacket) :
    SizedProg BitbltEncodingContext := do
  Prog.demand (.stores ctx.urbbuffer sizeofBitbltPacket)
  (RpUsbDisp.bitbltEncodeCommandHeader dev ctx header).lift

/-- The header of the next packet. -/
def encodePacketHeader (ctx : BitbltEncodingContext) : SizedProg BitbltEncodingContext := do
  Prog.demand (.stores ctx.urbbuffer sizeofPacketHeader)
  (RpUsbDisp.encodePacketHeader ctx).lift

/-- The part of `_bitblt_encode_n_transfer_data` that goes on to the next packet. -/
def encodeNextPacket (dev : Dev) (ctx : BitbltEncodingContext) :
    SizedProg (BitbltEncodingContext × Bool) := do
  let ctx := { ctx with
    urbbuffer := ctx.urbbuffer + dev.dispOutEpMaxSize, packetPos := ctx.packetPos + 1 }
  if ctx.packetPos ≥ dev.packetSizeFactor then
    let ctx := { ctx with advanced := true }
    match ← (usbSubmitUrb .fullUrb ctx.ticket).lift with
    | .refused status =>
        (onDisplayTransferFinished dev (ctx.ticket.setStatus status)).lift
        return (ctx, false)
    | .submitted =>
        match ctx.currentNode with
        | [] => Prog.stop
        | ticket :: later =>
            let ctx ← encodePacketHeader { ctx with
              ticket := ticket, later := later, advanced := false, packetPos := 0, urbbuffer := 0 }
            return (ctx, true)
  else
    let ctx ← encodePacketHeader ctx
    return (ctx, true)

/-- The loop of `_bitblt_encode_n_transfer_data`, for at most `fuel` rounds. -/
def encodeLoop (dev : Dev) : Nat → BitbltEncodingContext → List UInt8 →
    SizedProg (BitbltEncodingContext × Bool)
  | _, ctx, [] => .ret (ctx, true)
  | 0, _, _ :: _ => .fault .hang
  | fuel+1, ctx, b :: bs => do
      let data := b :: bs
      Prog.demand (.subtracts dev.dispOutEpMaxSize ctx.encodedPos)
      let bufferAvailLength := sizeSub dev.dispOutEpMaxSize ctx.encodedPos
      let sizeToCopy := if data.length > bufferAvailLength then bufferAvailLength else data.length
      Prog.demand (.stores (ctx.urbbuffer + ctx.encodedPos) sizeToCopy)
      let ticket ←
        (storeBuffer ctx.ticket (ctx.urbbuffer + ctx.encodedPos) (data.take sizeToCopy)).lift
      let ctx := { ctx with ticket := ticket, encodedPos := ctx.encodedPos + sizeToCopy }
      if bufferAvailLength = sizeToCopy then
        match ← encodeNextPacket dev ctx with
        | (ctx, true) => encodeLoop dev fuel ctx (data.drop sizeToCopy)
        | (ctx, false) => return (ctx, false)
      else encodeLoop dev fuel ctx (data.drop sizeToCopy)

/-- `_bitblt_encode_n_transfer_data`. -/
def bitbltEncodeNTransferData (dev : Dev) (ctx : BitbltEncodingContext) (data : List UInt8) :
    SizedProg (BitbltEncodingContext × Bool) :=
  encodeLoop dev (data.length + (ctx.later.length + 1) * (dev.packetSizeFactor + 1)) ctx data

/-- One pixel of an image that is not compressed. -/
def sendPixel (dev : Dev) (rleCtx : RleEncoderContext BitbltEncodingContext) (pixel : Pixel) :
    SizedProg (RleEncoderContext BitbltEncodingContext × Bool) := do
  let (encoderCtx, ok) ← bitbltEncodeNTransferData dev rleCtx.encoderCtx (store16 dev.host pixel)
  return ({ rleCtx with encoderCtx := encoderCtx }, ok)

/-- The pixels of an image, encoded in the mode of the device. -/
def encodePixels (dev : Dev) (pixels : List Pixel)
    (rleCtx : RleEncoderContext BitbltEncodingContext) :
    SizedProg (RleEncoderContext BitbltEncodingContext × Bool) :=
  if dev.rlemode then rleCompressAll dev.host (bitbltEncodeNTransferData dev) rleCtx pixels
  else Prog.feed (sendPixel dev) pixels rleCtx

/-- `rpusbdisp_usb_try_send_image` from the command header on, as `encodeImage_eq` has
it. -/
def encodeImage (dev : Dev) (framebuffer : Int → Pixel) (x y right bottom lineWidth : Int)
    (clearDirty : Bool) (encoderCtx : BitbltEncodingContext) : SizedProg Bool := do
  let encoderCtx ← bitbltEncodeCommandHeader dev encoderCtx
    (bitbltHeader dev dev.rlemode x y right bottom clearDirty)
  let encoded ← encodePixels dev
    ((rectPixels framebuffer x y right bottom lineWidth).map (cpuToLe16 dev.host))
    (rleCompressInit (List.replicate 128 0) encoderCtx)
  (finishImage dev encoded).lift

/-- `rpusbdisp_usb_try_send_image`. -/
def trySendImage (dev : Dev) (framebuffer : Int → Pixel) (x y right bottom lineWidth : Int)
    (clearDirty : Bool) : SizedProg Bool := do
  if imageSize x y right bottom = 0 then return true
  else
    match ← bitbltEncoderInit dev (imageSize x y right bottom) dev.rlemode with
    | none => return false
    | some encoderCtx =>
        encodeImage dev framebuffer x y right bottom lineWidth clearDirty encoderCtx

/-- What the two short commands share. -/
def trySingle (dev : Dev) (site : SubmitSite) (sizeofPacket length : Nat) (packet : List UInt8) :
    SizedProg Bool := do
  match ← (sellDispTickets 1).lift with
  | none => return false
  | some bundle =>
      Prog.demand (.packs sizeofPacket dev.dispOutEpMaxSize)
      (Prog.bugOn (sizeofPacket > dev.dispOutEpMaxSize)).lift
      match bundle with
      | [] => .fault .oops
      | ticket :: _ =>
          Prog.demand (.stores 0 packet.length)
          (submitSingle dev site length packet ticket).lift

/-- `rpusbdisp_usb_try_copy_area`. -/
def tryCopyArea (dev : Dev) (sx sy dx dy width height : Int) : SizedProg Bool :=
  trySingle dev .copyArea sizeofCopyareaPacket (sizeofCopyareaPacket + 1)
    ((copyareaPacket dev sx sy dx dy width height).toBytes dev.host)

/-- `rpusbdisp_usb_try_draw_rect`. -/
def tryDrawRect (dev : Dev) (x y right bottom : Int) (color : Pixel) (operation : UInt8) :
    SizedProg Bool :=
  trySingle dev .drawRect sizeofFillrectPacket sizeofFillrectPacket
    ((fillrectPacket dev x y right bottom color operation).toBytes dev.host)

end Noted

/-- The program of a command, with its demands. -/
def Command.noted (dev : Dev) : Command → SizedProg Bool
  | .sendImage framebuffer x y right bottom lineWidth clearDirty =>
      Noted.trySendImage dev framebuffer x y right bottom lineWidth clearDirty
  | .drawRect x y right bottom color operation =>
      Noted.tryDrawRect dev x y right bottom color operation
  | .copyArea sx sy dx dy width height => Noted.tryCopyArea dev sx sy dx dy width height

section Expansion

/-! ## The run-length encoder over an expanded sink

The encoder asks for nothing itself, so to expand it is to expand its sink. -/

variable {Op Op' : Type} {Res : Op → Type} {Res' : Op' → Type} {κ α : Type} {host : HostOrder}
  {transfer : κ → List UInt8 → Prog Op Res (κ × Bool)}
  {f : (o : Op) → Prog Op' Res' (Res o)}

theorem expand_storePixel_bind {rleCtx : RleEncoderContext κ} {i : Nat} {pixel : Pixel}
    {k : RleEncoderContext κ → Prog Op Res α} :
    (storePixel rleCtx i pixel >>= k).expand f =
      storePixel rleCtx i pixel >>= fun rleCtx => (k rleCtx).expand f := by
  unfold storePixel
  split <;> rfl

theorem expand_loadPixel_bind {rleCtx : RleEncoderContext κ} {i : Nat}
    {k : Pixel → Prog Op Res α} :
    (loadPixel rleCtx i >>= k).expand f = loadPixel rleCtx i >>= fun p => (k p).expand f := by
  unfold loadPixel
  split <;> rfl

theorem expand_rleFlushSection (rleCtx : RleEncoderContext κ) :
    (rleFlushSection host transfer rleCtx).expand f =
      rleFlushSection host (fun k data => (transfer k data).expand f) rleCtx := by
  unfold rleFlushSection
  rw [expand_bugOn_bind]
  congr 1
  funext _
  by_cases hzero : rleCtx.sectionSize = 0
  · rw [if_pos hzero, if_pos hzero]
    rfl
  · rw [if_neg hzero, if_neg hzero, expand_bind]
    congr 1
    funext r
    obtain ⟨k, ok⟩ := r
    cases ok with
    | false => rfl
    | true =>
        simp only []
        rw [expand_bind]
        congr 1
        funext r
        obtain ⟨k, ok⟩ := r
        cases ok with
        | false => rfl
        | true => rfl

/-- A flush and what follows it, if the flush succeeds. -/
theorem expand_flush_bind {rleCtx : RleEncoderContext κ}
    {k : RleEncoderContext κ → Prog Op Res (RleEncoderContext κ × Bool)}
    {k' : RleEncoderContext κ → Prog Op' Res' (RleEncoderContext κ × Bool)}
    (hk : ∀ c, (k c).expand f = k' c) :
    (rleFlushSection host transfer rleCtx >>= fun r =>
      match r with
      | (c, false) => .ret (c, false)
      | (c, true) => k c).expand f =
    rleFlushSection host (fun k data => (transfer k data).expand f) rleCtx >>= fun r =>
      match r with
      | (c, false) => .ret (c, false)
      | (c, true) => k' c := by
  rw [expand_bind, expand_rleFlushSection]
  congr 1
  funext r
  obtain ⟨c, ok⟩ := r
  cases ok with
  | false => rfl
  | true => exact hk c

theorem expand_rleInclude (rleCtx : RleEncoderContext κ) (pixel : Pixel) :
    (rleInclude rleCtx pixel : Prog Op Res _).expand f = rleInclude rleCtx pixel := by
  unfold rleInclude
  exact expand_storePixel_bind

theorem expand_rleFormCommon (rleCtx : RleEncoderContext κ) (pixel : Pixel) :
    (rleFormCommon rleCtx pixel : Prog Op Res _).expand f = rleFormCommon rleCtx pixel := by
  unfold rleFormCommon
  exact expand_storePixel_bind

theorem expand_rleFlushThenStart (rleCtx : RleEncoderContext κ) (pixel : Pixel) :
    (rleFlushThenStart host transfer rleCtx pixel).expand f =
      rleFlushThenStart host (fun k data => (transfer k data).expand f) rleCtx pixel := by
  unfold rleFlushThenStart
  apply expand_flush_bind
  intro c
  exact expand_storePixel_bind

theorem expand_rleCompressNEncode (rleCtx : RleEncoderContext κ) (pixel : Pixel) :
    (rleCompressNEncode host transfer rleCtx pixel).expand f =
      rleCompressNEncode host (fun k data => (transfer k data).expand f) rleCtx pixel := by
  unfold rleCompressNEncode
  by_cases hcommon : rleCtx.isCommonSection = true
  · rw [if_pos hcommon, if_pos hcommon, expand_bugOn_bind]
    congr 1
    funext _
    rw [expand_loadPixel_bind]
    congr 1
    funext first
    split
    · exact expand_rleFlushThenStart _ _
    · split
      · exact expand_rleFlushThenStart _ _
      · rfl
  · rw [if_neg hcommon, if_neg hcommon, expand_bind]
    have hlast : (rleEqualsLast rleCtx pixel : Prog Op Res Bool).expand f =
        rleEqualsLast rleCtx pixel := by
      unfold rleEqualsLast
      split
      · rfl
      · exact expand_loadPixel_bind
    rw [hlast]
    congr 1
    funext equal
    by_cases hequal : equal = true
    · rw [if_pos hequal, if_pos hequal]
      dsimp only
      split
      · apply expand_flush_bind
        exact fun c => expand_rleFormCommon c pixel
      · exact expand_rleFormCommon _ pixel
    · rw [if_neg hequal, if_neg hequal]
      split
      · apply expand_flush_bind
        exact fun c => expand_rleInclude c pixel
      · exact expand_rleInclude _ pixel

theorem expand_rleCompressAll (rleCtx : RleEncoderContext κ) (pixels : List Pixel) :
    (rleCompressAll host transfer rleCtx pixels).expand f =
      rleCompressAll host (fun k data => (transfer k data).expand f) rleCtx pixels := by
  unfold rleCompressAll
  rw [expand_bind, expand_feed]
  simp only [expand_rleCompressNEncode]
  congr 1
  funext r
  obtain ⟨c, ok⟩ := r
  cases ok with
  | false => rfl
  | true => exact expand_rleFlushSection c
end Expansion

/-! ## Without the notes -/

namespace Noted

variable {dev : Dev}

theorem erase_bitbltEncoderInit (imageSize : Nat) (rlemode : Bool) :
    (bitbltEncoderInit dev imageSize rlemode).erase =
      RpUsbDisp.bitbltEncoderInit dev imageSize rlemode :=
  erase_lift _

theorem erase_bitbltEncodeCommandHeader (ctx : BitbltEncodingContext) (header : BitbltPacket) :
    (bitbltEncodeCommandHeader dev ctx header).erase =
      RpUsbDisp.bitbltEncodeCommandHeader dev ctx header :=
  erase_lift _

theorem erase_encodePacketHeader (ctx : BitbltEncodingContext) :
    (encodePacketHeader ctx).erase = RpUsbDisp.encodePacketHeader ctx :=
  erase_lift _

theorem erase_encodeNextPacket (ctx : BitbltEncodingContext) :
    (encodeNextPacket dev ctx).erase = RpUsbDisp.encodeNextPacket dev ctx := by
  unfold encodeNextPacket RpUsbDisp.encodeNextPacket
  dsimp only
  split
  · rw [erase_bind, erase_lift]
    congr 1
    funext r
    cases r with
    | refused status =>
        dsimp only
        rw [erase_bind, erase_lift]
        rfl
    | submitted =>
        simp only [BitbltEncodingContext.currentNode, if_true]
        cases ctx.later with
        | nil => rfl
        | cons ticket later =>
            dsimp only
            rw [erase_bind, erase_encodePacketHeader]
            rfl
  · rw [erase_bind, erase_encodePacketHeader]
    rfl

theorem erase_encodeLoop (fuel : Nat) (ctx : BitbltEncodingContext) (data : List UInt8) :
    (encodeLoop dev fuel ctx data).erase = RpUsbDisp.encodeLoop dev fuel ctx data := by
  induction fuel generalizing ctx data with
  | zero => cases data <;> rfl
  | succ fuel ih =>
      cases data with
      | nil => rfl
      | cons b bs =>
          unfold encodeLoop RpUsbDisp.encodeLoop
          dsimp only
          generalize (if (b :: bs).length > sizeSub dev.dispOutEpMaxSize ctx.encodedPos then
            sizeSub dev.dispOutEpMaxSize ctx.encodedPos else (b :: bs).length) = sizeToCopy
          rw [erase_demand_bind, erase_demand_bind, erase_bind, erase_lift]
          congr 1
          funext ticket
          split
          · rw [erase_bind, erase_encodeNextPacket]
            congr 1
            funext r
            obtain ⟨ctx', ok⟩ := r
            cases ok with
            | false => rfl
            | true => exact ih _ _
          · exact ih _ _

theorem erase_bitbltEncodeNTransferData (ctx : BitbltEncodingContext) (data : List UInt8) :
    (bitbltEncodeNTransferData dev ctx data).erase =
      RpUsbDisp.bitbltEncodeNTransferData dev ctx data :=
  erase_encodeLoop _ _ _

theorem erase_sendPixel (hmode : dev.rlemode = false)
    (rleCtx : RleEncoderContext BitbltEncodingContext) (pixel : Pixel) :
    (sendPixel dev rleCtx pixel).erase = RpUsbDisp.sendPixel dev rleCtx pixel := by
  unfold sendPixel RpUsbDisp.sendPixel
  rw [hmode, if_neg Bool.false_ne_true, erase_bind, erase_bitbltEncodeNTransferData]
  rfl

theorem erase_encodePixels (pixels : List Pixel)
    (rleCtx : RleEncoderContext BitbltEncodingContext) :
    (encodePixels dev pixels rleCtx).erase = RpUsbDisp.encodePixels dev pixels rleCtx := by
  unfold encodePixels RpUsbDisp.encodePixels
  cases hmode : dev.rlemode with
  | false =>
      have hstep : (fun c p => (sendPixel dev c p).erase) = RpUsbDisp.sendPixel dev := by
        funext c p
        exact erase_sendPixel hmode c p
      rw [if_neg Bool.false_ne_true, if_neg Bool.false_ne_true, ← hstep]
      exact expand_feed pixels rleCtx
  | true =>
      have hsink : (fun k data => (bitbltEncodeNTransferData dev k data).erase) =
          RpUsbDisp.bitbltEncodeNTransferData dev := by
        funext k data
        exact erase_bitbltEncodeNTransferData k data
      rw [if_pos rfl, if_pos rfl, ← hsink]
      exact expand_rleCompressAll rleCtx pixels

theorem erase_encodeImage (framebuffer : Int → Pixel) (x y right bottom lineWidth : Int)
    (clearDirty : Bool) (ctx : BitbltEncodingContext) :
    (encodeImage dev framebuffer x y right bottom lineWidth clearDirty ctx).erase =
      RpUsbDisp.encodeImage dev framebuffer x y right bottom lineWidth clearDirty ctx := by
  rw [encodeImage_eq]
  unfold encodeImage
  rw [erase_bind, erase_bitbltEncodeCommandHeader]
  congr 1
  funext ctx
  rw [erase_bind, erase_encodePixels]
  congr 1
  funext r
  exact erase_lift _

theorem erase_trySendImage (framebuffer : Int → Pixel) (x y right bottom lineWidth : Int)
    (clearDirty : Bool) :
    (trySendImage dev framebuffer x y right bottom lineWidth clearDirty).erase =
      RpUsbDisp.trySendImage dev framebuffer x y right bottom lineWidth clearDirty := by
  unfold trySendImage RpUsbDisp.trySendImage
  split
  · rfl
  · rw [erase_bind, erase_bitbltEncoderInit]
    congr 1
    funext r
    cases r with
    | none => rfl
    | some ctx => exact erase_encodeImage framebuffer x y right bottom lineWidth clearDirty ctx

theorem erase_trySingle (site : SubmitSite) (sizeofPacket length : Nat) (packet : List UInt8) :
    (trySingle dev site sizeofPacket length packet).erase =
      RpUsbDisp.trySingle dev site sizeofPacket length packet := by
  unfold trySingle RpUsbDisp.trySingle
  rw [erase_bind, erase_lift]
  congr 1
  funext r
  cases r with
  | none => rfl
  | some bundle =>
      dsimp only
      rw [erase_demand_bind, erase_bind, erase_lift]
      congr 1
      funext _
      cases bundle with
      | nil => rfl
      | cons ticket later => exact erase_lift _

end Noted

/-- **The notes are all that was added.**  Without them the noted program of a command
is the program of the command. -/
theorem Command.erase_noted (dev : Dev) (c : Command) : (c.noted dev).erase = c.prog dev := by
  cases c with
  | sendImage framebuffer x y right bottom lineWidth clearDirty =>
      exact Noted.erase_trySendImage framebuffer x y right bottom lineWidth clearDirty
  | drawRect x y right bottom color operation => exact Noted.erase_trySingle _ _ _ _
  | copyArea sx sy dx dy width height => exact Noted.erase_trySingle _ _ _ _

end RpUsbDisp
