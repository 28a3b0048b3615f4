import RpUsbDisp.BitbltEncoder
import RpUsbDisp.RleEncoder

/-!
# Sending an image

`rpusbdisp_usb_try_send_image` walks a rectangle of the framebuffer row by row
and gives its pixels to the encoder, directly or through the run-length encoder.
The walk is shown to be a loop over the pixels of the rectangle, so both ways of
encoding become runs over one list.

Two results are drawn from the specification `trySendImage_wp`.  What is sent is
the packets of the command header and the payload.  And the assertion on the
bundle fails on exactly the images that fill every packet that was bought.
-/

namespace RpUsbDisp

open Programs Framing RunLength

/-! ## The code -/

/-- `image_size`. -/
def imageSize (x y right bottom : Int) : Nat :=
  sizeOfInt ((right - x + 1) * (bottom - y + 1) * (RP_DISP_DEFAULT_PIXEL_BITS / 8 : Nat))

/-- `rlemode`: the firmware knows the run-length command. -/
def Dev.rlemode (dev : Dev) : Bool :=
  dev.deviceFwver ≥ RP_DISP_FEATURE_RLE_FWVERSION

/-- One pixel, already converted to the order of the wire. -/
def sendPixel (dev : Dev) (rleCtx : RleEncoderContext BitbltEncodingContext) (pixel : Pixel) :
    UsbProg (RleEncoderContext BitbltEncodingContext × Bool) := do
  if dev.rlemode then rleCompressNEncode dev.host (bitbltEncodeNTransferData dev) rleCtx pixel
  else
    let (encoderCtx, ok) ← bitbltEncodeNTransferData dev rleCtx.encoderCtx (store16 dev.host pixel)
    return ({ rleCtx with encoderCtx := encoderCtx }, ok)

/-- The inner loop, for `n` more pixels: where the framebuffer pointer is after
the row, or nothing if the row was aborted. -/
def sendRow (dev : Dev) (framebuffer : Int → Pixel) :
    Nat → Int → RleEncoderContext BitbltEncodingContext →
      UsbProg (RleEncoderContext BitbltEncodingContext × Option Int)
  | 0, pos, rleCtx => .ret (rleCtx, some pos)
  | n+1, pos, rleCtx => do
      match ← sendPixel dev rleCtx (cpuToLe16 dev.host (framebuffer pos)) with
      | (rleCtx, true) => sendRow dev framebuffer n (pos + 1) rleCtx
      | (rleCtx, false) => return (rleCtx, none)

/-- The outer loop, for `n` more rows. -/
def sendRows (dev : Dev) (framebuffer : Int → Pixel) (x right lineWidth : Int) :
    Nat → Int → RleEncoderContext BitbltEncodingContext →
      UsbProg (RleEncoderContext BitbltEncodingContext × Bool)
  | 0, _, rleCtx => .ret (rleCtx, true)
  | n+1, pos, rleCtx => do
      match ← sendRow dev framebuffer (right + 1 - x).toNat pos rleCtx with
      | (rleCtx, some pos) =>
          sendRows dev framebuffer x right lineWidth n (pos + (lineWidth - right - 1 + x)) rleCtx
      | (rleCtx, none) => return (rleCtx, false)

/-- `rpusbdisp_usb_try_send_image` from the command header on. -/
def encodeImage (dev : Dev) (framebuffer : Int → Pixel) (x y right bottom lineWidth : Int)
    (clearDirty : Bool) (encoderCtx : BitbltEncodingContext) : UsbProg Bool := do
  let encoderCtx ← bitbltEncodeCommandHeader dev encoderCtx
    (bitbltHeader dev dev.rlemode x y right bottom clearDirty)
  -- the stack leaves something in the section array; nothing reads it before it is written
  let rleCtx := rleCompressInit (List.replicate 128 0) encoderCtx
  match ← sendRows dev framebuffer x right lineWidth (bottom + 1 - y).toNat (y * lineWidth + x)
      rleCtx with
  | (rleCtx, false) =>
      bitbltEncoderCleanup rleCtx.encoderCtx
      return false
  | (rleCtx, true) =>
      if dev.rlemode then
        match ← rleFlushSection dev.host (bitbltEncodeNTransferData dev) rleCtx with
        | (rleCtx, false) =>
            bitbltEncoderCleanup rleCtx.encoderCtx
            return false
        | (rleCtx, true) => bitbltEncoderFlush dev rleCtx.encoderCtx
      else bitbltEncoderFlush dev rleCtx.encoderCtx

/-- `rpusbdisp_usb_try_send_image`. -/
def trySendImage (dev : Dev) (framebuffer : Int → Pixel) (x y right bottom lineWidth : Int)
    (clearDirty : Bool) : UsbProg Bool := do
  if imageSize x y right bottom = 0 then return true
  else
    match ← bitbltEncoderInit dev (imageSize x y right bottom) dev.rlemode with
    | none => return false
    | some encoderCtx =>
        encodeImage dev framebuffer x y right bottom lineWidth clearDirty encoderCtx

/-! ## The pixels of a rectangle -/

/-- `n` pixels from `pos` on. -/
def rowPixels (framebuffer : Int → Pixel) (pos : Int) (n : Nat) : List Pixel :=
  (List.range n).map fun (i : Nat) => framebuffer (pos + i)

/-- The pixels of a rectangle in row-major order. -/
def rectPixels (framebuffer : Int → Pixel) (x y right bottom lineWidth : Int) : List Pixel :=
  (List.range (bottom + 1 - y).toNat).flatMap fun (j : Nat) =>
    rowPixels framebuffer ((y + j) * lineWidth + x) (right + 1 - x).toNat

theorem rowPixels_succ (framebuffer : Int → Pixel) (pos : Int) (n : Nat) :
    rowPixels framebuffer pos (n + 1) = framebuffer pos :: rowPixels framebuffer (pos + 1) n := by
  have hshift : ∀ i : Nat, pos + ((i + 1 : Nat) : Int) = pos + 1 + i := by
    intro i
    omega
  simp only [rowPixels, List.range_succ_eq_map, List.map_cons, List.map_map, Function.comp_def,
    hshift]
  simp

/-- The inner loop feeds a row. -/
theorem sendRow_eq (dev : Dev) (framebuffer : Int → Pixel) (n : Nat) (pos : Int)
    (rleCtx : RleEncoderContext BitbltEncodingContext) :
    sendRow dev framebuffer n pos rleCtx =
      Prog.feed (sendPixel dev) ((rowPixels framebuffer pos n).map (cpuToLe16 dev.host)) rleCtx >>=
        fun r => .ret (r.1, if r.2 then some (pos + n) else none) := by
  induction n generalizing pos rleCtx with
  | zero => simp [sendRow, rowPixels, Prog.feed]
  | succ n ih =>
      rw [sendRow, rowPixels_succ, List.map_cons, Prog.feed, Prog.bind_assoc]
      congr 1
      funext r
      obtain ⟨c, ok⟩ := r
      cases ok with
      | false => rfl
      | true =>
          have hpos : pos + 1 + (n : Int) = pos + ((n + 1 : Nat) : Int) := by omega
          rw [← hpos]
          exact ih (pos + 1) c

/-- The rows of a rectangle, from the pointer on. -/
def rowsFrom (framebuffer : Int → Pixel) (lineWidth pos : Int) (width : Nat) : Nat → List Pixel
  | 0 => []
  | n+1 => rowPixels framebuffer pos width ++
      rowsFrom framebuffer lineWidth (pos + lineWidth) width n

theorem rowsFrom_eq (framebuffer : Int → Pixel) (lineWidth pos : Int) (width n : Nat) :
    rowsFrom framebuffer lineWidth pos width n =
      (List.range n).flatMap fun (j : Nat) => rowPixels framebuffer (pos + j * lineWidth) width := by
  induction n generalizing pos with
  | zero => rfl
  | succ n ih =>
      have hshift : ∀ j : Nat, pos + lineWidth + (j : Int) * lineWidth =
          pos + ((j + 1 : Nat) : Int) * lineWidth := by
        intro j
        rw [Int.natCast_add, Int.add_mul]
        omega
      rw [rowsFrom, ih, List.range_succ_eq_map, List.flatMap_cons, List.flatMap_map]
      simp only [hshift, Nat.succ_eq_add_one]
      simp

/-- The outer loop feeds the rows. -/
theorem sendRows_eq (dev : Dev) (framebuffer : Int → Pixel) {x right : Int} (hx : x ≤ right + 1)
    (lineWidth : Int) (n : Nat) (pos : Int) (rleCtx : RleEncoderContext BitbltEncodingContext) :
    sendRows dev framebuffer x right lineWidth n pos rleCtx =
      Prog.feed (sendPixel dev)
        ((rowsFrom framebuffer lineWidth pos (right + 1 - x).toNat n).map (cpuToLe16 dev.host))
        rleCtx := by
  induction n generalizing pos rleCtx with
  | zero => rfl
  | succ n ih =>
      have hnext : pos + ((right + 1 - x).toNat : Int) + (lineWidth - right - 1 + x) =
          pos + lineWidth := by omega
      rw [sendRows, sendRow_eq, Prog.bind_assoc, rowsFrom, List.map_append, feed_append]
      congr 1
      funext r
      obtain ⟨c, ok⟩ := r
      cases ok with
      | false => rfl
      | true =>
          rw [← hnext]
          exact ih _ c

/-- A rectangle without columns is walked without a pixel. -/
theorem sendRows_empty (dev : Dev) (framebuffer : Int → Pixel) {x right : Int}
    (hx : right + 1 ≤ x) (lineWidth : Int) (n : Nat) (pos : Int)
    (rleCtx : RleEncoderContext BitbltEncodingContext) :
    sendRows dev framebuffer x right lineWidth n pos rleCtx = .ret (rleCtx, true) := by
  have hwidth : (right + 1 - x).toNat = 0 := by omega
  induction n generalizing pos with
  | zero => rfl
  | succ n ih =>
      rw [sendRows, hwidth, sendRow]
      exact ih _

/-- **The walk.**  The loops of the source feed the pixels of the rectangle. -/
theorem sendRows_rect (dev : Dev) (framebuffer : Int → Pixel) (x y right bottom lineWidth : Int)
    (rleCtx : RleEncoderContext BitbltEncodingContext) :
    sendRows dev framebuffer x right lineWidth (bottom + 1 - y).toNat (y * lineWidth + x) rleCtx =
      Prog.feed (sendPixel dev)
        ((rectPixels framebuffer x y right bottom lineWidth).map (cpuToLe16 dev.host)) rleCtx := by
  by_cases hx : x ≤ right + 1
  · have hrow : ∀ j : Nat, y * lineWidth + x + (j : Int) * lineWidth =
        (y + j) * lineWidth + x := by
      intro j
      rw [Int.add_mul]
      omega
    rw [sendRows_eq dev framebuffer hx, rowsFrom_eq]
    simp only [hrow]
    rfl
  · have hwidth : (right + 1 - x).toNat = 0 := by omega
    have hnil : rectPixels framebuffer x y right bottom lineWidth = [] := by
      rw [rectPixels, hwidth]
      exact List.flatMap_eq_nil_iff.mpr fun _ _ => rfl
    rw [sendRows_empty dev framebuffer (by omega), hnil]
    rfl

/-! ## What an image becomes -/

/-- The payload of an image, whose pixels are already in the order of the wire. -/
def imagePayload (dev : Dev) (pixels : List Pixel) : List UInt8 :=
  if dev.rlemode then rleBytes dev.host pixels else pixels.flatMap (store16 dev.host)

/-- All that follows the first byte: the rest of the command header, and the
payload. -/
def imageBody (dev : Dev) (header : BitbltPacket) (pixels : List Pixel) : List UInt8 :=
  (header.toBytes dev.host).tail ++ imagePayload dev pixels

theorem imagePayload_nil (dev : Dev) {pixels : List Pixel} (h : imagePayload dev pixels = []) :
    pixels = [] := by
  unfold imagePayload at h
  split at h
  · have hdecode := rleDecode_rleBytes dev.host pixels
    rw [h, rleDecode.eq_def] at hdecode
    exact List.map_eq_nil_iff.mp (Option.some.inj hdecode).symm
  · cases pixels with
    | nil => rfl
    | cons p ps =>
        have hlen := flatMap_store16_length dev.host (p :: ps)
        rw [h] at hlen
        cases hlen

section Rules

variable {dev : Dev} {plan : Plan} {F : Fault → Prop}

/-- The encoder is a sink for the run-length encoder. -/
theorem bitblt_accepts {body total : List UInt8} (hlen : (body ++ total).length ≤ plan.total)
    (hirregular : ¬ dev.Regular plan.size → ∀ e, F e)
    (hexhausted : plan.bundle * dev.urbPayload ≤ plan.total → F .oops) :
    Accepts (callProtocol dev plan.size) F
      (fun bytes ctx g => Settled dev plan (body ++ bytes) ctx g) (Aborted dev plan) total
      (bitbltEncodeNTransferData dev) := by
  intro bytes data ctx g hprefix hsettled
  have hpart := hprefix.length_le
  simp only [List.length_append] at hpart hlen
  apply bitbltEncodeNTransferData_wp hsettled
  · simp only [List.length_append]
    omega
  · exact hirregular
  · exact hexhausted
  · intro ctx' g' h'
    rwa [List.append_assoc] at h'
  · intro ctx' g' h'
    exact h'

/-- Without run-length encoding, the loop appends the pixels as they are. -/
theorem feed_plain_wp {body : List UInt8} {pixels : List Pixel}
    {rleCtx : RleEncoderContext BitbltEncodingContext} {g : Call} (hmode : dev.rlemode = false)
    (hlen : (body ++ pixels.flatMap (store16 dev.host)).length ≤ plan.total)
    (hirregular : ¬ dev.Regular plan.size → ∀ e, F e)
    (hexhausted : plan.bundle * dev.urbPayload ≤ plan.total → F .oops)
    (h : Settled dev plan body rleCtx.encoderCtx g) :
    (Prog.feed (sendPixel dev) pixels rleCtx).wp (callProtocol dev plan.size) F
      (Went (fun c => Settled dev plan (body ++ pixels.flatMap (store16 dev.host)) c.encoderCtx)
        fun c => Aborted dev plan c.encoderCtx) g := by
  have hsink := bitblt_accepts hlen hirregular hexhausted
  apply wp_feed (fun (done : List Pixel) (c : RleEncoderContext BitbltEncodingContext) g =>
    Settled dev plan (body ++ done.flatMap (store16 dev.host)) c.encoderCtx g)
  · intro done p rest c g₁ hall hdone
    have hprefix : done.flatMap (store16 dev.host) ++ store16 dev.host p <+:
        pixels.flatMap (store16 dev.host) := by
      rw [hall, List.flatMap_append, List.flatMap_cons, ← List.append_assoc]
      exact List.prefix_append _ _
    unfold sendPixel
    rw [hmode, if_neg Bool.false_ne_true, wp_bind]
    apply wp_mono (hsink _ _ c.encoderCtx g₁ hprefix hdone) (fun _ he => he)
    intro r g₂ hr
    obtain ⟨ctx, ok⟩ := r
    cases ok with
    | false => exact hr
    | true =>
        have hsnoc : (done ++ [p]).flatMap (store16 dev.host) =
            done.flatMap (store16 dev.host) ++ store16 dev.host p := by simp
        show Settled dev plan (body ++ (done ++ [p]).flatMap (store16 dev.host)) ctx g₂
        rw [hsnoc]
        exact hr
  · simpa using h

/-- The pixels of an image, encoded in the mode of the device. -/
def encodePixels (dev : Dev) (pixels : List Pixel)
    (rleCtx : RleEncoderContext BitbltEncodingContext) :
    UsbProg (RleEncoderContext BitbltEncodingContext × Bool) :=
  if dev.rlemode then rleCompressAll dev.host (bitbltEncodeNTransferData dev) rleCtx pixels
  else Prog.feed (sendPixel dev) pixels rleCtx

/-- The end of an image: flush it, or clean up. -/
def finishImage (dev : Dev) : RleEncoderContext BitbltEncodingContext × Bool → UsbProg Bool
  | (rleCtx, true) => bitbltEncoderFlush dev rleCtx.encoderCtx
  | (rleCtx, false) => bitbltEncoderCleanup rleCtx.encoderCtx >>= fun _ => .ret false

/-- The code from the header on is: write the header, encode the pixels of the
rectangle, finish. -/
theorem encodeImage_eq (dev : Dev) (framebuffer : Int → Pixel)
    (x y right bottom lineWidth : Int) (clearDirty : Bool) (ctx : BitbltEncodingContext) :
    encodeImage dev framebuffer x y right bottom lineWidth clearDirty ctx =
      bitbltEncodeCommandHeader dev ctx
          (bitbltHeader dev dev.rlemode x y right bottom clearDirty) >>= fun ctx =>
        encodePixels dev
            ((rectPixels framebuffer x y right bottom lineWidth).map (cpuToLe16 dev.host))
            (rleCompressInit (List.replicate 128 0) ctx) >>= finishImage dev := by
  unfold encodeImage encodePixels
  congr 1
  funext ctx
  show (sendRows dev framebuffer x right lineWidth _ _ (rleCompressInit _ ctx) >>= _) = _
  rw [sendRows_rect]
  cases hmode : dev.rlemode with
  | false =>
      rw [if_neg Bool.false_ne_true]
      congr 1
      funext r
      obtain ⟨c, ok⟩ := r
      cases ok with
      | false => rfl
      | true => simp [finishImage]
  | true =>
      have hstep : sendPixel dev =
          rleCompressNEncode dev.host (bitbltEncodeNTransferData dev) := by
        funext c p
        rw [sendPixel, hmode, if_pos rfl]
      rw [if_pos rfl, rleCompressAll, Prog.bind_assoc, hstep]
      congr 1
      funext r
      obtain ⟨c, ok⟩ := r
      cases ok with
      | false => rfl
      | true =>
          show (rleFlushSection _ _ c >>= _) = rleFlushSection _ _ c >>= finishImage dev
          congr 1
          funext r
          obtain ⟨c, ok⟩ := r
          cases ok with
          | false => rfl
          | true => rfl

/-- In either mode the payload of the image is appended. -/
theorem encodePixels_wp {body : List UInt8} {pixels : List Pixel} {ctx : BitbltEncodingContext}
    {g : Call} (hlen : (body ++ imagePayload dev pixels).length ≤ plan.total)
    (hirregular : ¬ dev.Regular plan.size → ∀ e, F e)
    (hexhausted : plan.bundle * dev.urbPayload ≤ plan.total → F .oops)
    (h : Settled dev plan body ctx g) :
    (encodePixels dev pixels (rleCompressInit (List.replicate 128 0) ctx)).wp
      (callProtocol dev plan.size) F
      (Went (fun c => Settled dev plan (body ++ imagePayload dev pixels) c.encoderCtx)
        fun c => Aborted dev plan c.encoderCtx) g := by
  unfold encodePixels imagePayload at *
  cases hmode : dev.rlemode with
  | false =>
      rw [hmode] at hlen
      exact feed_plain_wp hmode hlen hirregular hexhausted h
  | true =>
      rw [hmode] at hlen
      have hsink : Accepts _ _ _ _ _ (bitbltEncodeNTransferData dev) :=
        bitblt_accepts hlen hirregular hexhausted
      have hstart : RleState (fun bytes ctx g => Settled dev plan (body ++ bytes) ctx g) [] none
          (rleCompressInit (List.replicate 128 0) ctx) g :=
        ⟨by rw [List.append_nil]; exact h, List.length_replicate, rfl, rfl⟩
      apply wp_mono (rleCompressAll_wp hsink hstart) (fun _ he => he)
      intro r g' hr
      obtain ⟨c, ok⟩ := r
      cases ok with
      | false => exact hr
      | true => exact hr.sunk

/-- The body goes on after the command header. -/
def BodyNonempty (body : List UInt8) : Prop :=
  sizeofBitbltPacket - sizeofPacketHeader < body.length

theorem bodyNonempty_of_pixels {dev : Dev} (header : BitbltPacket) {pixels : List Pixel}
    (hne : pixels ≠ []) : BodyNonempty (imageBody dev header pixels) := by
  have hpos : 0 < (imagePayload dev pixels).length :=
    List.length_pos_iff.mpr fun hnil => hne (imagePayload_nil dev hnil)
  unfold BodyNonempty
  rw [imageBody, List.length_append, List.length_tail, BitbltPacket.toBytes_length]
  exact Nat.lt_add_of_pos_right hpos

/-- What a call that sent its image leaves: it holds nothing, and on a regular
device the URBs it submitted are the packets of the body, which left room in the
bundle. -/
structure ImageSent (dev : Dev) (plan : Plan) (body : List UInt8) (g : Call) : Prop where
  held : g.held = []
  whole : g.stranded = false
  unfailed : dev.Regular plan.size → BodyNonempty body → g.failed = false
  sent : dev.Regular plan.size → BodyNonempty body →
    g.sent.flatten = plan.first :: stuff plan.mark dev.payload body dev.payload
  room : dev.Regular plan.size → BodyNonempty body → body.length < plan.bundle * dev.urbPayload

/-- What a call that gave up on its image leaves: a submission was refused, and
either nothing is held or tickets were left behind.  The body had filled a URB by
then, or it was the final submission, and what was bought is sent or held but for
one ticket. -/
structure ImageFailed (dev : Dev) (plan : Plan) (g : Call) : Prop where
  held : g.held = [] ∨ g.stranded = true
  failed : g.failed = true
  left : dev.Regular plan.size → dev.urbPayload ≤ plan.total ∨
    g.sent.length + 1 + g.held.length = plan.bundle

/-- The plan of an image. -/
def imagePlan (dev : Dev) (size bundle total : Nat) (header : BitbltPacket) : Plan :=
  { size := size
    bundle := bundle
    total := total
    first := header.cmdFlag
    mark := if dev.rlemode then RPUSBDISP_DISPCMD_BITBLT_RLE else RPUSBDISP_DISPCMD_BITBLT }

/-- **From the header on.**  The image is sent, or a submission is refused; the
bundle is exhausted only by a body that fills all its packets. -/
theorem encodeImage_wp {framebuffer : Int → Pixel} {x y right bottom lineWidth : Int}
    {clearDirty : Bool} {size bundle : Nat} {ctx : BitbltEncodingContext} {g : Call}
    {header : BitbltPacket} {body : List UInt8} {Q : Bool → Call → Prop}
    (hheader : header = bitbltHeader dev dev.rlemode x y right bottom clearDirty)
    (hbody : body = imageBody dev header
      ((rectPixels framebuffer x y right bottom lineWidth).map (cpuToLe16 dev.host)))
    (h : Fresh dev size bundle dev.rlemode ctx g)
    (hirregular : ¬ dev.Regular size → ∀ e, F e)
    (hexhausted : bundle * dev.urbPayload ≤ body.length → F .oops)
    (hsent : ∀ g', ImageSent dev (imagePlan dev size bundle body.length header) body g' → Q true g')
    (hfailed : ∀ g', ImageFailed dev (imagePlan dev size bundle body.length header) g' →
      Q false g') :
    (encodeImage dev framebuffer x y right bottom lineWidth clearDirty ctx).wp
      (callProtocol dev size) F Q g := by
  rw [encodeImage_eq, wp_bind, ← hheader]
  generalize hplan : imagePlan dev size bundle body.length header = plan at hsent hfailed
  have hmark : ctx.dispCmd = plan.mark := by
    rw [BitbltEncodingContext.dispCmd, h.rlemode_eq, ← hplan]
    rfl
  have hfirst : plan.first = header.cmdFlag := by rw [← hplan]; rfl
  have htotal : plan.total = body.length := by rw [← hplan]; rfl
  obtain ⟨rfl, rfl⟩ : plan.size = size ∧ plan.bundle = bundle := by
    rw [← hplan]
    exact ⟨rfl, rfl⟩
  rw [← htotal] at hexhausted
  apply bitbltEncodeCommandHeader_wp h hfirst hmark hirregular
  intro ctx₁ h₁
  rw [imageBody] at hbody
  have hlen : ((header.toBytes dev.host).tail ++ imagePayload dev
      ((rectPixels framebuffer x y right bottom lineWidth).map (cpuToLe16 dev.host))).length ≤
      plan.total := Nat.le_of_eq (by rw [htotal, hbody])
  rw [wp_bind]
  apply wp_mono (encodePixels_wp hlen hirregular hexhausted h₁) (fun _ he => he)
  rw [← hbody]
  intro r g₂ hr
  obtain ⟨c, ok⟩ := r
  cases ok with
  | false =>
      rw [finishImage, wp_bind]
      apply bitbltEncoderCleanup_wp hr
      apply hfailed
      exact
        { held := Or.inl rfl
          failed := hr.failed
          left := fun hreg => Or.inl (hr.filled hreg) }
  | true =>
      have hsettled : Settled dev plan body c.encoderCtx g₂ := hr
      apply bitbltEncoderFlush_wp hsettled
      · intro g₃ hheld hwhole hstream
        apply hsent
        exact
          { held := hheld
            whole := hwhole
            unfailed := fun hreg hlong => (hstream hreg hlong).1
            sent := fun hreg hlong => (hstream hreg hlong).2
            room := fun hreg hlong =>
              (hsettled.stream hreg).length_lt (hsettled.isOpen hreg hlong) }
      · intro g₃ hheld hfail hleft
        apply hfailed
        exact
          { held := hheld
            failed := hfail
            left := fun hreg => Or.inr (hleft hreg) }

/-- **`rpusbdisp_usb_try_send_image`.**  It returns 1 for an empty image or for
one that was sent, and 0 if no tickets were bought or a submission was refused. -/
theorem trySendImage_wp {framebuffer : Int → Pixel} {x y right bottom lineWidth : Int}
    {clearDirty : Bool} {size : Nat} {task : Task} {header : BitbltPacket} {body : List UInt8}
    {Q : Bool → Call → Prop}
    (hheader : header = bitbltHeader dev dev.rlemode x y right bottom clearDirty)
    (hbody : body = imageBody dev header
      ((rectPixels framebuffer x y right bottom lineWidth).map (cpuToLe16 dev.host)))
    (hirregular : ¬ dev.Regular size → ∀ e, F e)
    (htrap : requiredTicketsCount dev (imageSize x y right bottom) dev.rlemode = none → F .oops)
    (hexhausted : ∀ n, requiredTicketsCount dev (imageSize x y right bottom) dev.rlemode = some n →
      n ≤ RPUSBDISP_MAX_TRANSFER_TICKETS_COUNT → n * dev.urbPayload ≤ body.length → F .oops)
    (hempty : imageSize x y right bottom = 0 → Q true (Call.start task))
    (hunsold : Q false (Call.start task))
    (hsent : ∀ n g', ImageSent dev (imagePlan dev size n body.length header) body g' → Q true g')
    (hfailed : ∀ n g', ImageFailed dev (imagePlan dev size n body.length header) g' → Q false g') :
    (trySendImage dev framebuffer x y right bottom lineWidth clearDirty).wp
      (callProtocol dev size) F Q (Call.start task) := by
  unfold trySendImage
  by_cases hzero : imageSize x y right bottom = 0
  · rw [if_pos hzero]
    exact hempty hzero
  · rw [if_neg hzero, wp_bind]
    apply bitbltEncoderInit_wp
    · exact hunsold
    · intro n ctx g' hrequired hmax hfresh
      apply encodeImage_wp hheader hbody hfresh hirregular
      · exact hexhausted n hrequired hmax
      · exact hsent n
      · exact hfailed n
    · exact htrap

end Rules

/-! ## How many tickets are bought -/

/-- The worst case `_bitblt_encoder_init` reckons with: the rest of the command
header, two bytes for a pixel, and in RLE mode one for every 128 begun. -/
def worstCase (rlemode : Bool) (pixelCount : Nat) : Nat :=
  sizeofBitbltPacket - sizeofPacketHeader + 2 * pixelCount +
    if rlemode then (pixelCount + 127) / 128 else 0

/-- How often `b` has to be taken to cover `a`. -/
theorem roundUp_le_iff {a b k : Nat} (hb : 0 < b) : (a + b - 1) / b ≤ k ↔ a ≤ k * b := by
  rw [Nat.div_le_iff_le_mul_add_pred hb, Nat.mul_comm b k]
  omega

/-- **The estimate.**  Within the range of a `size_t`, the tickets bought are the
least number whose packets hold the worst case. -/
theorem requiredTicketsCount_spec {dev : Dev} (rlemode : Bool) {pixelCount : Nat}
    (hpacket : 1 < dev.dispOutEpMaxSize) (hpos : 0 < dev.packetSizeFactor) (hsmall : pixelCount < 2 ^ 32)
    (hmps : dev.dispOutEpMaxSize < 2 ^ 32) (hfactor : dev.packetSizeFactor < 2 ^ 32) :
    ∃ n, requiredTicketsCount dev (2 * pixelCount) rlemode = some n ∧
      ∀ k, n ≤ k ↔ worstCase rlemode pixelCount ≤ k * dev.urbPayload := by
  have hpay : dev.payload = dev.dispOutEpMaxSize - 1 := rfl
  have heffective : sizeSub dev.dispOutEpMaxSize sizeofPacketHeader = dev.payload :=
    sizeSub_of_le (Nat.le_of_lt hpacket)
  have hround : (pixelCount + 127) / 128 ≤ pixelCount + 127 := Nat.div_le_self _ _
  have hworst : (if rlemode then
      sizeAdd (sizeAdd (sizeofBitbltPacket - sizeofPacketHeader) (2 * pixelCount))
        (sizeAdd (2 * pixelCount / 2) 0x7f / 128)
      else sizeAdd (sizeofBitbltPacket - sizeofPacketHeader) (2 * pixelCount)) =
      worstCase rlemode pixelCount := by
    have hhalf : 2 * pixelCount / 2 = pixelCount := by omega
    have hheader : sizeAdd (sizeofBitbltPacket - sizeofPacketHeader) (2 * pixelCount) =
        sizeofBitbltPacket - sizeofPacketHeader + 2 * pixelCount :=
      sizeAdd_of_lt (by simp only [sizeofBitbltPacket, sizeofPacketHeader]; omega)
    rw [hhalf, hheader, worstCase]
    cases rlemode with
    | false => rfl
    | true =>
        rw [if_pos rfl, if_pos rfl, sizeAdd_of_lt (a := pixelCount) (b := 0x7f) (by omega)]
        exact sizeAdd_of_lt (by simp only [sizeofBitbltPacket, sizeofPacketHeader]; omega)
  have hbound : worstCase rlemode pixelCount < 2 ^ 34 := by
    unfold worstCase
    simp only [sizeofBitbltPacket, sizeofPacketHeader]
    split <;> omega
  generalize worstCase rlemode pixelCount = worst at hworst hbound
  have hcount : sizeSub (sizeAdd worst dev.payload) 1 / dev.payload =
      (worst + dev.payload - 1) / dev.payload := by
    rw [sizeAdd_of_lt (by omega), sizeSub_of_le (by omega)]
  have hcountle : (worst + dev.payload - 1) / dev.payload ≤ worst + dev.payload - 1 :=
    Nat.div_le_self _ _
  refine ⟨((worst + dev.payload - 1) / dev.payload + dev.packetSizeFactor - 1) /
    dev.packetSizeFactor, ?_, ?_⟩
  · have hnozero : ¬ (dev.payload = 0 ∨ dev.packetSizeFactor = 0) := by omega
    simp only [requiredTicketsCount, hworst, heffective, hcount, if_neg hnozero]
    generalize (worst + dev.payload - 1) / dev.payload = count at hcountle ⊢
    rw [sizeAdd_of_lt (by omega), sizeSub_of_le (by omega)]
  · intro k
    rw [roundUp_le_iff hpos, roundUp_le_iff (by omega), Dev.urbPayload, Nat.mul_assoc]

/-! ## Which images exhaust their bundle -/

/-- A rectangle on the screen. -/
structure InScreen (x y right bottom : Int) : Prop where
  left : 0 ≤ x
  width : x ≤ right
  right : right < RP_DISP_DEFAULT_WIDTH
  top : 0 ≤ y
  height : y ≤ bottom
  bottom : bottom < RP_DISP_DEFAULT_HEIGHT

/-- A device with bulk packets of `mps` bytes, as `_on_alloc_disp_tickets_pool`
sets it up. -/
def Dev.attached (mps : Nat) (fwver : UInt16) (host : HostOrder) : Dev :=
  { dispOutEpMaxSize := mps
    packetSizeFactor := RPUSBDISP_MAX_TRANSFER_SIZE / mps
    deviceFwver := fwver
    host := host }

/-- Every packet size between a bitblt header and the whole buffer is regular. -/
theorem Dev.attached_regular {mps : Nat} (fwver : UInt16) (host : HostOrder)
    (hlo : sizeofBitbltPacket ≤ mps) (hhi : mps ≤ RPUSBDISP_MAX_TRANSFER_SIZE) :
    (Dev.attached mps fwver host).Regular RPUSBDISP_MAX_TRANSFER_SIZE where
  header_le := hlo
  factor_pos := Nat.div_pos hhi (Nat.lt_of_lt_of_le (by decide) hlo)
  fits := Nat.div_mul_le_self _ _

theorem rectPixels_length (framebuffer : Int → Pixel) (x y right bottom lineWidth : Int) :
    (rectPixels framebuffer x y right bottom lineWidth).length =
      (bottom + 1 - y).toNat * (right + 1 - x).toNat := by
  simp only [rectPixels, rowPixels, List.length_flatMap, List.length_map, List.length_range,
    List.map_const', List.sum_replicate_nat]

/-- On the screen, `image_size` is two bytes for every pixel. -/
theorem imageSize_eq {x y right bottom : Int} (h : InScreen x y right bottom)
    (framebuffer : Int → Pixel) (lineWidth : Int) :
    imageSize x y right bottom = 2 * (rectPixels framebuffer x y right bottom lineWidth).length ∧
      0 < (rectPixels framebuffer x y right bottom lineWidth).length ∧
      (rectPixels framebuffer x y right bottom lineWidth).length ≤
        RP_DISP_DEFAULT_WIDTH * RP_DISP_DEFAULT_HEIGHT := by
  obtain ⟨hleft, hwidth, hright, htop, hheight, hbottom⟩ := h
  simp only [RP_DISP_DEFAULT_WIDTH, RP_DISP_DEFAULT_HEIGHT] at hright hbottom ⊢
  rw [rectPixels_length]
  obtain ⟨w, hw⟩ : ∃ w : Nat, right + 1 - x = w := ⟨(right + 1 - x).toNat, by omega⟩
  obtain ⟨v, hv⟩ : ∃ v : Nat, bottom + 1 - y = v := ⟨(bottom + 1 - y).toNat, by omega⟩
  have hprod : v * w ≤ 240 * 320 := Nat.mul_le_mul (by omega) (by omega)
  have hsize : (right - x + 1) * (bottom - y + 1) * (RP_DISP_DEFAULT_PIXEL_BITS / 8 : Nat) =
      ((2 * (v * w) : Nat) : Int) := by
    have hw' : right - x + 1 = w := by omega
    have hv' : bottom - y + 1 = v := by omega
    rw [hw', hv', Int.natCast_mul, Int.natCast_mul, Int.mul_comm (w : Int) v, Int.mul_comm]
    rfl
  rw [hw, hv, Int.toNat_natCast, Int.toNat_natCast]
  refine ⟨?_, Nat.mul_pos (by omega) (by omega), by omega⟩
  rw [imageSize, hsize, sizeOfInt_of_lt (by omega)]

/-- **At most ten.**  Whatever the packet size, an image on the screen needs between
one and ten tickets, unless the estimate divides by zero. -/
theorem Dev.attached_required {mps : Nat} (fwver : UInt16) (host : HostOrder) (rlemode : Bool)
    {x y right bottom : Int} (hin : InScreen x y right bottom) :
    requiredTicketsCount (.attached mps fwver host) (imageSize x y right bottom) rlemode = none ∨
      ∃ n, requiredTicketsCount (.attached mps fwver host) (imageSize x y right bottom) rlemode =
        some n ∧ 0 < n ∧ n ≤ RPUSBDISP_MAX_TRANSFER_TICKETS_COUNT := by
  obtain ⟨hsize, hpos, hmax⟩ := imageSize_eq hin (fun _ => 0) 320
  generalize (rectPixels (fun _ => 0) x y right bottom 320).length = pixelCount at hsize hpos hmax
  simp only [RP_DISP_DEFAULT_WIDTH, RP_DISP_DEFAULT_HEIGHT] at hmax
  rw [hsize]
  by_cases htrap : mps ≤ 1 ∨ RPUSBDISP_MAX_TRANSFER_SIZE < mps
  · left
    have hdivide : sizeSub mps sizeofPacketHeader = 0 ∨ RPUSBDISP_MAX_TRANSFER_SIZE / mps = 0 := by
      rcases htrap with hsmall | hlarge
      · rcases Nat.le_one_iff_eq_zero_or_eq_one.mp hsmall with rfl | rfl
        · exact Or.inr (Nat.div_zero _)
        · exact Or.inl (by decide)
      · exact Or.inr (Nat.div_eq_of_lt hlarge)
    exact if_pos hdivide
  · right
    have hfits : RPUSBDISP_MAX_TRANSFER_SIZE = 65024 := rfl
    rw [not_or, hfits] at htrap
    obtain ⟨n, hrequired, hleast⟩ := requiredTicketsCount_spec rlemode
      (show 1 < (Dev.attached mps fwver host).dispOutEpMaxSize from Nat.lt_of_not_le htrap.1)
      (Nat.div_pos (by omega) (by omega)) (show pixelCount < 2 ^ 32 by omega)
      (show mps < 2 ^ 32 by omega) (Nat.lt_of_le_of_lt (Nat.div_le_self _ _) (by decide))
    refine ⟨n, hrequired, ?_, ?_⟩
    · rw [Nat.pos_iff_ne_zero]
      intro hzero
      have hworst := (hleast 0).mp (by omega)
      rw [Nat.zero_mul] at hworst
      unfold worstCase at hworst
      omega
    · rw [hleast]
      -- half of what a URB takes is payload, and a URB takes more than half a buffer
      have hpayload : (Dev.attached mps fwver host).urbPayload = 65024 / mps * (mps - 1) := rfl
      have hfactor : 1 ≤ 65024 / mps := Nat.div_pos (by omega) (by omega)
      have hbuffer := Nat.lt_mul_div_succ 65024 (show 0 < mps by omega)
      generalize 65024 / mps = factor at hpayload hfactor hbuffer
      obtain ⟨payload, rfl⟩ : ∃ payload, mps = payload + 1 := ⟨mps - 1, by omega⟩
      have hpacket : factor ≤ factor * payload := Nat.le_mul_of_pos_right factor (by omega)
      have hsmaller : payload + 1 ≤ (payload + 1) * factor := Nat.le_mul_of_pos_right _ hfactor
      have hround : (pixelCount + 127) / 128 ≤ 600 := by omega
      have hprod : (payload + 1) * factor = factor * payload + factor := by
        rw [Nat.mul_comm, Nat.mul_succ]
      have hworst : worstCase rlemode pixelCount ≤ 154209 := by
        unfold worstCase
        simp only [sizeofBitbltPacket, sizeofPacketHeader]
        split <;> omega
      have hurb : 16257 ≤ factor * payload := by
        rw [Nat.mul_succ] at hbuffer
        omega
      rw [hpayload, Nat.add_sub_cancel]
      simp only [RPUSBDISP_MAX_TRANSFER_TICKETS_COUNT]
      omega

/-- An image whose encoding is as long as the worst case. -/
def Incompressible (pixels : List Pixel) : Prop :=
  totalCost (encode 128 reopenLiteral pixels) = 2 * pixels.length + (pixels.length + 127) / 128

instance (pixels : List Pixel) : Decidable (Incompressible pixels) :=
  inferInstanceAs (Decidable (_ = _))

/-- An image that fills every packet of a bundle the driver is willing to buy:
the worst case is a whole number of URBs, at most ten, and the image is no
shorter than the worst case. -/
structure Dev.Exhausts (dev : Dev) (pixels : List Pixel) : Prop where
  whole : dev.urbPayload ∣ worstCase dev.rlemode pixels.length
  bought : worstCase dev.rlemode pixels.length ≤
    RPUSBDISP_MAX_TRANSFER_TICKETS_COUNT * dev.urbPayload
  incompressible : dev.rlemode = true → Incompressible pixels

/-- The body of an image is at most its worst case, and equal to it exactly when
nothing was saved. -/
theorem imageBody_length (dev : Dev) (header : BitbltPacket) (pixels : List Pixel) :
    (imageBody dev header pixels).length ≤ worstCase dev.rlemode pixels.length ∧
      ((imageBody dev header pixels).length = worstCase dev.rlemode pixels.length ↔
        (dev.rlemode = true → Incompressible pixels)) := by
  have hheader : (header.toBytes dev.host).tail.length = sizeofBitbltPacket - sizeofPacketHeader := by
    rw [List.length_tail, header.toBytes_length]
    rfl
  rw [imageBody, List.length_append, hheader, imagePayload, worstCase, Incompressible]
  cases dev.rlemode with
  | false =>
      have hlen := flatMap_store16_length dev.host pixels
      simp only [Bool.false_eq_true, if_false, hlen]
      constructor
      · omega
      · constructor
        · intro _ hfalse
          exact hfalse.elim
        · intro _
          omega
  | true =>
      have hle := rleBytes_length_le dev.host pixels
      have hlen : (rleBytes dev.host pixels).length = totalCost (encode 128 reopenLiteral pixels) :=
        flatMap_sectionBytes_length dev.host _
      simp only [if_true]
      rw [hlen] at hle ⊢
      constructor
      · omega
      · constructor
        · intro heq _
          omega
        · intro hinc
          have := hinc trivial
          omega

/-- An image of one colour costs three bytes for every 128 pixels begun. -/
theorem imageBody_constant_lt {dev : Dev} (hmode : dev.rlemode = true) (header : BitbltPacket)
    (color : Pixel) {x y right bottom lineWidth : Int} {n : Nat}
    (hn : (bottom + 1 - y).toNat * (right + 1 - x).toNat = n + 1) {room : Nat}
    (hroom : sizeofBitbltPacket - sizeofPacketHeader + 3 * (n / 128 + 1) < room) :
    (imageBody dev header
      ((rectPixels (fun _ => color) x y right bottom lineWidth).map (cpuToLe16 dev.host))).length <
      room := by
  have hpixels : rectPixels (fun _ => color) x y right bottom lineWidth =
      List.replicate (n + 1) color := by
    rw [List.eq_replicate_iff]
    refine ⟨(rectPixels_length _ x y right bottom lineWidth).trans hn, fun p hp => ?_⟩
    obtain ⟨_, _, hp⟩ := List.mem_flatMap.mp hp
    obtain ⟨_, _, rfl⟩ := List.mem_map.mp hp
    rfl
  obtain ⟨k, hk, hcost⟩ :=
    encode_replicate_cost (show 3 ≤ 128 by decide) (cpuToLe16 dev.host color) n
  have hkle : k ≤ n / 128 := (Nat.le_div_iff_mul_le (by decide)).mpr (by omega)
  have hlen : (rleBytes dev.host (List.replicate (n + 1) (cpuToLe16 dev.host color))).length =
      3 * (k + 1) := (flatMap_sectionBytes_length dev.host _).trans hcost
  rw [imageBody, imagePayload, hmode, if_pos rfl, hpixels, List.map_replicate,
    List.length_append, List.length_tail, header.toBytes_length, hlen]
  simp only [sizeofBitbltPacket, sizeofPacketHeader] at hroom ⊢
  omega

/-- The answers of a generous environment: the device is alive, every sale is made
in full and no submission is refused. -/
def generousReply (dev : Dev) (size : Nat) : (o : UsbOp) → o.Res
  | .isAlive => true
  | .sellTickets n => some (List.replicate n
      { id := 0
        transferUrb :=
          { transferBuffer := List.replicate size 0
            transferBufferLength := dev.packetSizeFactor * dev.dispOutEpMaxSize
            status := 0 } })
  | .returnTicket _ => false
  | .submitUrb _ _ => .submitted
  | .setUnsyncFlag => ()
  | .scheduleCompletionWork => ()

/-- The protocol with a generous environment. -/
def generousProtocol (dev : Dev) (size : Nat) : Protocol UsbOp UsbOp.Res Call where
  pre := (callProtocol dev size).pre
  answer _ o r := r = generousReply dev size o
  track := Call.track

theorem generousReply_allowed (dev : Dev) (size : Nat) (g : Call) (o : UsbOp) :
    (callProtocol dev size).answer g o (generousReply dev size o) := by
  cases o with
  | sellTickets n =>
      intro ts hts
      rw [← Option.some.inj hts]
      refine ⟨List.length_replicate, fun t ht => ?_⟩
      rw [List.eq_of_mem_replicate ht]
      exact ⟨List.length_replicate, rfl⟩
  | _ => trivial

/-- Where no submission is refused, none has failed. -/
theorem generous_unfailed (dev : Dev) (size : Nat) (g : Call) (o : UsbOp) (r : o.Res)
    (h : (generousProtocol dev size).answer g o r) :
    ((generousProtocol dev size).track g o r).failed = g.failed := by
  rw [show r = generousReply dev size o from h]
  cases o <;> rfl

section Exhausted

variable {dev : Dev} {size : Nat} {framebuffer : Int → Pixel}
  {x y right bottom lineWidth : Int} {clearDirty : Bool} {task : Task} {pixels : List Pixel}

/-- An image as long as its bundle makes a generous environment run into the
assertion: the call can neither return 1, for lack of room, nor 0, for lack of a
refusal. -/
theorem encodeImage_exhausted {bundle : Nat} {ctx : BitbltEncodingContext} {g : Call}
    (hreg : dev.Regular size)
    (hpixels : pixels =
      (rectPixels framebuffer x y right bottom lineWidth).map (cpuToLe16 dev.host))
    (hne : pixels ≠ []) (h : Fresh dev size bundle dev.rlemode ctx g)
    (hfull : bundle * dev.urbPayload ≤ (imageBody dev
      (bitbltHeader dev dev.rlemode x y right bottom clearDirty) pixels).length) :
    ¬ (encodeImage dev framebuffer x y right bottom lineWidth clearDirty ctx).Safe
      (callProtocol dev size) g := by
  intro hsafe
  have hlong : BodyNonempty (imageBody dev
      (bitbltHeader dev dev.rlemode x y right bottom clearDirty) pixels) :=
    bodyNonempty_of_pixels _ hne
  have hspec : (encodeImage dev framebuffer x y right bottom lineWidth clearDirty ctx).wp
      (callProtocol dev size) (fun e => e = .oops) (fun _ g' => g'.failed = true) g := by
    apply encodeImage_wp rfl rfl h
    · exact fun hirregular => absurd hreg hirregular
    · exact fun _ => rfl
    · intro g' hsent
      rw [← hpixels] at hsent
      exact absurd (hsent.room hreg hlong) (Nat.not_lt.mpr hfull)
    · exact fun g' hfailed => hfailed.failed
  have hrestrict : ∀ {F : Fault → Prop} {Q : Bool → Call → Prop}
      (_ : (encodeImage dev framebuffer x y right bottom lineWidth clearDirty ctx).wp
        (callProtocol dev size) F Q g),
      (encodeImage dev framebuffer x y right bottom lineWidth clearDirty ctx).wp
        (generousProtocol dev size) F Q g := by
    intro F Q hwp
    apply wp_restrict hwp
    · exact fun _ _ hpre => hpre
    · intro g' o r _ hr
      rw [show r = generousReply dev size o from hr]
      exact generousReply_allowed dev size g' o
    · exact fun _ _ _ => rfl
  have hkeep := wp_keeps Call.failed (generous_unfailed dev size) (hrestrict hspec)
  have hnone := wp_and hkeep (hrestrict hsafe)
  rcases wp_eval (fun _ _ _ => rfl) hnone with ⟨_, g', _, ⟨hfailed, hsame⟩, _⟩ | ⟨_, _, _, _, hf⟩
  · rw [hfailed, h.unfailed] at hsame
    cases hsame
  · exact hf

/-- **The bundle and its assertion.**  On a regular device the call is safe for
exactly the images that do not fill every packet of their bundle. -/
theorem trySendImage_safe_iff (hreg : dev.Regular size) (hmps : dev.dispOutEpMaxSize < 2 ^ 32)
    (hfactor : dev.packetSizeFactor < 2 ^ 32) (hin : InScreen x y right bottom)
    (hpixels : pixels =
      (rectPixels framebuffer x y right bottom lineWidth).map (cpuToLe16 dev.host)) :
    (trySendImage dev framebuffer x y right bottom lineWidth clearDirty).Safe
      (callProtocol dev size) (Call.start task) ↔ ¬ dev.Exhausts pixels := by
  obtain ⟨hsize, hpos, hmax⟩ := imageSize_eq hin framebuffer lineWidth
  have hlen : pixels.length = (rectPixels framebuffer x y right bottom lineWidth).length := by
    rw [hpixels, List.length_map]
  rw [← hlen] at hsize hpos hmax
  simp only [RP_DISP_DEFAULT_WIDTH, RP_DISP_DEFAULT_HEIGHT] at hmax
  have hsmall : pixels.length < 2 ^ 32 := by omega
  obtain ⟨n, hrequired, hleast⟩ := requiredTicketsCount_spec dev.rlemode
    (Nat.lt_of_lt_of_le (by decide) hreg.header_le) hreg.factor_pos hsmall hmps hfactor
  rw [← hsize] at hrequired
  obtain ⟨hbodyle, hbodyeq⟩ := imageBody_length dev
    (bitbltHeader dev dev.rlemode x y right bottom clearDirty) pixels
  have henough : worstCase dev.rlemode pixels.length ≤ n * dev.urbPayload :=
    (hleast n).mp (Nat.le_refl n)
  have hzero : imageSize x y right bottom ≠ 0 := by omega
  constructor
  · intro hsafe h
    obtain ⟨⟨q, hq⟩, hbought, hincompressible⟩ := h
    -- a whole number of URBs is bought without any to spare
    have hexact : n * dev.urbPayload = worstCase dev.rlemode pixels.length := by
      apply Nat.le_antisymm _ henough
      rw [hq, Nat.mul_comm dev.urbPayload q]
      apply Nat.mul_le_mul_right
      exact (hleast q).mpr (Nat.le_of_eq (by rw [hq, Nat.mul_comm]))
    have hnpos : 0 < n := by
      have hworst : 0 < worstCase dev.rlemode pixels.length :=
        Nat.lt_of_lt_of_le (by decide) (Nat.le_trans (Nat.le_add_right 9 _) (Nat.le_add_right _ _))
      by_contra hn
      rw [Nat.eq_zero_of_not_pos hn, Nat.zero_mul] at hexact
      omega
    have hrest : ∃ ctx g', Fresh dev size n dev.rlemode ctx g' ∧
        (encodeImage dev framebuffer x y right bottom lineWidth clearDirty ctx).Safe
          (callProtocol dev size) g' := by
      unfold trySendImage Prog.Safe at hsafe
      rw [if_neg hzero] at hsafe
      exact bitbltEncoderInit_reaches hsafe hrequired hnpos ((hleast _).mpr hbought)
    obtain ⟨ctx, g', hfresh, hsafe'⟩ := hrest
    refine encodeImage_exhausted hreg hpixels (List.length_pos_iff.mp hpos) hfresh ?_ hsafe'
    exact Nat.le_of_eq (by rw [hexact, hbodyeq.mpr hincompressible])
  · intro hspare
    apply trySendImage_wp rfl rfl
    · exact fun hirregular => absurd hreg hirregular
    · intro hnone
      rw [hrequired] at hnone
      cases hnone
    · intro m hm hten hlong
      rw [← hpixels] at hlong
      have hmn : n = m := Option.some.inj (hrequired.symm.trans hm)
      subst hmn
      have hexact : worstCase dev.rlemode pixels.length = n * dev.urbPayload := by omega
      apply hspare
      refine ⟨⟨n, ?_⟩, ?_, hbodyeq.mp (by omega)⟩
      · rw [hexact, Nat.mul_comm]
      · rw [hexact]
        exact Nat.mul_le_mul_right _ hten
    · exact fun _ => trivial
    · trivial
    · exact fun _ _ _ => trivial
    · exact fun _ _ _ => trivial

end Exhausted

/-- **When the tickets bought suffice.**  For every packet size a bitblt header
fits, every rectangle on the screen and every content, in either mode: the call
never runs out of tickets, whatever the pool and the USB core answer, exactly if
the image does not fill all packets of its bundle. -/
theorem bundle_suffices_iff {mps : Nat} (hlo : sizeofBitbltPacket ≤ mps)
    (hhi : mps ≤ RPUSBDISP_MAX_TRANSFER_SIZE) (fwver : UInt16) (host : HostOrder)
    (framebuffer : Int → Pixel) {x y right bottom : Int} (hin : InScreen x y right bottom)
    (lineWidth : Int) (clearDirty : Bool) :
    (trySendImage (.attached mps fwver host) framebuffer x y right bottom lineWidth clearDirty).Safe
        (callProtocol (.attached mps fwver host) RPUSBDISP_MAX_TRANSFER_SIZE)
        (Call.start (.command (.sendImage framebuffer x y right bottom lineWidth clearDirty))) ↔
      ¬ (Dev.attached mps fwver host).Exhausts
        ((rectPixels framebuffer x y right bottom lineWidth).map (cpuToLe16 host)) := by
  have hmax : RPUSBDISP_MAX_TRANSFER_SIZE = 65024 := rfl
  apply trySendImage_safe_iff (Dev.attached_regular fwver host hlo hhi)
  · show mps < 2 ^ 32
    omega
  · exact Nat.lt_of_le_of_lt (Nat.div_le_self _ _) (by decide)
  · exact hin
  · rfl

/-- A full screen in packets of 64 bytes leaves room in its last ticket. -/
theorem screen_spares (framebuffer : Int → Pixel) (fwver : UInt16) (host : HostOrder) :
    ¬ (Dev.attached 64 fwver host).Exhausts
      ((rectPixels framebuffer 0 0 319 239 320).map (cpuToLe16 host)) := by
  intro hexhausts
  have hwhole : RPUSBDISP_MAX_TRANSFER_SIZE / 64 * (64 - sizeofPacketHeader) ∣ _ := hexhausts.whole
  rw [List.length_map, rectPixels_length] at hwhole
  generalize (Dev.attached 64 fwver host).rlemode = rlemode at hwhole
  cases rlemode with
  | true => exact absurd hwhole (by decide)
  | false => exact absurd hwhole (by decide)

/-- A screen on which neighbouring pixels differ. -/
def gradient (i : Int) : Pixel := .ofNat i.toNat

/-- It takes three tickets. -/
theorem bundle_suffices_screen :
    requiredTicketsCount (.attached 64 0x0104 .little) (imageSize 0 0 319 239) true = some 3 ∧
      (trySendImage (.attached 64 0x0104 .little) gradient 0 0 319 239 320 true).Safe
        (callProtocol (.attached 64 0x0104 .little) RPUSBDISP_MAX_TRANSFER_SIZE)
        (Call.start (.command (.sendImage gradient 0 0 319 239 320 true))) := by
  refine ⟨by decide, ?_⟩
  refine (bundle_suffices_iff (by decide) (by decide) 0x0104 .little gradient
    ⟨by decide, by decide, by decide, by decide, by decide, by decide⟩ 320 true).mpr ?_
  exact screen_spares gradient 0x0104 .little

/-- With packets of 1024 bytes and no run-length encoding, 180 by 179 pixels fill
the 63 packets of one ticket to the last byte. -/
theorem bundle_exhausted :
    ¬ (trySendImage (.attached 1024 0x0103 .little) (fun _ => 0) 0 0 179 178 320 false).Safe
      (callProtocol (.attached 1024 0x0103 .little) RPUSBDISP_MAX_TRANSFER_SIZE)
      (Call.start (.command (.sendImage (fun _ => 0) 0 0 179 178 320 false))) := by
  have hin : InScreen 0 0 179 178 :=
    ⟨by decide, by decide, by decide, by decide, by decide, by decide⟩
  have hreg : (Dev.attached 1024 0x0103 .little).Regular RPUSBDISP_MAX_TRANSFER_SIZE :=
    Dev.attached_regular 0x0103 .little (by decide) (by decide)
  rw [trySendImage_safe_iff hreg (by decide) (by decide) hin rfl]
  have hworst : worstCase (Dev.attached 1024 0x0103 .little).rlemode
      ((rectPixels (fun _ => 0) 0 0 179 178 320).map (cpuToLe16 .little)).length =
      (Dev.attached 1024 0x0103 .little).urbPayload := by
    rw [List.length_map, rectPixels_length]
    rfl
  intro hspare
  apply hspare
  constructor
  · exact ⟨1, hworst⟩
  · show worstCase _ _ ≤ _
    rw [show cpuToLe16 (Dev.attached 1024 0x0103 .little).host = cpuToLe16 .little from rfl, hworst]
    decide
  · intro hmode
    exact absurd hmode (by decide)

end RpUsbDisp
