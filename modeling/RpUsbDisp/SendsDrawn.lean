import RpUsbDisp.Conversations
import RpUsbDisp.FillRect
import RpUsbDisp.Packetisers
import RpUsbDisp.Receiver
import RpUsbDisp.TicketPool

/-!
# The driver's commands reach the display

A call of the driver that does not get all its URBs submitted has sent a beginning of its
command: the encoder stops at the first refusal, and the URBs before the last one are full
(`Command.paces`).  So it is a row of whole packets that the display gets
(`Sending.packets_prefix`), and the display makes the command of it or nothing.

Whatever the pool and the USB core answer, the display draws the commands of the calls that
succeeded, in their order, and of the others those that were complete already
(`sends_drawn`).  An image of several URBs can break off at the last one, and then
nothing of it is drawn (`exists_image_broken`).
-/

namespace RpUsbDisp

open Programs Framing RunLength

section Pacing

/-! ## The URBs of a call -/

/-- The operations that put bytes on the bus. -/
def Submits : UsbOp → Prop
  | .submitUrb _ _ => True
  | _ => False

/-- URBs are full but for the last one.  The ghost state is whether the last one went out or one was
refused; after that there is none. -/
def pacingProtocol (dev : Dev) (size : Nat) : Protocol UsbOp UsbOp.Res Prop where
  pre closed
    | .submitUrb site t => ¬ closed ∧ (site = .fullUrb → t.Ready dev size)
    | _ => True
  answer _
    | .sellTickets n, r => ∀ ts, r = some ts → ts.length = n ∧ ∀ t ∈ ts, t.Ready dev size
    | _, _ => True
  track closed
    | .submitUrb .fullUrb _, .submitted => closed
    | .submitUrb _ _, _ => True
    | _, _ => closed

/-- A refusal closes the call. -/
theorem pacingProtocol_closing (dev : Dev) (size : Nat) :
    (pacingProtocol dev size).Closing Accepted Submits where
  quiet := by
    intro closed o hpre hclosed
    cases o with
    | submitUrb site t => exact absurd hclosed hpre.1
    | _ => exact id
  stays := by
    intro closed o r hclosed
    cases o with
    | submitUrb site t => cases site <;> cases r <;> first | exact hclosed | trivial
    | _ => exact hclosed
  refused := by
    intro closed o r hrefused
    cases o with
    | submitUrb site t =>
        cases r with
        | submitted => exact absurd rfl hrefused
        | refused status => cases site <;> trivial
    | _ => exact absurd trivial hrefused

/-- The program keeps to it. -/
abbrev Paces {α : Type} (dev : Dev) (size : Nat) (p : UsbProg α) (Q : α → Prop → Prop)
    (closed : Prop) : Prop :=
  p.wp (pacingProtocol dev size) (fun _ => True) Q closed

/-- An encoder that may submit, with tickets that take full URBs. -/
structure Going (dev : Dev) (size : Nat) (ctx : BitbltEncodingContext) (closed : Prop) : Prop where
  unclosed : ¬ closed
  ready : ctx.ticket.Ready dev size
  rest : ∀ t ∈ ctx.later, t.Ready dev size

/-- A loop that goes on only as long as nothing was refused. -/
abbrev GoesOn (dev : Dev) (size : Nat) : BitbltEncodingContext × Bool → Prop → Prop :=
  Went (Going dev size) fun _ _ => True

variable {dev : Dev} {size : Nat} {closed : Prop} {α β : Type} {Q : β → Prop → Prop}

theorem Paces.bind {p : UsbProg α} {f : α → UsbProg β} {Q' : α → Prop → Prop}
    (h : Paces dev size p Q' closed)
    (hf : ∀ a closed, Q' a closed → Paces dev size (f a) Q closed) :
    Paces dev size (p >>= f) Q closed :=
  wp_bind.mpr (wp_mono h (fun _ _ => trivial) hf)

/-- Writing does not change what a ticket is. -/
theorem paces_storeBuffer_bind {t : Ticket} {pos : Nat} {bytes : List UInt8} {f : Ticket → UsbProg β}
    (ht : t.Ready dev size) (hf : ∀ t : Ticket, t.Ready dev size → Paces dev size (f t) Q closed) :
    Paces dev size (storeBuffer t pos bytes >>= f) Q closed := by
  unfold storeBuffer
  cases hstore : writeAt t.transferUrb.transferBuffer pos bytes with
  | none => trivial
  | some buffer => exact hf _ ⟨(writeAt_length hstore).trans ht.room_eq, ht.length_eq⟩

/-- Tickets go back without a submission. -/
theorem paces_returnAll (ts : List Ticket) :
    Paces dev size (returnAll ts) (fun _ _ => True) closed := by
  induction ts with
  | nil => trivial
  | cons t ts ih => exact wp_ask_bind.mpr ⟨trivial, fun _ _ => ih⟩

/-- And so does a refused one. -/
theorem paces_onDisplayTransferFinished (t : Ticket) :
    Paces dev size (onDisplayTransferFinished dev t) (fun _ _ => True) closed := by
  have hreturn : Paces dev size (do
      let allFinished ← returnDispTickets
        (t.setLength (dev.packetSizeFactor * dev.dispOutEpMaxSize))
      if allFinished = true ∧ t.transferUrb.status = 0 then
        scheduleCompletionWork : UsbProg Unit) (fun _ _ => True) closed := by
    refine wp_ask_bind.mpr ⟨trivial, fun allFinished _ => ?_⟩
    split
    · exact ⟨trivial, fun _ _ => trivial⟩
    · trivial
  unfold onDisplayTransferFinished
  by_cases hstatus : t.transferUrb.status = 0
  · rw [if_neg (fun hne => hne hstatus)]
    exact hreturn
  · rw [if_pos hstatus]
    refine wp_ask_bind.mpr ⟨trivial, fun alive _ => ?_⟩
    cases alive with
    | false => exact hreturn
    | true => exact wp_ask_bind.mpr ⟨trivial, fun _ _ => hreturn⟩

/-- A sale sends nothing and hands out tickets that take full URBs. -/
theorem paces_sell_bind {n : Nat} {f : Option (List Ticket) → UsbProg β}
    (hnone : Paces dev size (f none) Q closed)
    (hsome : ∀ ts : List Ticket, (∀ t ∈ ts, t.Ready dev size) → Paces dev size (f (some ts)) Q closed) :
    Paces dev size (sellDispTickets n >>= f) Q closed := by
  unfold sellDispTickets
  rw [Prog.bind_assoc]
  refine wp_ask_bind.mpr ⟨trivial, fun alive _ => ?_⟩
  cases alive with
  | false => exact hnone
  | true =>
      by_cases hn : n = 0
      · rw [if_pos rfl, if_pos hn]
        exact hnone
      · rw [if_pos rfl, if_neg hn]
        refine wp_ask_bind.mpr ⟨trivial, fun r hr => ?_⟩
        cases r with
        | none => exact hnone
        | some ts => exact hsome ts (hr ts rfl).2

theorem paces_encodePacketHeader {ctx : BitbltEncodingContext} (h : Going dev size ctx closed) :
    Paces dev size (encodePacketHeader ctx) (Going dev size) closed :=
  paces_storeBuffer_bind h.ready fun _ ht => ⟨h.unclosed, ht, h.rest⟩

theorem paces_bitbltEncodeCommandHeader {ctx : BitbltEncodingContext} (header : BitbltPacket)
    (h : Going dev size ctx closed) :
    Paces dev size (bitbltEncodeCommandHeader dev ctx header) (Going dev size) closed :=
  paces_storeBuffer_bind h.ready fun _ ht => ⟨h.unclosed, ht, h.rest⟩

theorem paces_encodeNextPacket {ctx : BitbltEncodingContext} (h : Going dev size ctx closed) :
    Paces dev size (encodeNextPacket dev ctx) (GoesOn dev size) closed := by
  unfold encodeNextPacket
  simp only []
  split
  · refine wp_ask_bind.mpr ⟨⟨h.unclosed, fun _ => h.ready⟩, fun r _ => ?_⟩
    cases r with
    | refused status => exact (paces_onDisplayTransferFinished _).bind fun _ _ _ => trivial
    | submitted =>
        simp only []
        split
        · trivial
        · rename_i ticket later hnode
          have hlater : ctx.later = ticket :: later := hnode
          have hready := h.rest
          rw [hlater] at hready
          have hnext : Going dev size { ctx with
              ticket := ticket, later := later, advanced := false, packetPos := 0, urbbuffer := 0 }
              closed :=
            ⟨h.unclosed, hready ticket List.mem_cons_self,
              fun t ht => hready t (List.mem_cons_of_mem ticket ht)⟩
          exact (paces_encodePacketHeader hnext).bind fun _ _ h => h
  · have hnext : Going dev size { ctx with
        urbbuffer := ctx.urbbuffer + dev.dispOutEpMaxSize, packetPos := ctx.packetPos + 1 } closed :=
      ⟨h.unclosed, h.ready, h.rest⟩
    exact (paces_encodePacketHeader hnext).bind fun _ _ h => h

theorem paces_encodeLoop (fuel : Nat) {ctx : BitbltEncodingContext} {data : List UInt8}
    (h : Going dev size ctx closed) :
    Paces dev size (encodeLoop dev fuel ctx data) (GoesOn dev size) closed := by
  induction fuel generalizing ctx data closed with
  | zero =>
      cases data with
      | nil => exact h
      | cons b bs => trivial
  | succ fuel ih =>
      cases data with
      | nil => exact h
      | cons b bs =>
          unfold encodeLoop
          simp only []
          generalize (if _ > sizeSub dev.dispOutEpMaxSize ctx.encodedPos then _ else _) = sizeToCopy
          apply paces_storeBuffer_bind h.ready
          intro t ht
          have hcopied : Going dev size { ctx with
              ticket := t, encodedPos := ctx.encodedPos + sizeToCopy } closed :=
            ⟨h.unclosed, ht, h.rest⟩
          split
          · refine (paces_encodeNextPacket hcopied).bind fun r still hr => ?_
            obtain ⟨c, ok⟩ := r
            cases ok with
            | false => trivial
            | true => exact ih hr
          · exact ih hcopied

/-- The encoder is a sink for the pixels, in either mode. -/
theorem paces_accepts (total : List UInt8) :
    Accepts (pacingProtocol dev size) (fun _ => True) (fun _ => Going dev size) (fun _ _ => True) total
      (bitbltEncodeNTransferData dev) :=
  fun _ _ _ _ _ h => paces_encodeLoop _ h

theorem paces_encodePixels (pixels : List Pixel) {ctx : BitbltEncodingContext}
    (h : Going dev size ctx closed) :
    Paces dev size (encodePixels dev pixels (rleCompressInit (List.replicate 128 0) ctx))
      (Went (fun c => Going dev size c.encoderCtx) fun _ _ => True) closed := by
  unfold encodePixels
  split
  · have hstart : RleState (fun _ => Going dev size) [] none
        (rleCompressInit (List.replicate 128 0) ctx) closed :=
      ⟨h, List.length_replicate, rfl, rfl⟩
    apply wp_mono (rleCompressAll_wp (paces_accepts _) hstart) (fun _ _ => trivial)
    intro r still hr
    obtain ⟨c, ok⟩ := r
    cases ok with
    | false => trivial
    | true => exact hr.sunk
  · rename_i hmode
    apply wp_feed fun (_ : List Pixel) (c : RleEncoderContext BitbltEncodingContext) =>
      Going dev size c.encoderCtx
    · intro done p rest c still _ hdone
      unfold sendPixel
      rw [if_neg hmode]
      refine Paces.bind (paces_encodeLoop _ hdone) fun r still hr => ?_
      obtain ⟨ctx, ok⟩ := r
      cases ok with
      | false => trivial
      | true => exact hr
    · exact h

theorem paces_finishImage {r : RleEncoderContext BitbltEncodingContext × Bool}
    (h : Went (fun c => Going dev size c.encoderCtx) (fun _ _ => True) r closed) :
    Paces dev size (finishImage dev r) (fun _ _ => True) closed := by
  obtain ⟨c, ok⟩ := r
  cases ok with
  | false => exact (paces_returnAll _).bind fun _ _ _ => trivial
  | true =>
      have hgoing : Going dev size c.encoderCtx closed := h
      unfold finishImage bitbltEncoderFlush
      simp only []
      split
      · refine wp_ask_bind.mpr ⟨⟨hgoing.unclosed, fun hsite => by cases hsite⟩, fun r _ => ?_⟩
        cases r with
        | refused status => exact (paces_onDisplayTransferFinished _).bind fun _ _ _ => trivial
        | submitted => exact (paces_returnAll _).bind fun _ _ _ => trivial
      · exact (paces_returnAll _).bind fun _ _ _ => trivial

theorem paces_trySendImage (framebuffer : Int → Pixel) (x y right bottom lineWidth : Int)
    (clearDirty : Bool) :
    Paces dev size (trySendImage dev framebuffer x y right bottom lineWidth clearDirty)
      (fun _ _ => True) False := by
  unfold trySendImage
  split
  · trivial
  · unfold bitbltEncoderInit
    split
    · trivial
    · split
      · trivial
      · rw [Prog.bind_assoc]
        apply paces_sell_bind
        · trivial
        · intro ts hready
          match ts with
          | [] => trivial
          | ticket :: later =>
              show Paces dev size (encodeImage dev framebuffer x y right bottom lineWidth clearDirty _)
                _ _
              rw [encodeImage_eq]
              generalize bitbltHeader dev dev.rlemode x y right bottom clearDirty = header
              generalize (rectPixels framebuffer x y right bottom lineWidth).map
                (cpuToLe16 dev.host) = pixels
              have hgoing : Going dev size
                  { ticket := ticket, later := later, advanced := false, encodedPos := 0,
                    packetPos := 0, urbbuffer := 0, rlemode := dev.rlemode } False :=
                ⟨id, hready ticket List.mem_cons_self,
                  fun t ht => hready t (List.mem_cons_of_mem ticket ht)⟩
              refine (paces_bitbltEncodeCommandHeader header hgoing).bind fun ctx still hctx => ?_
              exact (paces_encodePixels pixels hctx).bind fun r still hr => paces_finishImage hr

theorem paces_trySingle {site : SubmitSite} {sizeofPacket length : Nat} {packet : List UInt8}
    (hsite : site ≠ .fullUrb) :
    Paces dev size (trySingle dev site sizeofPacket length packet) (fun _ _ => True) False := by
  unfold trySingle
  apply paces_sell_bind
  · trivial
  · intro ts hready
    refine wp_bugOn_bind.mpr ⟨fun _ => trivial, fun _ => ?_⟩
    match ts with
    | [] => trivial
    | ticket :: _ =>
        apply paces_storeBuffer_bind (hready ticket List.mem_cons_self)
        intro t ht
        refine wp_ask_bind.mpr ⟨⟨id, fun heq => absurd heq hsite⟩, fun r _ => ?_⟩
        cases r with
        | submitted => trivial
        | refused status => exact (paces_onDisplayTransferFinished _).bind fun _ _ _ => trivial

/-- **Every command** sends full URBs but for the last one, and none after a refusal. -/
theorem Command.paces (c : Command) : Paces dev size (c.prog dev) (fun _ _ => True) False := by
  cases c with
  | sendImage framebuffer x y right bottom lineWidth clearDirty =>
      exact paces_trySendImage framebuffer x y right bottom lineWidth clearDirty
  | drawRect x y right bottom color operation => exact paces_trySingle (by decide)
  | copyArea sx sy dx dy width height => exact paces_trySingle (by decide)

end Pacing

section Packets

/-! ## The packets on the bus -/

variable {dev : Dev} {size : Nat}

/-- The packets of a call: the host controller cuts every URB on its own. -/
def packetsOf (dev : Dev) (sent : List (List UInt8)) : List (List UInt8) :=
  sent.flatMap (cut dev.dispOutEpMaxSize)

/-- Full URBs, and one more at most. -/
def Whole (dev : Dev) (g : Call) (closed : Prop) : Prop :=
  ∃ full last, g.sent = full ++ last ∧
    (∀ u ∈ full, u.length = dev.packetSizeFactor * dev.dispOutEpMaxSize) ∧
      last.length ≤ 1 ∧ (¬ closed → last = [])

/-- A submission adds a full URB, or the last one. -/
theorem Whole.track {g : Call} {closed : Prop}
    (hfits : dev.packetSizeFactor * dev.dispOutEpMaxSize ≤ size) (h : Whole dev g closed) {o : UsbOp}
    {r : o.Res} (hpre : (pacingProtocol dev size).pre closed o) :
    Whole dev (g.track o r) ((pacingProtocol dev size).track closed o r) := by
  obtain ⟨full, last, hsent, hfull, hlast, hnone⟩ := h
  cases o with
  | submitUrb site t =>
      obtain ⟨hopen, hready⟩ := hpre
      obtain rfl := hnone hopen
      cases r with
      | refused status => exact ⟨full, [], hsent, hfull, Nat.zero_le 1, fun _ => rfl⟩
      | submitted =>
          have hadded : (g.track (.submitUrb site t) .submitted).sent = full ++ [t.transfer] := by
            show g.sent ++ [t.transfer] = _
            rw [hsent, List.append_nil]
          by_cases hsite : site = .fullUrb
          · obtain ⟨hroom, hlength⟩ := hready hsite
            have htransfer : t.transfer.length = dev.packetSizeFactor * dev.dispOutEpMaxSize := by
              have hbuffer : t.transferUrb.transferBuffer.length = size := hroom
              rw [Ticket.transfer, List.length_take, hlength, hbuffer, Nat.min_eq_left hfits]
            refine ⟨full ++ [t.transfer], [], by rw [hadded, List.append_nil], ?_, Nat.zero_le 1,
              fun _ => rfl⟩
            intro u hu
            rcases List.mem_append.mp hu with hu | hu
            · exact hfull u hu
            · rw [List.mem_singleton.mp hu, htransfer]
          · have hclosed : (pacingProtocol dev size).track closed (.submitUrb site t) .submitted := by
              cases site with
              | fullUrb => exact absurd rfl hsite
              | _ => trivial
            exact ⟨full, [t.transfer], hadded, hfull, Nat.le_refl 1,
              fun hne => absurd hclosed hne⟩
  | sellTickets n =>
      cases r with
      | none => exact ⟨full, last, hsent, hfull, hlast, hnone⟩
      | some ts => exact ⟨full, last, hsent, hfull, hlast, hnone⟩
  | _ => exact ⟨full, last, hsent, hfull, hlast, hnone⟩

/-- The packets of full URBs and one more are those of the whole stream. -/
theorem Whole.packets {g : Call} {closed : Prop} (hpos : 0 < dev.dispOutEpMaxSize)
    (h : Whole dev g closed) : packetsOf dev g.sent = cut dev.dispOutEpMaxSize g.sent.flatten := by
  obtain ⟨full, last, hsent, hfull, hlast, _⟩ := h
  have hrest : last.flatMap (cut dev.dispOutEpMaxSize) = cut dev.dispOutEpMaxSize last.flatten := by
    match last with
    | [] => exact (cut_nil hpos).symm
    | [u] => simp
    | _ :: _ :: _ => exact absurd hlast (by simp)
  rw [hsent, packetsOf]
  clear hsent
  induction full with
  | nil => exact hrest
  | cons u us ih =>
      have hwhole : dev.dispOutEpMaxSize ∣ u.length := by
        rw [hfull u List.mem_cons_self]
        exact Nat.dvd_mul_left _ _
      rw [List.cons_append, List.flatMap_cons, List.flatten_cons, cut_append_whole hpos hwhole,
        ih fun u hu => hfull u (List.mem_cons_of_mem _ hu)]

/-- So it is for every conversation of a command. -/
theorem whole_of_ends {P : Protocol UsbOp UsbOp.Res Call} {c : Command} {ok : Bool} {g : Call}
    (hfits : dev.packetSizeFactor * dev.dispOutEpMaxSize ≤ size)
    (hanswers : ∀ g closed o r, P.answer g o r → (pacingProtocol dev size).answer closed o r)
    (htrack : ∀ g o r, P.track g o r = g.track o r)
    (h : Ends P (c.prog dev) (Call.start (.command c)) ok g) : ∃ closed, Whole dev g closed := by
  have hstart : Whole dev (Call.start (.command c)) False :=
    ⟨[], [], rfl, fun u hu => absurd hu List.not_mem_nil, Nat.zero_le 1, fun _ => rfl⟩
  obtain ⟨closed, _, hwhole⟩ := h.related (R := Whole dev) (by
    intro g closed o r hwhole hpre hanswer
    refine ⟨hanswers g closed o r hanswer, ?_⟩
    rw [htrack]
    exact hwhole.track hfits hpre) c.paces hstart
  exact ⟨closed, hwhole⟩

end Packets

section Outcomes

/-! ## What a call sends -/

variable {dev : Dev} {size : Nat}

/-- The command of a bitblt. -/
def bitbltCommand (dev : Dev) : UInt8 :=
  if dev.rlemode then RPUSBDISP_DISPCMD_BITBLT_RLE else RPUSBDISP_DISPCMD_BITBLT

/-- The stream of an image. -/
def imageStream (dev : Dev) (header : BitbltPacket) (pixels : List Pixel) : List UInt8 :=
  header.cmdFlag ::
    stuff (bitbltCommand dev) dev.payload (imageBody dev header pixels) dev.payload

/-- An image that was sent, or one of which a submission was refused. -/
theorem image_sends {framebuffer : Int → Pixel} {x y right bottom lineWidth : Int}
    {clearDirty : Bool} {task : Task} {header : BitbltPacket} {pixels : List Pixel}
    (hreg : dev.Regular size) (hin : InScreen x y right bottom)
    (hheader : header = bitbltHeader dev dev.rlemode x y right bottom clearDirty)
    (hpixels : pixels =
      (rectPixels framebuffer x y right bottom lineWidth).map (cpuToLe16 dev.host)) :
    (trySendImage dev framebuffer x y right bottom lineWidth clearDirty).wp
      (callProtocol dev size) (fun _ => True)
      (fun ok g => (ok = true ∧ g.sent.flatten = imageStream dev header pixels) ∨
        (ok = false ∧ (g.sent = [] ∨ g.failed = true))) (Call.start task) := by
  obtain ⟨hsize, hpos, _⟩ := imageSize_eq hin framebuffer lineWidth
  have hne : pixels ≠ [] := by
    intro hnil
    rw [hpixels] at hnil
    rw [List.map_eq_nil_iff.mp hnil] at hpos
    exact absurd hpos (Nat.lt_irrefl 0)
  subst hpixels
  apply trySendImage_wp hheader rfl
  · exact fun _ _ => trivial
  · exact fun _ => trivial
  · exact fun _ _ _ _ => trivial
  · intro hzero
    omega
  · exact Or.inr ⟨rfl, Or.inl rfl⟩
  · exact fun n g hsent => Or.inl ⟨rfl, hsent.sent hreg (bodyNonempty_of_pixels header hne)⟩
  · exact fun n g hfailed => Or.inr ⟨rfl, Or.inr hfailed.failed⟩

/-- Where no submission is refused, the image is sent, or not begun. -/
theorem image_accepted {framebuffer : Int → Pixel} {x y right bottom lineWidth : Int}
    {clearDirty : Bool} {task : Task} {header : BitbltPacket} {pixels : List Pixel}
    (hreg : dev.Regular size) (hmps : dev.dispOutEpMaxSize < 2 ^ 32)
    (hfactor : dev.packetSizeFactor < 2 ^ 32) (hin : InScreen x y right bottom)
    (hheader : header = bitbltHeader dev dev.rlemode x y right bottom clearDirty)
    (hpixels : pixels =
      (rectPixels framebuffer x y right bottom lineWidth).map (cpuToLe16 dev.host))
    (hspare : ¬ dev.Exhausts pixels) :
    (trySendImage dev framebuffer x y right bottom lineWidth clearDirty).wp
      ((callProtocol dev size).accepting Accepted) (fun _ => False)
      (fun _ g => g.sent.flatten = imageStream dev header pixels ∨ g.sent = [])
      (Call.start task) := by
  have hsafe : (trySendImage dev framebuffer x y right bottom lineWidth clearDirty).Safe
      (callProtocol dev size) (Call.start task) :=
    (trySendImage_safe_iff hreg hmps hfactor hin hpixels).mpr hspare
  have hsends : (trySendImage dev framebuffer x y right bottom lineWidth clearDirty).wp
      ((callProtocol dev size).accepting Accepted) _ _ (Call.start task) :=
    wp_restrict (wp_and (image_sends hreg hin hheader hpixels) hsafe) (fun _ _ h => h)
      (fun _ _ _ _ h => h.1) fun _ _ _ => rfl
  apply wp_mono (wp_keeps Call.failed accepted_unfailed hsends) (fun _ he => he.2)
  intro ok g h
  obtain ⟨⟨⟨_, hsent⟩ | ⟨_, hnone | hfailed⟩, _⟩, hkept⟩ := h
  · exact Or.inl hsent
  · exact Or.inr hnone
  · rw [hfailed] at hkept
    cases hkept

/-- **A short command**: its packet and what else is submitted behind it, or nothing. -/
theorem single_sends {site : SubmitSite} {sizeofPacket length : Nat} {packet : List UInt8}
    {task : Task} (hpacket : packet.length = sizeofPacket) (hlength : sizeofPacket ≤ length) :
    (trySingle dev site sizeofPacket length packet).wp (callProtocol dev size) (fun _ => True)
      (fun ok g => (∃ more, more.length ≤ length - sizeofPacket ∧ g.sent = [packet ++ more]) ∨
        (ok = false ∧ g.sent = [])) (Call.start task) := by
  unfold trySingle
  rw [wp_bind]
  apply sellDispTickets_wp
  · exact Or.inr ⟨rfl, rfl⟩
  · intro ts _ hlen hready
    obtain ⟨ticket, rfl⟩ : ∃ ticket, ts = [ticket] := List.length_eq_one_iff.mp hlen
    obtain ⟨hroom, _⟩ := hready ticket List.mem_cons_self
    refine wp_bugOn_bind.mpr ⟨fun _ => trivial, fun _ => ?_⟩
    unfold submitSingle
    rw [wp_bind]
    apply storeBuffer_wp
    · intro buffer hstore
      have hbuffer : buffer.length = size := (writeAt_length hstore).trans hroom
      have htake : buffer.take packet.length = packet := by
        have hwritten := writeAt_take hstore
        rwa [Nat.zero_add, List.take_zero, List.nil_append] at hwritten
      refine wp_ask_bind.mpr ⟨⟨List.mem_cons_self, hbuffer⟩, fun r _ => ?_⟩
      cases r with
      | submitted =>
          refine Or.inl ⟨(buffer.take length).drop packet.length, ?_, ?_⟩
          · rw [List.length_drop, List.length_take, hpacket]
            omega
          · have hbegin : (buffer.take length).take packet.length = packet := by
              rw [List.take_take, Nat.min_eq_left (by omega), htake]
            have hsplit := List.take_append_drop packet.length (buffer.take length)
            rw [hbegin] at hsplit
            show [buffer.take length] = _
            rw [hsplit]
      | refused status =>
          rw [wp_bind]
          exact onDisplayTransferFinished_wp List.mem_cons_self hbuffer (Or.inr ⟨rfl, rfl⟩)
    · exact fun _ => trivial

end Outcomes

section Drawings

/-! ## What the display makes of it -/

open Display Reassembly

variable {dev : Dev}

/-- What a command is to draw. -/
def Command.drawing (dev : Dev) : Command → Kind × Drawing
  | .sendImage framebuffer x y right bottom lineWidth clearDirty =>
      (⟨bitbltCommand dev, clearDirty⟩,
        .bitblt (.ofInt x) (.ofInt y) (.ofInt (right + 1 - x)) (.ofInt (bottom + 1 - y))
          RPUSBDISP_OPERATION_COPY (rectPixels framebuffer x y right bottom lineWidth))
  | .drawRect x y right bottom color operation =>
      (⟨RPUSBDISP_DISPCMD_RECT, false⟩,
        .rect (.ofInt x) (.ofInt y) (.ofInt right) (.ofInt bottom) color operation)
  | .copyArea sx sy dx dy width height =>
      (⟨RPUSBDISP_DISPCMD_COPY_AREA, false⟩,
        .copyArea (.ofInt sx) (.ofInt sy) (.ofInt dx) (.ofInt dy) (.ofInt width) (.ofInt height))

/-- An image on the screen that leaves room in its bundle; the short commands always do. -/
def Command.Drawable (dev : Dev) : Command → Prop
  | .sendImage framebuffer x y right bottom lineWidth _ =>
      InScreen x y right bottom ∧
        ¬ dev.Exhausts
          ((rectPixels framebuffer x y right bottom lineWidth).map (cpuToLe16 dev.host))
  | _ => True

/-- The packets of a body are marked. -/
theorem marked_frames (first mark : UInt8) (m : Nat) (body : List UInt8) :
    Marked first mark (frames first mark m body) := by
  rw [frames, List.range_succ_eq_map, List.map_cons, List.map_map]
  refine ⟨_, _, rfl, fun p hp => ?_⟩
  obtain ⟨i, _, rfl⟩ := List.mem_map.mp hp
  rfl

theorem isCommand_bitblt (dev : Dev) : IsCommand (bitbltCommand dev) := by
  unfold bitbltCommand
  split
  · exact Or.inr (Or.inr (Or.inr (Or.inr rfl)))
  · exact Or.inr (Or.inr (Or.inr (Or.inl rfl)))

/-- The first byte of an image opens it. -/
theorem opens_bitbltHeader (x y right bottom : Int) (clearDirty : Bool) :
    format.opens (bitbltHeader dev dev.rlemode x y right bottom clearDirty).cmdFlag =
      some ⟨bitbltCommand dev, clearDirty⟩ := by
  simp only [bitbltHeader, bitbltCommand]
  cases dev.rlemode <;> cases clearDirty <;> rfl

/-- The pixels are read as they are in the framebuffer. -/
theorem reads_imagePayload (pixels : List Pixel) {area : Nat} (harea : pixels.length = area) :
    Reads (picturePixels dev.rlemode area)
      (imagePayload dev (pixels.map (cpuToLe16 dev.host))) pixels := by
  have hback : (pixels.map (cpuToLe16 dev.host)).map (cpuToLe16 dev.host) = pixels := by
    rw [List.map_map]
    exact (List.map_congr_left fun p _ => cpuToLe16_cpuToLe16 dev.host p).trans (List.map_id _)
  subst harea
  unfold imagePayload
  cases dev.rlemode with
  | true =>
      have hexpand := expand_encode (show 3 ≤ 128 by decide) reopenLiteral_reopens
        (pixels.map (cpuToLe16 dev.host))
      have hlen : (expand (encode 128 reopenLiteral (pixels.map (cpuToLe16 dev.host)))).length =
          pixels.length := by rw [hexpand, List.length_map]
      have hread := reads_rlePixels dev.host (encode_wellFormed (show 3 ≤ 128 by decide)
        reopenLiteral_reopens (pixels.map (cpuToLe16 dev.host))) (Nat.le_of_eq hlen)
      rwa [hexpand, hback, List.length_map] at hread
  | false =>
      have hread := reads_rawPixels pixels
      rwa [← hback, ← flatMap_store16, hback] at hread

/-- **What an image sends is what it draws.** -/
theorem reads_imageBody {framebuffer : Int → Pixel} {x y right bottom lineWidth : Int}
    {clearDirty : Bool} (hin : InScreen x y right bottom) :
    Reads (commandReader (bitbltCommand dev))
      (imageBody dev (bitbltHeader dev dev.rlemode x y right bottom clearDirty)
        ((rectPixels framebuffer x y right bottom lineWidth).map (cpuToLe16 dev.host)))
      ((Command.sendImage framebuffer x y right bottom lineWidth clearDirty).drawing dev).2 := by
  obtain ⟨hleft, hwidth, hright, htop, hheight, hbottom⟩ := hin
  simp only [RP_DISP_DEFAULT_WIDTH, RP_DISP_DEFAULT_HEIGHT] at hright hbottom
  have hside : ∀ v : Int, 0 ≤ v → v < 2 ^ 16 → (UInt16.ofInt v).toNat = v.toNat := by
    intro v hnonneg hlt
    have hback := toNat_ofInt_of_lt hnonneg hlt
    omega
  have harea : (rectPixels framebuffer x y right bottom lineWidth).length =
      (UInt16.ofInt (right + 1 - x)).toNat * (UInt16.ofInt (bottom + 1 - y)).toNat := by
    rw [rectPixels_length, hside _ (by omega) (by omega), hside _ (by omega) (by omega), Nat.mul_comm]
  have hreads : Reads (bitbltReader dev.rlemode)
      ([UInt16.ofInt x, .ofInt y, .ofInt (right + 1 - x), .ofInt (bottom + 1 - y)].flatMap le16 ++
        RPUSBDISP_OPERATION_COPY :: imagePayload dev
          ((rectPixels framebuffer x y right bottom lineWidth).map (cpuToLe16 dev.host))) _ :=
    reads_bitblt (reads_imagePayload _ harea)
  have hreader : commandReader (bitbltCommand dev) = bitbltReader dev.rlemode := by
    unfold bitbltCommand
    cases dev.rlemode <;> rfl
  have hbody : (bitbltHeader dev dev.rlemode x y right bottom clearDirty).toBytes dev.host =
      (bitbltHeader dev dev.rlemode x y right bottom clearDirty).cmdFlag ::
        ([UInt16.ofInt x, .ofInt y, .ofInt (right + 1 - x), .ofInt (bottom + 1 - y)].flatMap le16 ++
          [RPUSBDISP_OPERATION_COPY]) := by
    simp [BitbltPacket.toBytes, bitbltHeader, store16_cpuToLe16]
  rw [hreader, imageBody, hbody, List.tail_cons, List.append_assoc]
  exact hreads

end Drawings

section Refusals

/-! ## What a refusal leaves of it -/

variable {dev : Dev} {size : Nat}

/-- Only a submission that is accepted adds to what was sent. -/
theorem track_sent (g : Call) (o : UsbOp) (r : o.Res) :
    g.sent <+: (g.track o r).sent ∧ (¬ Submits o ∨ ¬ Accepted o r → (g.track o r).sent = g.sent) := by
  cases o with
  | submitUrb site t =>
      cases r with
      | submitted => exact ⟨List.prefix_append _ _, fun h => h.elim (absurd trivial) (absurd rfl)⟩
      | refused status => exact ⟨List.prefix_rfl, fun _ => rfl⟩
  | sellTickets n =>
      cases r with
      | none => exact ⟨List.prefix_rfl, fun _ => rfl⟩
      | some ts => exact ⟨List.prefix_rfl, fun _ => rfl⟩
  | _ => exact ⟨List.prefix_rfl, fun _ => rfl⟩

theorem pacingProtocol_answers {g : Call} {closed : Prop} {o : UsbOp} {r : o.Res}
    (h : (callProtocol dev size).answer g o r) : (pacingProtocol dev size).answer closed o r := by
  cases o <;> exact h

/-- Everything can be answered without a refusal. -/
theorem accepting_willing (g : Call) (o : UsbOp) (_ : (callProtocol dev size).pre g o) :
    ∃ r, ((callProtocol dev size).accepting Accepted).answer g o r := by
  refine ⟨generousReply dev size o, generousReply_allowed dev size g o, ?_⟩
  cases o with
  | submitUrb site t => rfl
  | _ => trivial

/-- **What was sent** begins what is sent if no submission is refused. -/
theorem sent_prefix {c : Command} {ok : Bool} {g : Call} {Q : Bool → Call → Prop}
    (h : Ends (callProtocol dev size) (c.prog dev) (Call.start (.command c)) ok g)
    (haccepted : (c.prog dev).wp ((callProtocol dev size).accepting Accepted) (fun _ => False) Q
      (Call.start (.command c))) :
    ∃ ok' g', Ends ((callProtocol dev size).accepting Accepted) (c.prog dev)
      (Call.start (.command c)) ok' g' ∧ g.sent <+: g'.sent := by
  apply h.log_prefix (pacingProtocol_closing dev size)
  · exact fun g o r => (track_sent g o r).1
  · exact fun g o r hsilent => (track_sent g o r).2 (Or.inl hsilent)
  · exact fun g o r hrefused => (track_sent g o r).2 (Or.inr hrefused)
  · exact fun g closed o r hr => pacingProtocol_answers hr
  · exact accepting_willing
  · exact haccepted
  · exact c.paces

/-- The packets of an image whose stream is complete. -/
theorem packets_of_stream {P : Protocol UsbOp UsbOp.Res Call} {c : Command} {ok : Bool} {g : Call}
    {header : BitbltPacket} {pixels : List Pixel} (hreg : dev.Regular size)
    (hanswers : ∀ g o r, P.answer g o r → (callProtocol dev size).answer g o r)
    (htrack : ∀ g o r, P.track g o r = g.track o r)
    (h : Ends P (c.prog dev) (Call.start (.command c)) ok g)
    (hstream : g.sent.flatten = imageStream dev header pixels) :
    packetsOf dev g.sent =
      frames header.cmdFlag (bitbltCommand dev) dev.payload (imageBody dev header pixels) := by
  have hle : 10 ≤ dev.dispOutEpMaxSize := hreg.header_le
  have hpay : dev.payload = dev.dispOutEpMaxSize - 1 := rfl
  have hsize : dev.dispOutEpMaxSize = dev.payload + 1 := by omega
  obtain ⟨closed, hwhole⟩ := whole_of_ends hreg.fits
    (fun g closed o r hr => pacingProtocol_answers (hanswers g o r hr)) htrack h
  rw [hwhole.packets (by omega), hstream, imageStream, hsize]
  exact cut_stuff _ _ (by omega) _

/-- **The packets of an image** are its frames, or the first of them if a submission was
refused. -/
theorem image_packets {framebuffer : Int → Pixel} {x y right bottom lineWidth : Int}
    {clearDirty : Bool} {c : Command}
    (hc : c = .sendImage framebuffer x y right bottom lineWidth clearDirty) (hreg : dev.Regular size)
    (hmps : dev.dispOutEpMaxSize < 2 ^ 32) (hfactor : dev.packetSizeFactor < 2 ^ 32)
    (hdrawable : c.Drawable dev) {ok : Bool} {g : Call}
    (h : Ends (callProtocol dev size) (c.prog dev) (Call.start (.command c)) ok g)
    {header : BitbltPacket}
    (hheader : header = bitbltHeader dev dev.rlemode x y right bottom clearDirty)
    {pixels : List Pixel} (hpixels : pixels =
      (rectPixels framebuffer x y right bottom lineWidth).map (cpuToLe16 dev.host)) :
    packetsOf dev g.sent <+:
        frames header.cmdFlag (bitbltCommand dev) dev.payload (imageBody dev header pixels) ∧
      (ok = true → packetsOf dev g.sent =
        frames header.cmdFlag (bitbltCommand dev) dev.payload (imageBody dev header pixels)) := by
  subst hc
  obtain ⟨hin, hspare⟩ := hdrawable
  rw [← hpixels] at hspare
  constructor
  · have haccepted := @image_accepted dev size framebuffer x y right bottom lineWidth clearDirty
      (.command (.sendImage framebuffer x y right bottom lineWidth clearDirty)) header pixels hreg hmps
      hfactor hin hheader hpixels hspare
    obtain ⟨ok', g', hends, hstart⟩ := sent_prefix h haccepted
    have hbegin : packetsOf dev g.sent <+: packetsOf dev g'.sent := hstart.flatMap _
    rcases hends.wp haccepted with hstream | hnone
    · rwa [packets_of_stream (P := (callProtocol dev size).accepting Accepted) hreg
        (fun _ _ _ hr => hr.1) (fun _ _ _ => rfl) hends hstream] at hbegin
    · rw [hnone] at hbegin
      exact hbegin.trans List.nil_prefix
  · intro hok
    rcases h.wp (image_sends hreg hin hheader hpixels) with ⟨_, hstream⟩ | ⟨hfalse, _⟩
    · exact packets_of_stream hreg (fun _ _ _ hr => hr) (fun _ _ _ => rfl) h hstream
    · rw [hok] at hfalse
      cases hfalse

end Refusals

section Sendings

/-! ## Calls one after the other -/

open Display Reassembly

/-- A call of the driver that came to its end, and what it left: whatever the pool and the USB core
answered. -/
structure Sending (dev : Dev) where
  command : Command
  ok : Bool
  after : Call
  ends : Ends (callProtocol dev RPUSBDISP_MAX_TRANSFER_SIZE) (command.prog dev)
    (Call.start (.command command)) ok after

/-- Its packets. -/
def Sending.packets {dev : Dev} (s : Sending dev) : List (List UInt8) := packetsOf dev s.after.sent

/-- Its drawing. -/
def Sending.drawing {dev : Dev} (s : Sending dev) : Kind × Drawing := s.command.drawing dev

variable {mps : Nat} {fwver : UInt16} {host : HostOrder}

/-- A short command is one packet, or none. -/
theorem single_begins {dev : Dev} {site : SubmitSite} {sizeofPacket length : Nat}
    {packet fields : List UInt8} {first : UInt8} {c : Command} {ok : Bool} {g : Call} {size : Nat}
    {drawing : Kind × Drawing} (hprog : c.prog dev = trySingle dev site sizeofPacket length packet)
    (hpacket : packet.length = sizeofPacket) (hlength : sizeofPacket ≤ length)
    (hone : length ≤ dev.dispOutEpMaxSize) (hfields : packet = first :: fields)
    (hcommand : IsCommand drawing.1.command) (hopens : format.opens first = some drawing.1)
    (hreads : Reads (commandReader drawing.1.command) fields drawing.2)
    (h : Ends (callProtocol dev size) (c.prog dev) (Call.start (.command c)) ok g) :
    (packetsOf dev g.sent = [] ∨ Begins drawing (packetsOf dev g.sent)) ∧
      (ok = true → Enough drawing (packetsOf dev g.sent)) := by
  rw [hprog] at h
  rcases h.wp (single_sends hpacket hlength) with ⟨more, hmore, hsent⟩ | ⟨hok, hsent⟩
  · have hlen : (packet ++ more).length = sizeofPacket + more.length := by
      rw [List.length_append, hpacket]
    have hpackets : packetsOf dev g.sent = [first :: (fields ++ more)] := by
      rw [hsent, packetsOf, List.flatMap_singleton, cut_short (by rw [hfields]; simp) (by omega),
        hfields, List.cons_append]
    have hread : reading (commandReader drawing.1.command)
        ((packetsOf dev g.sent).map List.tail).flatten = some drawing.2 := by
      rw [hpackets]
      simpa using hreads.reading more
    have hmarked : Marked first drawing.1.command (packetsOf dev g.sent) :=
      ⟨fields ++ more, [], hpackets, fun p hp => absurd hp List.not_mem_nil⟩
    exact ⟨Or.inr (begins_of_start hcommand hopens hmarked hread List.prefix_rfl
      (by rw [hpackets]; exact List.cons_ne_nil _ _)), fun _ => enough_of_reading hread⟩
  · rw [hsent]
    refine ⟨Or.inl rfl, fun htrue => ?_⟩
    rw [htrue] at hok
    cases hok

/-- An image is a beginning of its frames. -/
theorem image_begins {dev : Dev} {size : Nat} {framebuffer : Int → Pixel}
    {x y right bottom lineWidth : Int} {clearDirty : Bool} {c : Command}
    (hc : c = .sendImage framebuffer x y right bottom lineWidth clearDirty) (hreg : dev.Regular size)
    (hmps : dev.dispOutEpMaxSize < 2 ^ 32) (hfactor : dev.packetSizeFactor < 2 ^ 32)
    (hdrawable : c.Drawable dev) {ok : Bool} {g : Call}
    (h : Ends (callProtocol dev size) (c.prog dev) (Call.start (.command c)) ok g) :
    (packetsOf dev g.sent = [] ∨ Begins (c.drawing dev) (packetsOf dev g.sent)) ∧
      (ok = true → Enough (c.drawing dev) (packetsOf dev g.sent)) := by
  obtain ⟨hstart, hwhole⟩ := image_packets hc hreg hmps hfactor hdrawable h rfl rfl
  subst hc
  have hpayload : 0 < dev.payload := by
    have hle : 10 ≤ dev.dispOutEpMaxSize := hreg.header_le
    have hpay : dev.payload = dev.dispOutEpMaxSize - 1 := rfl
    omega
  have hreads : Reads (commandReader (bitbltCommand dev)) (imageBody dev
      (bitbltHeader dev dev.rlemode x y right bottom clearDirty)
      ((rectPixels framebuffer x y right bottom lineWidth).map (cpuToLe16 dev.host)))
      ((Command.sendImage framebuffer x y right bottom lineWidth clearDirty).drawing dev).2 :=
    reads_imageBody hdrawable.1
  have hopens : format.opens (bitbltHeader dev dev.rlemode x y right bottom clearDirty).cmdFlag =
      some ((Command.sendImage framebuffer x y right bottom lineWidth clearDirty).drawing dev).1 :=
    opens_bitbltHeader x y right bottom clearDirty
  have hkind : ((Command.sendImage framebuffer x y right bottom lineWidth clearDirty).drawing
      dev).1.command = bitbltCommand dev := rfl
  generalize bitbltHeader dev dev.rlemode x y right bottom clearDirty = header
    at hstart hwhole hreads hopens
  generalize imageBody dev header _ = body at hstart hwhole hreads
  generalize (Command.sendImage framebuffer x y right bottom lineWidth clearDirty).drawing dev =
    drawing at hreads hopens hkind ⊢
  have hread : reading (commandReader drawing.1.command)
      ((frames header.cmdFlag (bitbltCommand dev) dev.payload body).map List.tail).flatten =
        some drawing.2 := by
    have hbody := hreads.reading []
    rwa [frames_payload _ _ hpayload, hkind, ← List.append_nil body]
  constructor
  · by_cases hnone : packetsOf dev g.sent = []
    · exact Or.inl hnone
    · right
      apply begins_of_start _ hopens _ hread hstart hnone
      · rw [hkind]
        exact isCommand_bitblt dev
      · rw [hkind]
        exact marked_frames _ _ _ _
  · intro hok
    rw [hwhole hok]
    exact enough_of_reading hread

/-- **A call begins its command**, or sends nothing, and one that succeeded has sent enough. -/
theorem Sending.begins (hlo : sizeofCopyareaPacket < mps) (hhi : mps ≤ RPUSBDISP_MAX_TRANSFER_SIZE)
    (s : Sending (.attached mps fwver host))
    (hdrawable : s.command.Drawable (.attached mps fwver host)) :
    (s.packets = [] ∨ Begins s.drawing s.packets) ∧ (s.ok = true → Enough s.drawing s.packets) := by
  obtain ⟨c, ok, g, h⟩ := s
  generalize hdev : Dev.attached mps fwver host = dev at h hdrawable ⊢
  have hsize : dev.dispOutEpMaxSize = mps := by rw [← hdev]; rfl
  have hmax : RPUSBDISP_MAX_TRANSFER_SIZE = 65024 := rfl
  have hcopy : sizeofCopyareaPacket = 13 := rfl
  cases c with
  | sendImage framebuffer x y right bottom lineWidth clearDirty =>
      have hreg : dev.Regular RPUSBDISP_MAX_TRANSFER_SIZE := by
        rw [← hdev]
        exact Dev.attached_regular fwver host (Nat.le_trans (by decide) (Nat.le_of_lt hlo)) hhi
      have hfactor : dev.packetSizeFactor < 2 ^ 32 := by
        rw [← hdev]
        exact Nat.lt_of_le_of_lt (Nat.div_le_self _ _) (by decide)
      exact image_begins rfl hreg (by omega) hfactor hdrawable h
  | drawRect x y right bottom color operation =>
      have htwelve : sizeofFillrectPacket = 12 := rfl
      exact single_begins rfl (FillrectPacket.toBytes_length _ _) (Nat.le_refl _) (by omega)
        (fillrectPacket_toBytes dev x y right bottom color operation) (Or.inr (Or.inl rfl)) rfl
        (reads_rect _ _ _ _ _ _) h
  | copyArea sx sy dx dy width height =>
      exact single_begins rfl (CopyareaPacket.toBytes_length _ _) (Nat.le_succ _) (by omega)
        (by simp [CopyareaPacket.toBytes, copyareaPacket, store16_cpuToLe16]; rfl)
        (Or.inr (Or.inr (Or.inl rfl))) rfl (reads_copyArea _ _ _ _ _ _) h

/-- **The driver's commands reach the display.**  Calls follow each other, of whose URBs any may be
refused.  The display carries out the commands of the calls that succeeded, and of the others
those that were sent completely, each once, in the order of the calls and as they were
called, with 16 bits of every coordinate; nothing else is drawn. -/
theorem sends_drawn (hlo : sizeofCopyareaPacket < mps) (hhi : mps ≤ RPUSBDISP_MAX_TRANSFER_SIZE)
    (fwver : UInt16) (host : HostOrder) (sendings : List (Sending (.attached mps fwver host)))
    (hdrawable : ∀ s ∈ sendings, s.command.Drawable (.attached mps fwver host)) :
    drawn (sendings.flatMap Sending.packets) =
        sendings.flatMap (fun s => if Enough s.drawing s.packets then [s.drawing] else []) ∧
      ∀ s ∈ sendings, s.ok = true → Enough s.drawing s.packets := by
  refine ⟨?_, fun s hs => (s.begins hlo hhi (hdrawable s hs)).2⟩
  have hbegun : ∀ m ∈ sendings.map fun s => (s.drawing, s.packets), m.2 = [] ∨ Begins m.1 m.2 := by
    intro m hm
    obtain ⟨s, hs, rfl⟩ := List.mem_map.mp hm
    exact (s.begins hlo hhi (hdrawable s hs)).1
  have hdrawn := drawn_begun hbegun
  rwa [List.flatMap_map, List.flatMap_map] at hdrawn

/-! ### An image that breaks off -/

section Broken

variable {dev : Dev} {size : Nat} {framebuffer : Int → Pixel} {x y right bottom lineWidth : Int}
  {clearDirty : Bool} {c : Command} {header : BitbltPacket} {pixels : List Pixel} {n : Nat}

/-- **An image is sent** where the pool has its tickets and no submission is refused. -/
theorem exists_image_sent (hc : c = .sendImage framebuffer x y right bottom lineWidth clearDirty)
    (hreg : dev.Regular size) (hin : InScreen x y right bottom)
    (hrequired : requiredTicketsCount dev (imageSize x y right bottom) dev.rlemode = some (n + 1))
    (hten : n + 1 ≤ RPUSBDISP_MAX_TRANSFER_TICKETS_COUNT)
    (hheader : header = bitbltHeader dev dev.rlemode x y right bottom clearDirty)
    (hpixels : pixels = (rectPixels framebuffer x y right bottom lineWidth).map (cpuToLe16 dev.host))
    (hroom : (imageBody dev header pixels).length < (n + 1) * dev.urbPayload) :
    ∃ g, Ends ((callProtocol dev size).accepting Accepted) (c.prog dev) (Call.start (.command c))
      true g ∧ g.sent.flatten = imageStream dev header pixels := by
  subst hc
  obtain ⟨hsize, hpos, _⟩ := imageSize_eq hin framebuffer lineWidth
  have hsome : imageSize x y right bottom ≠ 0 := by omega
  obtain ⟨k, k', hprog, hsell, _, hbought⟩ :=
    trySendImage_bought framebuffer lineWidth clearDirty hsome hrequired (Nat.succ_pos n) hten
  have hne : pixels ≠ [] := by
    rw [hpixels]
    exact fun hnil => absurd (List.map_eq_nil_iff.mp hnil) (List.length_pos_iff.mp hpos)
  obtain ⟨tickets, hsold⟩ : ∃ tickets, generousReply dev size (.sellTickets (n + 1)) = some tickets :=
    ⟨_, rfl⟩
  have hanswer := generousReply_allowed dev size (Call.start (.command
    (.sendImage framebuffer x y right bottom lineWidth clearDirty))) (.sellTickets (n + 1))
  obtain ⟨hlen, hready⟩ := hanswer tickets hsold
  obtain ⟨ticket, later, rfl⟩ := List.exists_cons_of_length_eq_add_one hlen
  generalize hg : { Call.start (.command (.sendImage framebuffer x y right bottom lineWidth
    clearDirty)) with held := (ticket :: later).map Ticket.id } = g
  have hfresh : Fresh dev size (n + 1) dev.rlemode
      { ticket := ticket, later := later, advanced := false, encodedPos := 0, packetPos := 0,
        urbbuffer := 0, rlemode := dev.rlemode } g := by
    rw [← hg]
    exact Fresh.sold hready hlen
  have hencode : (k' (some (ticket :: later))).wp ((callProtocol dev size).accepting Accepted)
      (fun _ => False) (fun ok g' => (ok = true ∧ g'.sent.flatten = imageStream dev header pixels ∨
        g'.failed = true) ∧ g'.failed = g.failed) g := by
    rw [hbought]
    apply wp_keeps Call.failed accepted_unfailed
    refine wp_restrict (encodeImage_wp hheader (congrArg (imageBody dev header) hpixels) hfresh ?_ ?_
      ?_ ?_) (fun _ _ h => h) (fun _ _ _ _ h => h.1) fun _ _ _ => rfl
    · exact fun hirregular => absurd hreg hirregular
    · exact fun hfull => absurd hroom (Nat.not_lt.mpr hfull)
    · exact fun _ hsent => Or.inl ⟨rfl, hsent.sent hreg (bodyNonempty_of_pixels header hne)⟩
    · exact fun _ hfailed => Or.inr hfailed.failed
  obtain ⟨ok, g', hends⟩ := exists_ends accepting_willing hencode
  obtain ⟨hdone, hsame⟩ := hends.wp hencode
  rcases hdone with ⟨rfl, hstream⟩ | hfailed
  · refine ⟨g', ?_, hstream⟩
    show Ends _ (trySendImage _ _ _ _ _ _ _ _) _ _ _
    rw [hprog]
    refine .op (r := true) ⟨trivial, trivial⟩ ?_
    rw [hsell]
    refine .op (r := some (ticket :: later)) ⟨hsold ▸ hanswer, trivial⟩ ?_
    rw [← hg] at hends
    exact hends
  · rw [hsame, hfresh.unfailed] at hfailed
    cases hfailed

/-- No URB is longer than its buffer. -/
theorem sent_le {ok : Bool} {g : Call}
    (h : Ends (callProtocol dev size) (c.prog dev) (Call.start (.command c)) ok g)
    (hsafe : (c.prog dev).Safe (callProtocol dev size) (Call.start (.command c))) :
    ∀ u ∈ g.sent, u.length ≤ size := by
  have hstep : ∀ (g g' : Call) (o : UsbOp) (r : o.Res), (g' = g ∧ ∀ u ∈ g.sent, u.length ≤ size) →
      (callProtocol dev size).pre g' o → (callProtocol dev size).answer g o r →
      (callProtocol dev size).answer g' o r ∧ g'.track o r = g.track o r ∧
        ∀ u ∈ (g.track o r).sent, u.length ≤ size := by
    rintro g _ o r ⟨rfl, hle⟩ hpre hanswer
    refine ⟨hanswer, rfl, ?_⟩
    cases o with
    | submitUrb site t =>
        cases r with
        | submitted =>
            intro u hu
            rcases List.mem_append.mp hu with hu | hu
            · exact hle u hu
            · have htake : u.length ≤ t.transferUrb.transferBuffer.length := by
                rw [List.mem_singleton.mp hu, Ticket.transfer]
                exact List.length_take_le' _ _
              exact Nat.le_trans htake (Nat.le_of_eq hpre.2)
        | refused status => exact hle
    | sellTickets n =>
        cases r with
        | none => exact hle
        | some ts => exact hle
    | _ => exact hle
  have hstart : ∀ u ∈ (Call.start (.command c)).sent, u.length ≤ size :=
    fun u hu => absurd hu List.not_mem_nil
  obtain ⟨_, _, _, hle⟩ := h.related hstep hsafe ⟨rfl, hstart⟩
  exact hle

/-- Its last submission can be refused. -/
theorem exists_last_refused {g : Call} {ok : Bool}
    (h : Ends ((callProtocol dev size).accepting Accepted) (c.prog dev) (Call.start (.command c)) ok g)
    (hsent : g.sent ≠ [])
    (hsafe : (c.prog dev).Safe (callProtocol dev size) (Call.start (.command c))) :
    ∃ ok' g' last, Ends (callProtocol dev size) (c.prog dev) (Call.start (.command c)) ok' g' ∧
      g.sent = g'.sent ++ [last] := by
  refine h.refuse_last (pacingProtocol_closing dev size) ?_
    (fun g o r hsilent => (track_sent g o r).2 (Or.inl hsilent))
    (fun g o r hrefused => (track_sent g o r).2 (Or.inr hrefused))
    (fun g closed o r hr => pacingProtocol_answers hr)
    (fun g o _ => ⟨generousReply dev size o, generousReply_allowed dev size g o⟩) ?_ hsent hsafe c.paces
  · intro g o r
    by_cases hone : ∃ site t, o = .submitUrb site t
    · obtain ⟨site, t, rfl⟩ := hone
      cases r with
      | submitted => exact ⟨[t.transfer], rfl, Nat.le_refl 1⟩
      | refused status => exact ⟨[], (List.append_nil _).symm, Nat.zero_le 1⟩
    · refine ⟨[], ?_, Nat.zero_le 1⟩
      rw [List.append_nil]
      refine (track_sent g o r).2 (Or.inl fun hsubmits => ?_)
      cases o with
      | submitUrb site t => exact hone ⟨site, t, rfl⟩
      | _ => exact hsubmits
  · intro g o hsubmits
    cases o with
    | submitUrb site t => exact ⟨.refused (-12), trivial, fun hno => by cases hno⟩
    | _ => exact hsubmits.elim

/-- The last URB of an image whose stream does not end with a full one. -/
theorem exists_last_short (hreg : dev.Regular size) {g : Call} {ok : Bool}
    (h : Ends (callProtocol dev size) (c.prog dev) (Call.start (.command c)) ok g)
    (hstream : g.sent.flatten = imageStream dev header pixels)
    (hrest : 2 ≤ (imageStream dev header pixels).length %
      (dev.packetSizeFactor * dev.dispOutEpMaxSize)) :
    ∃ full v, g.sent = full ++ [v] ∧
      (∀ u ∈ full, u.length = dev.packetSizeFactor * dev.dispOutEpMaxSize) ∧ 2 ≤ v.length ∧
      full.flatten ≠ imageStream dev header pixels := by
  obtain ⟨_, full, last, hsent, hfull, hlast, _⟩ := whole_of_ends hreg.fits
    (fun _ _ _ _ hr => pacingProtocol_answers hr) (fun _ _ _ => rfl) h
  have hlength : full.flatten.length =
      full.length * (dev.packetSizeFactor * dev.dispOutEpMaxSize) := by
    rw [List.length_flatten, List.map_congr_left hfull, List.map_const', List.sum_replicate_nat]
  have hnot : full.flatten ≠ imageStream dev header pixels := by
    intro heq
    rw [← heq, hlength, Nat.mul_mod_left] at hrest
    omega
  obtain ⟨v, rfl⟩ : ∃ v, last = [v] := by
    match last with
    | [] =>
        rw [List.append_nil] at hsent
        exact absurd (hsent ▸ hstream) hnot
    | [v] => exact ⟨v, rfl⟩
    | _ :: _ :: _ => exact absurd hlast (by simp)
  refine ⟨full, v, hsent, hfull, ?_, hnot⟩
  rw [← hstream, hsent, List.flatten_append, List.length_append, hlength, List.flatten_singleton,
    Nat.mul_add_mod'] at hrest
  exact Nat.le_trans hrest (Nat.mod_le _ _)

/-- Without that URB there is not enough of the image. -/
theorem not_enough_before (hreg : dev.Regular size) (hin : InScreen x y right bottom)
    (hheader : header = bitbltHeader dev dev.rlemode x y right bottom clearDirty)
    (hpixels : pixels = (rectPixels framebuffer x y right bottom lineWidth).map (cpuToLe16 dev.host))
    {full : List (List UInt8)} {v : List UInt8}
    (hpackets : packetsOf dev (full ++ [v]) =
      frames header.cmdFlag (bitbltCommand dev) dev.payload (imageBody dev header pixels))
    (hv : 2 ≤ v.length) :
    ¬ Enough ((Command.sendImage framebuffer x y right bottom lineWidth clearDirty).drawing dev)
      (packetsOf dev full) := by
  have hmps : 10 ≤ dev.dispOutEpMaxSize := hreg.header_le
  have hpay : 0 < dev.payload := by
    show 0 < dev.dispOutEpMaxSize - 1
    omega
  have htails := congrArg (fun packets => (packets.map List.tail).flatten) hpackets
  simp only [frames_payload _ _ hpay] at htails
  rw [packetsOf, List.flatMap_append, List.map_append, List.flatten_append,
    List.flatMap_singleton] at htails
  have hreads : Reads (commandReader (bitbltCommand dev)) (imageBody dev header pixels)
      ((Command.sendImage framebuffer x y right bottom lineWidth clearDirty).drawing dev).2 := by
    rw [hheader, hpixels]
    exact reads_imageBody hin
  rw [← htails] at hreads
  have hearly := hreads.early (steady_commandReader _) (cut_tails_ne_nil (by omega) hv)
  intro henough
  have hread : (reading (commandReader (bitbltCommand dev))
      ((packetsOf dev full).map List.tail).flatten).isSome = true := henough
  rw [packetsOf, hearly] at hread
  cases hread

/-- **An image breaks off** when the last of its URBs is refused: where this is not a full one,
and not the only one, the display gets a part of the image and does not draw it. -/
theorem exists_image_broken (hc : c = .sendImage framebuffer x y right bottom lineWidth clearDirty)
    (hreg : dev.Regular size) (hin : InScreen x y right bottom)
    (hheader : header = bitbltHeader dev dev.rlemode x y right bottom clearDirty)
    (hpixels : pixels = (rectPixels framebuffer x y right bottom lineWidth).map (cpuToLe16 dev.host))
    (hsafe : (c.prog dev).Safe (callProtocol dev size) (Call.start (.command c))) {g : Call}
    (hends : Ends ((callProtocol dev size).accepting Accepted) (c.prog dev) (Call.start (.command c))
      true g) (hstream : g.sent.flatten = imageStream dev header pixels)
    (hlong : size < (imageStream dev header pixels).length)
    (hrest : 2 ≤ (imageStream dev header pixels).length %
      (dev.packetSizeFactor * dev.dispOutEpMaxSize)) :
    ∃ g', Ends (callProtocol dev size) (c.prog dev) (Call.start (.command c)) false g' ∧
      packetsOf dev g'.sent ≠ [] ∧ ¬ Enough (c.drawing dev) (packetsOf dev g'.sent) := by
  have hmps : 10 ≤ dev.dispOutEpMaxSize := hreg.header_le
  have hends₁ := hends.of_accepting
  obtain ⟨full, v, hsent, hfull, hv, hnot⟩ := exists_last_short hreg hends₁ hstream hrest
  have hsome : g.sent ≠ [] := by
    rw [hsent]
    simp
  obtain ⟨ok', g', u, hends', hlog⟩ := exists_last_refused hends hsome hsafe
  obtain ⟨rfl, _⟩ := List.append_inj' (hlog.symm.trans hsent) rfl
  subst hc
  -- The call cannot have succeeded, the stream is not there.
  have hok : ok' = false := by
    rcases hends'.wp (image_sends hreg hin hheader hpixels) with ⟨_, hwhole⟩ | ⟨hno, _⟩
    · exact absurd hwhole hnot
    · exact hno
  subst hok
  refine ⟨g', hends', ?_, ?_⟩
  · -- One URB does not hold the image, so there is a full one.
    have hle := sent_le hends₁ hsafe v (by rw [hsent]; simp)
    obtain ⟨u, hu⟩ : ∃ u, u ∈ g'.sent := by
      by_contra hnone
      have hone := List.eq_nil_iff_forall_not_mem.mpr (not_exists.mp hnone)
      rw [← hstream, hsent, hone, List.nil_append, List.flatten_singleton] at hlong
      omega
    intro hempty
    have hcut := cut_flatten (show 0 < dev.dispOutEpMaxSize by omega) u
    rw [List.flatMap_eq_nil_iff.mp hempty u hu] at hcut
    have hpos : 0 < dev.packetSizeFactor * dev.dispOutEpMaxSize :=
      Nat.mul_pos hreg.factor_pos (by omega)
    rw [← hfull u hu, ← hcut] at hpos
    cases hpos
  · have hpackets := packets_of_stream hreg (fun _ _ _ hr => hr) (fun _ _ _ => rfl) hends₁ hstream
    rw [hsent] at hpackets
    exact not_enough_before hreg hin hheader hpixels hpackets hv

end Broken

/-- A full screen in packets of 64 bytes. -/
def screenImage : Command := .sendImage gradient 0 0 319 239 320 true

/-- A full screen breaks off at its last URB, and is sent again. -/
theorem sends_drawn_again : ∃ s s' : Sending (.attached 64 0x0103 .little),
    s.command = screenImage ∧ s'.command = screenImage ∧ s.ok = false ∧ s.packets ≠ [] ∧
      drawn ([s, s'].flatMap Sending.packets) = [s'.drawing] := by
  have hin : InScreen 0 0 319 239 :=
    ⟨by decide, by decide, by decide, by decide, by decide, by decide⟩
  have hreg : (Dev.attached 64 0x0103 .little).Regular RPUSBDISP_MAX_TRANSFER_SIZE :=
    Dev.attached_regular 0x0103 .little (by decide) (by decide)
  have hlength := gradient_body_length
    (bitbltHeader (.attached 64 0x0103 .little) (Dev.attached 64 0x0103 .little).rlemode 0 0 319 239 true)
  have hspare : ¬ (Dev.attached 64 0x0103 .little).Exhausts
      ((rectPixels gradient 0 0 319 239 320).map (cpuToLe16 .little)) :=
    screen_spares gradient 0x0103 .little
  have hdrawable : screenImage.Drawable (.attached 64 0x0103 .little) := ⟨hin, hspare⟩
  have hsafe : (screenImage.prog (.attached 64 0x0103 .little)).Safe
      (callProtocol (.attached 64 0x0103 .little) RPUSBDISP_MAX_TRANSFER_SIZE)
      (Call.start (.command screenImage)) :=
    (trySendImage_safe_iff hreg (by decide) (by decide) hin rfl).mpr hspare
  generalize hheader : bitbltHeader (.attached 64 0x0103 .little)
    (Dev.attached 64 0x0103 .little).rlemode 0 0 319 239 true = header at hlength
  generalize hpixels : (rectPixels gradient 0 0 319 239 320).map (cpuToLe16 .little) = pixels at hlength
  have hstreamLength : (imageStream (.attached 64 0x0103 .little) header pixels).length = 156048 := by
    have hpayload : (Dev.attached 64 0x0103 .little).payload = 63 := rfl
    rw [imageStream, List.length_cons, hpayload, stuff_length _ (by decide) _ (by decide) (Nat.le_refl 63),
      hlength]
  obtain ⟨g, hends, hstream⟩ := exists_image_sent (c := screenImage) rfl hreg hin
    (show _ = some (2 + 1) by decide) (by decide) hheader.symm hpixels.symm
    (by rw [hlength]; decide)
  obtain ⟨g', hends', hsome, hbroken⟩ := exists_image_broken (c := screenImage) rfl hreg hin
    hheader.symm hpixels.symm hsafe hends hstream (by rw [hstreamLength]; decide)
    (by rw [hstreamLength]; decide)
  have hdrawn := sends_drawn (by decide) (by decide) 0x0103 .little
    [⟨screenImage, false, g', hends'⟩, ⟨screenImage, true, g, hends.of_accepting⟩]
    (List.forall_mem_cons.mpr ⟨hdrawable, List.forall_mem_singleton.mpr hdrawable⟩)
  have henough := hdrawn.2 ⟨screenImage, true, g, hends.of_accepting⟩
    (List.mem_cons_of_mem _ List.mem_cons_self) rfl
  refine ⟨⟨screenImage, false, g', hends'⟩, ⟨screenImage, true, g, hends.of_accepting⟩, rfl, rfl, rfl,
    hsome, hdrawn.1.trans ?_⟩
  have hnone : ¬ Enough (Sending.drawing ⟨screenImage, false, g', hends'⟩)
      (Sending.packets ⟨screenImage, false, g', hends'⟩) := hbroken
  rw [List.flatMap_cons, List.flatMap_singleton, if_neg hnone, if_pos henough, List.nil_append]

end Sendings

end RpUsbDisp
