import RpUsbDisp.SendImage
import RpUsbDisp.SdkPackets

/-!
# The two packetisers

The driver writes a bitblt incrementally: the command header first, then one
`_bitblt_encode_n_transfer_data` after the other, then the flush.  It opens the
next packet as soon as one is full, and a packet may be the first of the next
URB.  The SDK cuts one finished buffer.

Both streams are the same `frames`: that of the driver by the invariant of the
encoder, that of the SDK by its closed form.
-/

namespace RpUsbDisp

open Programs Framing Sdk

/-! ## The command of the SDK -/

/-- The packet structure of the SDK's `bitblt`. -/
def Sdk.bitbltStruct (host : HostOrder) (rle : Bool) (x y width height : UInt16)
    (operation : UInt8) : PacketStruct :=
  let packet : BitbltPacket :=
    { cmdFlag := if rle then RPUSBDISP_DISPCMD_BITBLT_RLE else RPUSBDISP_DISPCMD_BITBLT
      x := cpuToLe16 host x
      y := cpuToLe16 host y
      width := cpuToLe16 host width
      height := cpuToLe16 host height
      operation := operation }
  { cmdFlag := packet.cmdFlag
    fields := (packet.toBytes host).tail
    size_lt := by
      rw [List.length_tail, packet.toBytes_length]
      decide }

/-- Behind the command, the bytes of a bitblt do not depend on the byte order of
the host that builds it. -/
theorem bitbltStruct_fields (dev : Dev) (host : HostOrder) (rlemode : Bool)
    (x y right bottom : Int) (clearDirty : Bool) :
    (bitbltStruct host rlemode (.ofInt x) (.ofInt y) (.ofInt (right + 1 - x))
      (.ofInt (bottom + 1 - y)) RPUSBDISP_OPERATION_COPY).fields =
      ((bitbltHeader dev rlemode x y right bottom clearDirty).toBytes dev.host).tail := by
  simp only [bitbltStruct, bitbltHeader, BitbltPacket.toBytes, store16_cpuToLe16]
  rfl

/-- The command of the first packet, when both sides agree on CLEARDIRTY. -/
theorem bitbltHeader_cmdFlag (dev : Dev) (host : HostOrder) (rlemode : Bool)
    (x y right bottom : Int) {clearDirty : Bool} {displayStatus : UInt8}
    (hdirty : displayStatus &&& RPUSBDISP_DISPLAY_STATUS_DIRTY_FLAG ≠ 0 ↔ clearDirty = true) :
    (bitbltHeader dev rlemode x y right bottom clearDirty).cmdFlag =
      firstCommand displayStatus (bitbltStruct host rlemode (.ofInt x) (.ofInt y)
        (.ofInt (right + 1 - x)) (.ofInt (bottom + 1 - y)) RPUSBDISP_OPERATION_COPY).cmdFlag := by
  unfold firstCommand
  cases clearDirty with
  | false =>
      rw [if_neg fun hset => Bool.false_ne_true (hdirty.mp hset)]
      rfl
  | true =>
      rw [if_pos (hdirty.mpr rfl)]
      rfl

section Driver

/-! ## The stream of the driver -/

/-- The calls that send a command and its payload, cut in any way. -/
def encodeCuts (dev : Dev) (ctx : BitbltEncodingContext) (header : BitbltPacket)
    (cuts : List (List UInt8)) : UsbProg Bool := do
  let ctx ← bitbltEncodeCommandHeader dev ctx header
  match ← Prog.feed (bitbltEncodeNTransferData dev) cuts ctx with
  | (ctx, true) => bitbltEncoderFlush dev ctx
  | (ctx, false) => do
      bitbltEncoderCleanup ctx
      return false

/-- No submission is refused. -/
def Accepted : (o : UsbOp) → o.Res → Prop
  | .submitUrb _ _, r => r = .submitted
  | _, _ => True

/-- The protocol of a call all of whose submissions succeed. -/
def acceptingProtocol (dev : Dev) (size : Nat) : Protocol UsbOp UsbOp.Res Call where
  pre := (callProtocol dev size).pre
  answer g o r := (callProtocol dev size).answer g o r ∧ Accepted o r
  track := Call.track

variable {dev : Dev} {plan : Plan} {ctx : BitbltEncodingContext} {g : Call}

/-- Where submissions succeed, none has failed. -/
theorem accepted_unfailed {size : Nat} (g : Call) (o : UsbOp) (r : o.Res)
    (h : (acceptingProtocol dev size).answer g o r) :
    ((acceptingProtocol dev size).track g o r).failed = g.failed := by
  cases o with
  | submitUrb site t =>
      cases r with
      | submitted => rfl
      | refused status => cases h.2
  | sellTickets n => cases r <;> rfl
  | _ => rfl

/-- **One cut after the other**: whatever the cuts are, the body grows by their bytes. -/
theorem feedCuts_wp {F : Fault → Prop} {body : List UInt8} {cuts : List (List UInt8)}
    (hlen : (body ++ cuts.flatten).length ≤ plan.total)
    (hirregular : ¬ dev.Regular plan.size → ∀ e, F e)
    (hexhausted : plan.bundle * dev.urbPayload ≤ plan.total → F .oops)
    (h : Settled dev plan body ctx g) :
    (Prog.feed (bitbltEncodeNTransferData dev) cuts ctx).wp (callProtocol dev plan.size) F
      (Went (Settled dev plan (body ++ cuts.flatten)) (Aborted dev plan)) g := by
  apply wp_feed fun done => Settled dev plan (body ++ done.flatten)
  · intro done data rest c g' hall hdone
    have happend : body ++ (done ++ [data]).flatten = body ++ done.flatten ++ data := by simp
    have hfits : (body ++ done.flatten ++ data).length ≤ plan.total := by
      rw [hall] at hlen
      simp only [List.flatten_append, List.flatten_cons, List.length_append] at hlen ⊢
      omega
    apply bitbltEncodeNTransferData_wp hdone hfits hirregular hexhausted
    · intro c' g'' h''
      rw [went_true, happend]
      exact h''
    · exact fun _ _ habort => habort
  · rwa [List.flatten_nil, List.append_nil]

/-- What the calls leave: the packets of the body are sent, or a submission failed. -/
theorem encodeCuts_wp {size bundle : Nat} {rlemode : Bool} {cuts : List (List UInt8)}
    {header : BitbltPacket} {body : List UInt8} (hreg : dev.Regular size)
    (hfresh : Fresh dev size bundle rlemode ctx g)
    (hbody : body = (header.toBytes dev.host).tail ++ cuts.flatten) (hlong : BodyNonempty body)
    (hroom : body.length < bundle * dev.urbPayload) :
    (encodeCuts dev ctx header cuts).wp (callProtocol dev size) (fun _ => False)
      (fun ok g' => (ok = true ∧ g'.sent.flatten =
          (frames header.cmdFlag ctx.dispCmd dev.payload body).flatten) ∨ g'.failed = true) g := by
  have hpayload : 0 < dev.payload := by
    have hle : 10 ≤ dev.dispOutEpMaxSize := hreg.header_le
    have hpay : dev.payload = dev.dispOutEpMaxSize - 1 := rfl
    omega
  generalize hplan : (⟨size, bundle, body.length, header.cmdFlag, ctx.dispCmd⟩ : Plan) = plan
  obtain ⟨rfl, rfl⟩ : plan.size = size ∧ plan.bundle = bundle := by
    rw [← hplan]
    exact ⟨rfl, rfl⟩
  have hfirst : plan.first = header.cmdFlag := by rw [← hplan]
  have hmark : ctx.dispCmd = plan.mark := by rw [← hplan]
  have htotal : plan.total = body.length := by rw [← hplan]
  unfold encodeCuts
  rw [wp_bind]
  apply bitbltEncodeCommandHeader_wp hfresh hfirst hmark fun hirregular => absurd hreg hirregular
  intro ctx₁ h₁
  rw [wp_bind]
  apply wp_mono (feedCuts_wp (Nat.le_of_eq (by rw [← hbody, htotal]))
    (fun hirregular => absurd hreg hirregular) (fun hfull => ?_) h₁) (fun _ he => he)
  · rw [← hbody]
    intro r g₂ hr
    obtain ⟨c, ok⟩ := r
    cases ok with
    | false =>
        rw [wp_bind]
        exact bitbltEncoderCleanup_wp hr (Or.inr hr.failed)
    | true =>
        apply bitbltEncoderFlush_wp hr
        · intro g₃ _ _ hstream
          refine Or.inl ⟨rfl, ?_⟩
          rw [(hstream hreg hlong).2, frames_flatten _ _ hpayload, hfirst, hmark]
        · exact fun g₃ _ hfailed _ => Or.inr hfailed
  · rw [htotal] at hfull
    omega

/-- As long as submissions succeed, the packets of the body are sent. -/
theorem encodeCuts_sends {size bundle : Nat} {rlemode : Bool} {cuts : List (List UInt8)}
    {header : BitbltPacket} {body : List UInt8} (hreg : dev.Regular size)
    (hfresh : Fresh dev size bundle rlemode ctx g)
    (hbody : body = (header.toBytes dev.host).tail ++ cuts.flatten) (hlong : BodyNonempty body)
    (hroom : body.length < bundle * dev.urbPayload) :
    (encodeCuts dev ctx header cuts).wp (acceptingProtocol dev size) (fun _ => False)
      (fun ok g' => ok = true ∧ g'.sent.flatten =
        (frames header.cmdFlag ctx.dispCmd dev.payload body).flatten) g := by
  have hwp : (encodeCuts dev ctx header cuts).wp (acceptingProtocol dev size) (fun _ => False)
      (fun ok g' => (ok = true ∧ g'.sent.flatten =
        (frames header.cmdFlag ctx.dispCmd dev.payload body).flatten) ∨ g'.failed = true) g := by
    apply wp_restrict (encodeCuts_wp hreg hfresh hbody hlong hroom)
    · exact fun _ _ hpre => hpre
    · exact fun _ _ _ _ hanswer => hanswer.1
    · exact fun _ _ _ => rfl
  apply wp_mono (wp_keeps Call.failed accepted_unfailed hwp) (fun _ he => he)
  intro ok g' hok
  obtain ⟨hsent | hfailed, hkept⟩ := hok
  · exact hsent
  · rw [hfailed, hfresh.unfailed] at hkept
    cases hkept

end Driver

section Agreement

variable {dev : Dev} {size bundle : Nat} {rlemode : Bool} {ctx : BitbltEncodingContext} {g : Call}

/-- **The two packetisers agree.**  For every bitblt command, every payload that is
not empty, every packet size that holds the command, every number of packets per URB
and every way to cut the payload: as long as submissions succeed, the driver succeeds,
and what it has submitted is byte for byte the transfer buffer the SDK builds from the
same command and payload, on a host of any byte order. -/
theorem packetisers_agree (hreg : dev.Regular size) (hint : dev.dispOutEpMaxSize < 2 ^ 31)
    (hfresh : Fresh dev size bundle rlemode ctx g) (x y right bottom : Int) {clearDirty : Bool}
    {payload : Buffer} {cuts : List (List UInt8)} (hcuts : cuts.flatten = payload.bytes)
    (hne : payload.bytes ≠ [])
    (hroom : sizeofBitbltPacket - sizeofPacketHeader + payload.bytes.length <
      bundle * dev.urbPayload)
    {displayStatus : UInt8}
    (hdirty : displayStatus &&& RPUSBDISP_DISPLAY_STATUS_DIRTY_FLAG ≠ 0 ↔ clearDirty = true)
    (malloc : Malloc) (host : HostOrder) {packet : PacketStruct}
    (hpacket : packet = bitbltStruct host rlemode (.ofInt x) (.ofInt y) (.ofInt (right + 1 - x))
      (.ofInt (bottom + 1 - y)) RPUSBDISP_OPERATION_COPY) :
    (encodeCuts dev ctx (bitbltHeader dev rlemode x y right bottom clearDirty) cuts).wp
      (acceptingProtocol dev size) (fun _ => False)
      (fun ok g' => ok = true ∧
        sendCommandToDisplayEndpoint malloc dev.dispOutEpMaxSize displayStatus packet
            (some payload) =
          if (bufferSizes dev.dispOutEpMaxSize
              (commandBody packet (some payload))).all malloc.succeeds then
            .ok (g'.sent.flatten.map some)
          else .error .badAlloc) g := by
  have hmps : 2 ≤ dev.dispOutEpMaxSize := Nat.le_trans (by decide) hreg.header_le
  have hfields := bitbltStruct_fields dev host rlemode x y right bottom clearDirty
  have hfirst := bitbltHeader_cmdFlag dev host rlemode x y right bottom hdirty
  rw [← hpacket] at hfields hfirst
  have hmark : ctx.dispCmd = packet.cmdFlag := by
    rw [BitbltEncodingContext.dispCmd, hfresh.rlemode_eq, hpacket]
    rfl
  generalize bitbltHeader dev rlemode x y right bottom clearDirty = header at hfields hfirst
  have hbody : commandBody packet (some payload) = (header.toBytes dev.host).tail ++ cuts.flatten := by
    rw [commandBody, payloadBytes, hfields, hcuts]
  have hlength : (commandBody packet (some payload)).length =
      sizeofBitbltPacket - sizeofPacketHeader + payload.bytes.length := by
    rw [hbody, List.length_append, List.length_tail, header.toBytes_length, hcuts]
    rfl
  have hlong : BodyNonempty (commandBody packet (some payload)) := by
    unfold BodyNonempty
    rw [hlength]
    exact Nat.lt_add_of_pos_right (List.length_pos_iff.mpr hne)
  apply wp_mono (encodeCuts_sends hreg hfresh hbody hlong (by rwa [hlength])) (fun _ he => he)
  intro ok g' hsent
  obtain ⟨hok, hsent⟩ := hsent
  refine ⟨hok, ?_⟩
  have hpayload : dev.dispOutEpMaxSize - 1 = dev.payload := rfl
  rw [sendCommandToDisplayEndpoint_eq hmps hint, hsent, hfirst, hmark, hpayload]

/-- Two packets of ten bytes for each URB. -/
def tinyDev : Dev := ⟨10, 2, RP_DISP_FEATURE_RLE_FWVERSION, .big⟩

def tinyTicket (id : Nat) : Ticket := ⟨id, ⟨List.replicate 20 0, 20, 0⟩⟩

/-- An encoder with two tickets. -/
def tinyContext : BitbltEncodingContext := ⟨tinyTicket 0, [tinyTicket 1], false, 0, 0, 0, false⟩

def tinyCall : Call := ⟨.completion (tinyTicket 0), [0, 1], [], false, false⟩

def tinyPayload : Buffer := ⟨[1, 2, 3, 4, 5, 6, 7, 8, 9], by decide⟩

theorem tinyContext_fresh : Fresh tinyDev 20 2 false tinyContext tinyCall where
  current := rfl
  encodedPos_eq := rfl
  packetPos_eq := rfl
  urbbuffer_eq := rfl
  rlemode_eq := rfl
  held := rfl
  ready := by
    intro t ht
    simp only [tinyContext, List.mem_cons, List.not_mem_nil, or_false] at ht
    rcases ht with rfl | rfl <;> exact ⟨rfl, rfl⟩
  bundle_eq := rfl
  whole := rfl
  unfailed := rfl
  unsent := rfl

/-- A payload in three cuts, which ends exactly with the first URB. -/
theorem packetisers_agree_tiny : ∃ g',
    (encodeCuts tinyDev tinyContext (bitbltHeader tinyDev false 3 4 5 6 true)
      [[1, 2], [], [3, 4, 5, 6, 7, 8, 9]]).eval (acceptingProtocol tinyDev 20)
        (fun _ => generousReply tinyDev 20) tinyCall = (.ret true, g') ∧
      sendCommandToDisplayEndpoint Malloc.generous 10 0x80
        (bitbltStruct .little false 3 4 3 3 RPUSBDISP_OPERATION_COPY) (some tinyPayload) =
          .ok (g'.sent.flatten.map some) := by
  have hreg : tinyDev.Regular 20 := ⟨by decide, by decide, by decide⟩
  have hcuts : ([[1, 2], [], [3, 4, 5, 6, 7, 8, 9]] : List (List UInt8)).flatten =
      tinyPayload.bytes := rfl
  have hroom : sizeofBitbltPacket - sizeofPacketHeader + tinyPayload.bytes.length <
      2 * tinyDev.urbPayload := by decide
  have hdirty : (0x80 : UInt8) &&& RPUSBDISP_DISPLAY_STATUS_DIRTY_FLAG ≠ 0 ↔ true = true := by decide
  have hwp := packetisers_agree hreg (by decide) tinyContext_fresh 3 4 5 6 hcuts (by decide) hroom
    hdirty Malloc.generous .little rfl
  have hreply : ∀ (g : Call) (o : UsbOp), (acceptingProtocol tinyDev 20).pre g o →
      (acceptingProtocol tinyDev 20).answer g o (generousReply tinyDev 20 o) := by
    intro g o _
    refine ⟨generousReply_allowed tinyDev 20 g o, ?_⟩
    cases o with
    | submitUrb site t => rfl
    | _ => trivial
  rcases wp_eval hreply hwp with ⟨ok, g', heval, rfl, hstream⟩ | ⟨_, _, _, hfault⟩
  · exact ⟨g', heval, hstream⟩
  · exact hfault.elim

end Agreement

end RpUsbDisp
