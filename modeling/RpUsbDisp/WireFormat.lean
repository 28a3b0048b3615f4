import Mathlib.Data.List.Basic
import RpUsbDisp.SdkCommands

/-!
# The wire format of the SDK's commands

On the wire every 16-bit field and every pixel is little endian (`OnWire`).  A host gives a
value its wire form in a register, with `cpu_to_le16`, and then stores the register; so its own
byte order plays no part.  The colour of `fillrect` and the pixels of `bitblt` are stored as
they are, and reach the wire in the byte order of the host.

Two hosts are compared here, one of either byte order, that make the same call.  What they
send is the same exactly when it is little endian on both, and this is when each value that
is not converted reads the same from either end (`wire_format_iff`).
-/

namespace RpUsbDisp

namespace Sdk

open Framing RunLength

section ByteOrder

/-! ## Values that read the same from either end -/

/-- Both bytes of the value are the same. -/
def TwinBytes (v : UInt16) : Prop := loByte v = hiByte v

instance (v : UInt16) : Decidable (TwinBytes v) := by
  unfold TwinBytes
  infer_instance

theorem le16_inj {v w : UInt16} (h : le16 v = le16 w) : v = w := by
  have hlo : loByte v = loByte w := (List.cons.inj h).1
  have hhi : hiByte v = hiByte w := (List.cons.inj (List.cons.inj h).2).1
  rw [← ofBytes_bytes v, hlo, hhi, ofBytes_bytes]

theorem flatMap_le16_inj {vs ws : List UInt16} (h : vs.flatMap le16 = ws.flatMap le16) : vs = ws := by
  have hload := congrArg loadPixels h
  rw [loadPixels_wire, loadPixels_wire] at hload
  exact Option.some.inj hload

/-- The conversion of a big-endian host keeps the values whose bytes are the same. -/
theorem swab16_eq_iff (v : UInt16) : swab16 v = v ↔ TwinBytes v := by
  constructor
  · intro h
    calc loByte v = loByte (swab16 v) := by rw [h]
      _ = hiByte v := loByte_swab16 v
  · intro h
    have htwin : loByte v = hiByte v := h
    calc swab16 v = ofBytes (loByte (swab16 v)) (hiByte (swab16 v)) := (ofBytes_bytes _).symm
      _ = ofBytes (loByte v) (hiByte v) := by rw [loByte_swab16, hiByte_swab16, htwin]
      _ = v := ofBytes_bytes v

/-- What a host stores without a conversion is in its wire form on a little-endian host, and on
a big-endian one if its bytes are the same. -/
theorem cpuToLe16_eq_iff (host : HostOrder) (v : UInt16) :
    cpuToLe16 host v = v ↔ (host = .big → TwinBytes v) := by
  cases host with
  | little => exact ⟨fun _ => nofun, fun _ => rfl⟩
  | big => exact ⟨fun h _ => (swab16_eq_iff v).mp h, fun h => (swab16_eq_iff v).mpr (h rfl)⟩

theorem store16_eq_le16_iff (host : HostOrder) (v : UInt16) :
    store16 host v = le16 v ↔ (host = .big → TwinBytes v) := by
  rw [store16_eq, ← cpuToLe16_eq_iff]
  exact ⟨le16_inj, congrArg le16⟩

theorem map_cpuToLe16_eq_iff (host : HostOrder) (vs : List UInt16) :
    vs.map (cpuToLe16 host) = vs ↔ (host = .big → ∀ v ∈ vs, TwinBytes v) := by
  have hmap : vs.map (cpuToLe16 host) = vs ↔ ∀ v ∈ vs, cpuToLe16 host v = v := by
    conv => lhs; rhs; rw [← List.map_id vs]
    exact List.map_inj_left
  rw [hmap]
  constructor
  · intro h hbig v hv
    exact (cpuToLe16_eq_iff host v).mp (h v hv) hbig
  · intro h v hv
    exact (cpuToLe16_eq_iff host v).mpr fun hbig => h hbig v hv

end ByteOrder

namespace DisplayCall

section Format

/-! ## The format -/

variable (call : DisplayCall)

/-- **The wire format**: what the protocol wants behind the command.  All 16-bit fields are
little endian, and so are the pixels, whether they are compressed or not.  Old firmware gets
a rectangle for `fill`, and one byte more for `copyArea`. -/
def OnWire (firmwareVersion : UInt16) (padding : UInt8) (body : List UInt8) : Prop :=
  match call with
  | .fill color =>
      if firmwareVersion < RP_USB_DISPLAY_MIN_VERSION_FILL then
        body = [0, 0, 319, 239, color].flatMap le16 ++ [RPUSBDISP_OPERATION_COPY]
      else body = le16 color
  | .fillrect left top right bottom color bitOperation =>
      body = [left, top, right, bottom, color].flatMap le16 ++ [bitOperation]
  | .bitblt x y width height bitOperation image _ =>
      ∃ payload, body = [x, y, width, height].flatMap le16 ++ bitOperation :: payload ∧
        if compresses firmwareVersion then
          rleDecode payload = some (image.take (width.toNat * height.toNat))
        else payload = (image.take (width.toNat * height.toNat)).flatMap le16
  | .copyArea srcX srcY destX destY width height =>
      body = [srcX, srcY, destX, destY, width, height].flatMap le16 ++
        if call.pads firmwareVersion then [padding] else []

/-- The values of the call that no host converts read the same from either end. -/
def Symmetric (firmwareVersion : UInt16) : Prop :=
  match call with
  | .fill color => firmwareVersion < RP_USB_DISPLAY_MIN_VERSION_FILL → TwinBytes color
  | .fillrect _ _ _ _ color _ => TwinBytes color
  | .bitblt _ _ width height _ image _ => ∀ p ∈ image.take (width.toNat * height.toNat), TwinBytes p
  | .copyArea .. => True

variable {call} {firmwareVersion : UInt16}

theorem fillrectStruct_fields (host : HostOrder) (left top right bottom color : UInt16)
    (bitOperation : UInt8) :
    (fillrectStruct host left top right bottom color bitOperation).fields =
      [left, top, right, bottom].flatMap le16 ++ store16 host color ++ [bitOperation] := by
  simp only [fillrectStruct, FillrectPacket.toBytes, store16_cpuToLe16]
  rfl

theorem bitbltStruct_wire (host : HostOrder) (rle : Bool) (x y width height : UInt16)
    (bitOperation : UInt8) :
    (bitbltStruct host rle x y width height bitOperation).fields =
      [x, y, width, height].flatMap le16 ++ [bitOperation] := by
  simp only [bitbltStruct, BitbltPacket.toBytes, store16_cpuToLe16]
  rfl

theorem copyAreaStruct_fields (host : HostOrder) (srcX srcY destX destY width height : UInt16) :
    (copyAreaStruct host srcX srcY destX destY width height).fields =
      [srcX, srcY, destX, destY, width, height].flatMap le16 := by
  simp only [copyAreaStruct, CopyareaPacket.toBytes, store16_cpuToLe16]
  rfl

theorem fillStruct_fields (host : HostOrder) (color : UInt16) :
    (fillStruct host color).fields = le16 color := by
  simp only [fillStruct, FillPacket.toBytes, store16_cpuToLe16]
  rfl

/-- A rectangle has its colour in the wire form if the host stores it so. -/
theorem fillrect_onWire_iff (host : HostOrder) (left top right bottom color : UInt16)
    (bitOperation : UInt8) :
    (fillrectStruct host left top right bottom color bitOperation).fields =
        [left, top, right, bottom, color].flatMap le16 ++ [bitOperation] ↔
      (host = .big → TwinBytes color) := by
  have hsplit : [left, top, right, bottom, color].flatMap le16 =
      [left, top, right, bottom].flatMap le16 ++ le16 color := rfl
  rw [fillrectStruct_fields, hsplit, List.append_left_inj, List.append_right_inj,
    store16_eq_le16_iff]

/-- Raw pixels are in the wire form if the host stores them so. -/
theorem flatMap_store16_eq_iff (host : HostOrder) (pixels : List Pixel) :
    pixels.flatMap (store16 host) = pixels.flatMap le16 ↔
      (host = .big → ∀ p ∈ pixels, TwinBytes p) := by
  rw [flatMap_store16, ← map_cpuToLe16_eq_iff]
  exact ⟨flatMap_le16_inj, congrArg _⟩

/-- Compressed pixels decode to what the host has stored. -/
theorem rleDecode_encode_iff (host : HostOrder) (pixels : List Pixel) :
    rleDecode ((encode 128 reopenCommon pixels).flatMap (sectionBytes host)) = some pixels ↔
      (host = .big → ∀ p ∈ pixels, TwinBytes p) := by
  have hwell := encode_wellFormed (show 3 ≤ 128 by decide) reopenCommon_reopens pixels
  rw [rleDecode_sections host hwell, expand_encode (by decide) reopenCommon_reopens,
    Option.some.injEq, map_cpuToLe16_eq_iff]

/-- **What a host sends is in the wire format** on a little-endian host, and on a big-endian one
if the values that are not converted are symmetric. -/
theorem onWire_iff (call : DisplayCall) (host : HostOrder) (firmwareVersion : UInt16)
    (padding : UInt8) :
    call.OnWire firmwareVersion padding (call.body host firmwareVersion padding) ↔
      (host = .big → call.Symmetric firmwareVersion) := by
  cases call with
  | fill color =>
      by_cases hold : firmwareVersion < RP_USB_DISPLAY_MIN_VERSION_FILL
      · simp only [OnWire, Symmetric, body, struct, payload, hold, if_true, forall_const,
          List.append_nil]
        exact fillrect_onWire_iff host 0 0 319 239 color RPUSBDISP_OPERATION_COPY
      · simp only [OnWire, Symmetric, body, struct, payload, if_neg hold, List.append_nil]
        exact ⟨fun _ _ h => absurd h hold, fun _ => fillStruct_fields host color⟩
  | fillrect left top right bottom color bitOperation =>
      simp only [OnWire, Symmetric, body, struct, payload, List.append_nil]
      exact fillrect_onWire_iff host left top right bottom color bitOperation
  | bitblt x y width height bitOperation image enough =>
      simp only [OnWire, Symmetric, body, struct, bitbltStruct_wire]
      generalize hsent : (bitblt x y width height bitOperation image enough).payload host
        firmwareVersion padding = sent
      have hpayload : ∀ payload, [x, y, width, height].flatMap le16 ++ [bitOperation] ++ sent =
          [x, y, width, height].flatMap le16 ++ bitOperation :: payload ↔ payload = sent := by
        intro payload
        rw [List.append_assoc, List.append_right_inj, List.singleton_append, List.cons.injEq]
        exact ⟨fun h => h.2.symm, fun h => ⟨rfl, h.symm⟩⟩
      simp only [hpayload, exists_eq_left]
      rw [← hsent]
      by_cases hrle : compresses firmwareVersion = true
      · simp only [payload, if_pos hrle]
        exact rleDecode_encode_iff host _
      · simp only [payload, if_neg hrle]
        exact flatMap_store16_eq_iff host _
  | copyArea srcX srcY destX destY width height =>
      simp only [OnWire, Symmetric, body, struct, payload, copyAreaStruct_fields]
      exact ⟨fun _ _ => trivial, fun _ => trivial⟩

end Format

section Laws

/-! ## The laws -/

variable (call : DisplayCall)

/-- **The two-run law.**  On a big-endian host and on a little-endian one, whose fresh memory may
hold different things, the call comes to the same.  Where the call is padded, the transfers
may differ in the byte that pads them. -/
def SameBytes (firmwareVersion : UInt16) : Prop :=
  ∀ (env : Environment) (garbage : Nat → UInt8) (maxPacketSize : CInt),
    call.run env .big maxPacketSize firmwareVersion =
        call.run { env with garbage := garbage } .little maxPacketSize firmwareVersion ∨
      (call.pads firmwareVersion = true ∧ ∃ before after length,
        call.run env .big maxPacketSize firmwareVersion =
          .ok ⟨before ++ some (env.garbage 0) :: after, length⟩ ∧
        call.run { env with garbage := garbage } .little maxPacketSize firmwareVersion =
          .ok ⟨before ++ some (garbage 0) :: after, length⟩)

/-- **Little endian on the wire.**  On every host, a transfer of which every byte was written
carries the wire format. -/
def LittleEndian (firmwareVersion : UInt16) : Prop :=
  ∀ (env : Environment) (host : HostOrder) (maxPacketSize : CInt) (stream : List UInt8) (length : Int),
    call.run env host maxPacketSize firmwareVersion = .ok ⟨stream.map some, length⟩ →
      ∃ body, Packetised (packetSize maxPacketSize)
          (firstCommand env.displayStatus (call.command firmwareVersion))
          (call.command firmwareVersion) body stream ∧
        call.OnWire firmwareVersion (env.garbage 0) body

/-- A call that can be sent has only symmetric values that are not converted. -/
def Converted (firmwareVersion : UInt16) : Prop :=
  call.Sendable firmwareVersion → call.Symmetric firmwareVersion

end Laws

section Hosts

/-! ## Two hosts -/

variable {call : DisplayCall} {env : Environment} {firmwareVersion : UInt16}

theorem packetStruct_eq {packet packet' : PacketStruct} (hcmd : packet.cmdFlag = packet'.cmdFlag)
    (hfields : packet.fields = packet'.fields) : packet = packet' := by
  cases packet
  cases packet'
  simp only at hcmd hfields
  subst hcmd hfields
  rfl

theorem fillrectStruct_same {color : UInt16} (htwin : TwinBytes color) (left top right bottom : UInt16)
    (bitOperation : UInt8) :
    fillrectStruct .big left top right bottom color bitOperation =
      fillrectStruct .little left top right bottom color bitOperation := by
  refine packetStruct_eq (by rfl) ?_
  rw [fillrectStruct_fields, fillrectStruct_fields,
    (store16_eq_le16_iff .big color).mpr fun _ => htwin]
  rfl

/-- Two hosts fill in the same packet structure. -/
theorem struct_same (hconverted : call.Converted firmwareVersion) :
    call.struct .big firmwareVersion = call.struct .little firmwareVersion := by
  cases call with
  | fill color =>
      by_cases hold : firmwareVersion < RP_USB_DISPLAY_MIN_VERSION_FILL
      · simp only [struct, if_pos hold]
        exact fillrectStruct_same (hconverted trivial hold) _ _ _ _ _
      · simp only [struct, if_neg hold]
        refine packetStruct_eq (by rfl) ?_
        rw [fillStruct_fields, fillStruct_fields]
  | fillrect => exact fillrectStruct_same (hconverted trivial) _ _ _ _ _
  | bitblt =>
      refine packetStruct_eq (by rfl) ?_
      simp only [struct, bitbltStruct_wire]
  | copyArea =>
      refine packetStruct_eq (by rfl) ?_
      simp only [struct, copyAreaStruct_fields]

/-- Symmetric pixels are the same in the memory of two hosts. -/
theorem pixels_same {pixels : List Pixel} (htwins : ∀ p ∈ pixels, TwinBytes p) :
    pixels.flatMap (store16 .big) = pixels.flatMap (store16 .little) := by
  rw [(flatMap_store16_eq_iff .big pixels).mpr fun _ => htwins,
    (flatMap_store16_eq_iff .little pixels).mpr nofun]

/-- And so are the sections that stand for them. -/
theorem sections_same {ss : List (Section Pixel)} (hwell : ∀ s ∈ ss, s.WellFormed 128)
    (htwins : ∀ p ∈ expand ss, TwinBytes p) :
    ss.flatMap (sectionBytes .big) = ss.flatMap (sectionBytes .little) := by
  apply List.flatMap_congr
  intro s hs
  have hsymbols : ∀ p ∈ s.symbols, TwinBytes p :=
    fun p hp => htwins p (List.mem_flatMap.mpr ⟨s, hs, hp⟩)
  cases s with
  | literal ps =>
      have hpixels : ps.flatMap (store16 .big) = ps.flatMap (store16 .little) :=
        pixels_same hsymbols
      simp only [sectionBytes, hpixels]
  | common p count =>
      have hpos : 1 ≤ count := (hwell _ hs).1
      have htwin : TwinBytes p := by
        apply hsymbols
        exact List.mem_replicate.mpr ⟨by omega, rfl⟩
      have hstored : store16 .big p = le16 p := (store16_eq_le16_iff .big p).mpr fun _ => htwin
      simp only [sectionBytes, hstored]
      rfl

/-- What fresh memory holds is nothing to a copy. -/
theorem copyOf_garbage (garbage : Nat → UInt8) (source : List UInt8) (size : Nat) :
    copyOf { env with garbage := garbage } source size = copyOf env source size := rfl

/-- The copy of a picture. -/
theorem copyOf_congr {source source' : List UInt8} {size : Nat} (hsize : size ≤ source.length)
    (hsize' : size ≤ source'.length) (htake : source.take size = source'.take size) :
    copyOf env source size = copyOf env source' size := by
  unfold copyOf
  by_cases hgranted : env.malloc.succeeds size = true
  · simp only [dif_pos hgranted, dif_pos hsize, dif_pos hsize', htake]
  · rw [dif_neg hgranted, dif_neg hgranted]

/-- **Compression of symmetric pixels** is the same on two hosts. -/
theorem compressed_same {payload : Buffer} {pixels : List Pixel}
    (htwins : ∀ p ∈ pixels, TwinBytes p)
    (hpayload : payload.bytes = pixels.flatMap (store16 .little)) (garbage : Nat → UInt8) :
    compressed env .big payload = compressed { env with garbage := garbage } .little payload := by
  have hbig : payload.bytes = pixels.flatMap (store16 .big) := by rw [hpayload, pixels_same htwins]
  have hlen : payload.bytes.length = 2 * pixels.length := by
    rw [hpayload, flatMap_store16_length]
  by_cases hpos : 0 < pixels.length
  · have hcap : 3 ≤ 128 := by decide
    have hsame : compressedPicture .big payload.bytes = compressedPicture .little payload.bytes := by
      unfold compressedPicture
      conv => lhs; rw [hbig, hostPixels_store16]
      conv => rhs; rw [hpayload, hostPixels_store16]
      apply sections_same (encode_wellFormed hcap reopenCommon_reopens pixels)
      rwa [expand_encode hcap reopenCommon_reopens]
    rw [compressed_eq env .big hpos hlen, compressed_eq _ .little hpos hlen, hsame]
    rfl
  · have hempty : payload.bytes = [] := List.length_eq_zero_iff.mp (by omega)
    rw [compressed_empty env .big hempty, compressed_empty _ .little hempty]

/-- **Two hosts prepare the same**, where nothing pads the call. -/
theorem prepare_same (hconverted : call.Converted firmwareVersion)
    (hpads : call.pads firmwareVersion = false) (garbage : Nat → UInt8) :
    call.prepare env .big firmwareVersion =
      call.prepare { env with garbage := garbage } .little firmwareVersion := by
  cases call with
  | fill => rfl
  | fillrect => rfl
  | bitblt x y width height bitOperation image enough =>
      have hsize := bitbltPayloadSize_eq width height
      by_cases harea : (2 * (width.toNat * height.toNat) : Int) ≤ INT_MAX
      · rw [if_pos harea] at hsize
        have htwins : ∀ p ∈ image.take (width.toNat * height.toNat), TwinBytes p := by
          -- a picture without pixels cannot be compressed, but is symmetric
          by_cases hpixels : 0 < width.toNat * height.toNat
          · exact hconverted ⟨harea, fun _ => hpixels⟩
          · have hnone : width.toNat * height.toNat = 0 := by omega
            rw [hnone]
            exact fun p hp => absurd hp List.not_mem_nil
        have hlength : ∀ host : HostOrder,
            2 * (width.toNat * height.toNat) ≤ (image.flatMap (store16 host)).length := by
          intro host
          rw [flatMap_store16_length]
          omega
        have hcopies : copyOf env (image.flatMap (store16 .big)) (2 * (width.toNat * height.toNat)) =
            copyOf env (image.flatMap (store16 .little)) (2 * (width.toNat * height.toNat)) := by
          apply copyOf_congr (hlength .big) (hlength .little)
          rw [take_flatMap_store16 .big enough, take_flatMap_store16 .little enough,
            pixels_same htwins]
        simp only [prepare, hsize, ok_bind, copyOf_garbage, hcopies]
        cases hcopy : copyOf env (image.flatMap (store16 .little)) (2 * (width.toNat * height.toNat)) with
        | error stop => simp only [error_bind]
        | ok copy =>
            have hbytes := copyOf_bytes hcopy
            rw [take_flatMap_store16 .little enough] at hbytes
            simp only [ok_bind]
            by_cases hrle : compresses firmwareVersion = true
            · rw [if_pos hrle, if_pos hrle, compressed_same htwins hbytes garbage]
            · rw [if_neg hrle, if_neg hrle]
      · rw [if_neg harea] at hsize
        simp only [prepare, hsize, error_bind]
  | copyArea =>
      simp only [prepare, hpads]
      rfl

/-- **A payload of one byte** has its place in the transfer, whatever it is. -/
theorem transferBuffer_single (displayStatus : UInt8) {maxPacketSize : CInt}
    (hmin : INT_MIN < maxPacketSize.val) {packet : PacketStruct} {payload payload' : Buffer}
    {b b' : UInt8} (hbytes : payload.bytes = [b]) (hbytes' : payload'.bytes = [b']) :
    transferBuffer displayStatus maxPacketSize packet payload =
        transferBuffer displayStatus maxPacketSize packet payload' ∨
      ∃ before after,
        transferBuffer displayStatus maxPacketSize packet payload = before ++ some b :: after ∧
          transferBuffer displayStatus maxPacketSize packet payload' = before ++ some b' :: after := by
  have hbody : commandBody packet (some payload) = packet.fields ++ [b] := by
    rw [commandBody, payloadBytes, hbytes]
  have hbody' : commandBody packet (some payload') = packet.fields ++ [b'] := by
    rw [commandBody, payloadBytes, hbytes']
  have hlength : (packet.fields ++ [b']).length = (packet.fields ++ [b]).length := by
    rw [List.length_append, List.length_append]
    rfl
  unfold transferBuffer packetsOf
  rw [hbody, hbody', hlength]
  by_cases hpackets : 2 ≤ maxPacketSize.val ∨
      maxPacketSize.val + ((packet.fields ++ [b]).length + 1) < 2
  · obtain ⟨before, after, hframes⟩ := frames_flatten_concat
      (firstCommand displayStatus packet.cmdFlag) packet.cmdFlag (capacity_pos hmin hpackets)
      packet.fields
    refine Or.inr ⟨before.map some, after.map some, ?_, ?_⟩
    · rw [if_pos hpackets, hframes b, List.map_append, List.map_cons]
    · rw [if_pos hpackets, hframes b', List.map_append, List.map_cons]
  · rw [if_neg hpackets, if_neg hpackets]
    exact Or.inl rfl

/-- What fresh memory holds is nothing to the sending of a command. -/
theorem sendCommandWithInt_garbage (garbage : Nat → UInt8) (maxPacketSize : CInt)
    (packet : PacketStruct) (payload : Buffer) :
    sendCommandWithInt { env with garbage := garbage } maxPacketSize packet payload =
      sendCommandWithInt env maxPacketSize packet payload := rfl

/-- **A command with a payload of one byte** is sent alike, whatever the byte is. -/
theorem sendCommandWithInt_single (maxPacketSize : CInt) {packet : PacketStruct}
    (hfields : packet.fields.length < 2 ^ 61) {payload payload' : Buffer} {b b' : UInt8}
    (hbytes : payload.bytes = [b]) (hbytes' : payload'.bytes = [b']) :
    sendCommandWithInt env maxPacketSize packet payload =
        sendCommandWithInt env maxPacketSize packet payload' ∨
      ∃ before after length,
        sendCommandWithInt env maxPacketSize packet payload =
          .ok ⟨before ++ some b :: after, length⟩ ∧
        sendCommandWithInt env maxPacketSize packet payload' =
          .ok ⟨before ++ some b' :: after, length⟩ := by
  by_cases hmin : INT_MIN < maxPacketSize.val
  · by_cases hone : maxPacketSize.val = 1
    · rw [sendCommandWithInt_divides env hone, sendCommandWithInt_divides env hone]
      exact Or.inl rfl
    · have hlength : (commandBody packet (some payload)).length = packet.fields.length + 1 := by
        rw [commandBody, payloadBytes, hbytes, List.length_append, List.length_singleton]
      have hlength' : (commandBody packet (some payload')).length = packet.fields.length + 1 := by
        rw [commandBody, payloadBytes, hbytes', List.length_append, List.length_singleton]
      have hroom : (transferBuffer env.displayStatus maxPacketSize packet payload').length =
          (transferBuffer env.displayStatus maxPacketSize packet payload).length := by
        rw [transferBuffer_length _ _ _ hmin, transferBuffer_length _ _ _ hmin, hlength, hlength']
      rw [sendCommandWithInt_eq env hmin hone (by omega), sendCommandWithInt_eq env hmin hone (by omega),
        hlength, hlength', hroom]
      by_cases hgranted : env.grants (packet.fields.length + 1 + 1)
          (transferBuffer env.displayStatus maxPacketSize packet payload).length = true
      · rw [if_pos hgranted, if_pos hgranted]
        rcases transferBuffer_single env.displayStatus hmin hbytes hbytes' with
          heq | ⟨before, after, hbuffer, hbuffer'⟩
        · rw [heq]
          exact Or.inl rfl
        · have hok : ∀ {cells cells' : List (Option UInt8)} {length : Int}, cells = cells' →
              (Except.ok ⟨cells, length⟩ : Except Stop Submission) = .ok ⟨cells', length⟩ :=
            fun h => by rw [h]
          exact Or.inr ⟨before, after, _, hok hbuffer, hok hbuffer'⟩
      · rw [if_neg hgranted, if_neg hgranted]
        exact Or.inl rfl
  · rw [sendCommandWithInt_overflows env hmin, sendCommandWithInt_overflows env hmin]
    exact Or.inl rfl

/-- **The two-run law** of a converted call. -/
theorem Converted.sameBytes (hconverted : call.Converted firmwareVersion) :
    call.SameBytes firmwareVersion := by
  intro env garbage maxPacketSize
  cases hpads : call.pads firmwareVersion with
  | false =>
      refine Or.inl ?_
      have hsend : sendCommand { env with garbage := garbage } = sendCommand env := by
        funext mps packet payload
        cases payload <;> exact sendCommandWithInt_garbage garbage _ _ _
      rw [run_eq, run_eq, struct_same hconverted, prepare_same hconverted hpads garbage, hsend]
  | true =>
      rw [run_eq, run_eq, struct_same hconverted]
      cases call with
      | copyArea srcX srcY destX destY width height =>
          have hfields := (struct_fields_length (copyArea srcX srcY destX destY width height)
            .little firmwareVersion).2
          unfold sizeofCopyareaPacket at hfields
          have hprepare : ∀ (env : Environment) (host : HostOrder),
              (copyArea srcX srcY destX destY width height).prepare env host firmwareVersion =
                some <$> freshBuffer env 1 := fun _ _ => if_pos hpads
          rw [hprepare, hprepare]
          by_cases hgranted : env.malloc.succeeds 1 = true
          · obtain ⟨padding, hpadding, hbytes⟩ := freshBuffer_ok hgranted
            obtain ⟨padding', hpadding', hbytes'⟩ :=
              @freshBuffer_ok { env with garbage := garbage } 1 hgranted
            rw [hpadding, hpadding']
            have hlt : ((copyArea srcX srcY destX destY width height).struct .little
                firmwareVersion).fields.length < 2 ^ 61 := by omega
            rcases @sendCommandWithInt_single env maxPacketSize _ hlt _ _ _ _ hbytes hbytes' with
              hsame | ⟨before, after, length, hbig, hlittle⟩
            · exact Or.inl hsame
            · exact Or.inr ⟨rfl, before, after, length, hbig, hlittle⟩
          · refine Or.inl ?_
            unfold freshBuffer
            rw [dif_neg hgranted, dif_neg hgranted]
            rfl
      | _ => cases hpads

theorem fullSpeed_range : INT_MIN ≤ 64 ∧ 64 ≤ INT_MAX := by
  decide

/-- Packets of 64 bytes. -/
def fullSpeed : CInt := ⟨64, fullSpeed_range⟩

/-- A converted call is little endian on the wire. -/
theorem Converted.littleEndian (hconverted : call.Converted firmwareVersion) :
    call.LittleEndian firmwareVersion := by
  intro env host maxPacketSize stream length hrun
  obtain ⟨hpackets, hsendable⟩ := run_written hrun
  exact ⟨_, hpackets, (onWire_iff call host firmwareVersion _).mpr fun _ => hconverted hsendable⟩

/-- **A call that is little endian on the wire** is converted. -/
theorem converted_of_littleEndian (h : call.LittleEndian firmwareVersion) :
    call.Converted firmwareVersion := by
  intro hsendable
  obtain ⟨stream, length, hrun⟩ := run_willing Environment.generous_willing hsendable .big
    (show 2 ≤ fullSpeed.val by decide)
  obtain ⟨body, hcarried, hwire⟩ := h _ _ _ _ _ hrun
  obtain ⟨hpackets, _⟩ := run_written hrun
  rw [← hcarried.body_eq, hpackets.body_eq] at hwire
  exact (onWire_iff call .big firmwareVersion _).mp hwire rfl

/-- **A call that is the same on two hosts** is converted. -/
theorem converted_of_sameBytes (h : call.SameBytes firmwareVersion) :
    call.Converted firmwareVersion := by
  intro hsendable
  obtain ⟨stream, length, hbig⟩ := run_willing Environment.generous_willing hsendable .big
    (show 2 ≤ fullSpeed.val by decide)
  obtain ⟨stream', length', hlittle⟩ := run_willing Environment.generous_willing hsendable .little
    (show 2 ≤ fullSpeed.val by decide)
  rcases h .generous Environment.generous.garbage fullSpeed with hsame | ⟨hpads, _⟩
  · have hcells : stream.map some = stream'.map some :=
      congrArg Submission.buffer (Except.ok.inj (hbig.symm.trans (hsame.trans hlittle)))
    obtain rfl := (List.map_inj_right fun _ _ h => Option.some.inj h).mp hcells
    have hbody := (run_written hbig).1.body_eq.symm.trans (run_written hlittle).1.body_eq
    have hwire := (onWire_iff call .little firmwareVersion (Environment.generous.garbage 0)).mpr nofun
    rw [← hbody] at hwire
    exact (onWire_iff call .big firmwareVersion _).mp hwire rfl
  · -- only a copy is padded, and it has nothing that is not converted
    cases call with
    | copyArea => trivial
    | _ => cases hpads

end Hosts

section Fill

/-! ## The two paths of `fill` -/

/-- The data that the packets of a transfer carry. -/
def carried (maxPacketSize : CInt) (stream : List UInt8) : List UInt8 :=
  ((cut (packetSize maxPacketSize) stream).map List.tail).flatten

/-- **Both paths of `fill` send the same colour**: that of the rectangle, which comes after its
four sides, and that of the fill packet. -/
def FillPathsAgree (color : UInt16) : Prop :=
  ∀ (host : HostOrder) (env env' : Environment) (maxPacketSize maxPacketSize' : CInt)
    (old new : UInt16) (stream stream' : List UInt8) (length length' : Int),
    old < RP_USB_DISPLAY_MIN_VERSION_FILL → ¬ new < RP_USB_DISPLAY_MIN_VERSION_FILL →
    (fill color).run env host maxPacketSize old = .ok ⟨stream.map some, length⟩ →
    (fill color).run env' host maxPacketSize' new = .ok ⟨stream'.map some, length'⟩ →
      ((carried maxPacketSize stream).drop 8).take 2 = (carried maxPacketSize' stream').take 2

/-- The colour on the path of old firmware. -/
theorem fill_old_colour (host : HostOrder) (color : UInt16) {firmwareVersion : UInt16}
    (hold : firmwareVersion < RP_USB_DISPLAY_MIN_VERSION_FILL) (padding : UInt8) :
    (((fill color).body host firmwareVersion padding).drop 8).take 2 = store16 host color := by
  simp only [body, struct, payload, if_pos hold, fillrectStruct_fields, List.append_nil,
    List.append_assoc]
  rw [List.drop_left' (by rw [flatMap_le16_length]; rfl), List.take_left' (store16_length host color)]

/-- The colour on the path of new firmware. -/
theorem fill_new_colour (host : HostOrder) (color : UInt16) {firmwareVersion : UInt16}
    (hnew : ¬ firmwareVersion < RP_USB_DISPLAY_MIN_VERSION_FILL) (padding : UInt8) :
    ((fill color).body host firmwareVersion padding).take 2 = le16 color := by
  simp only [body, struct, payload, if_neg hnew, fillStruct_fields, List.append_nil]
  rfl

theorem fillPathsAgree_iff (color : UInt16) : FillPathsAgree color ↔ TwinBytes color := by
  constructor
  · intro h
    have hold : (0 : UInt16) < RP_USB_DISPLAY_MIN_VERSION_FILL := by decide
    have hnew : ¬ RP_USB_DISPLAY_MIN_VERSION_FILL < RP_USB_DISPLAY_MIN_VERSION_FILL := by decide
    obtain ⟨stream, length, hrun⟩ := @run_willing (fill color) _ fullSpeed 0
      Environment.generous_willing trivial .big (by decide)
    obtain ⟨stream', length', hrun'⟩ := @run_willing (fill color) _ fullSpeed
      RP_USB_DISPLAY_MIN_VERSION_FILL Environment.generous_willing trivial .big (by decide)
    have hcolour := h .big _ _ _ _ _ _ _ _ _ _ hold hnew hrun hrun'
    unfold carried at hcolour
    rw [(run_written hrun).1.body_eq, (run_written hrun').1.body_eq, fill_old_colour _ _ hold,
      fill_new_colour _ _ hnew] at hcolour
    exact (store16_eq_le16_iff .big color).mp hcolour rfl
  · intro htwin host env env' maxPacketSize maxPacketSize' old new stream stream' length length'
      hold hnew hrun hrun'
    unfold carried
    rw [(run_written hrun).1.body_eq, (run_written hrun').1.body_eq, fill_old_colour _ _ hold,
      fill_new_colour _ _ hnew]
    exact (store16_eq_le16_iff host color).mpr fun _ => htwin

end Fill

end DisplayCall

/-- **When the wire format is that of no host.**  A call comes to the same on a big-endian and on
a little-endian host, and what it sends is little endian on both, exactly if each value of
it that no host converts reads the same from either end.  These values are the colour of a
rectangle, also of the one that fills the screen of old firmware, and the pixels of a picture
that can be sent.  Both paths of `fill` send the same colour exactly if it is such a value. -/
theorem wire_format_iff (call : DisplayCall) (firmwareVersion color : UInt16) :
    (call.SameBytes firmwareVersion ↔ call.Converted firmwareVersion) ∧
      (call.LittleEndian firmwareVersion ↔ call.Converted firmwareVersion) ∧
        (DisplayCall.FillPathsAgree color ↔ TwinBytes color) :=
  ⟨⟨DisplayCall.converted_of_sameBytes, DisplayCall.Converted.sameBytes⟩,
    ⟨DisplayCall.converted_of_littleEndian, DisplayCall.Converted.littleEndian⟩,
    DisplayCall.fillPathsAgree_iff color⟩

/-- A red rectangle. -/
def redRectangle : DisplayCall := .fillrect 0 0 319 239 0xF800 RoboPeakUsbDisplayBitOperationCopy

/-- What the rectangle comes to where nothing is refused. -/
theorem redRectangle_run (host : HostOrder) {bytes : List UInt8}
    (hbuffer : transferBuffer 0x80 DisplayCall.fullSpeed (redRectangle.struct host 0x0104) noPayload =
      bytes.map some) (hlength : bytes.length = 12) :
    redRectangle.run .generous host DisplayCall.fullSpeed 0x0104 = .ok ⟨bytes.map some, 12⟩ := by
  have hbody : (commandBody (redRectangle.struct host 0x0104) (some noPayload)).length < 2 ^ 62 :=
    (@DisplayCall.commandBody_eq redRectangle .generous host 0x0104 none rfl).2
  show sendCommandWithInt .generous DisplayCall.fullSpeed (redRectangle.struct host 0x0104) noPayload = _
  have hstatus : Environment.generous.displayStatus = 0x80 := rfl
  have hgranted : Environment.generous.grants
      ((commandBody (redRectangle.struct host 0x0104) (some noPayload)).length + 1) 12 = true :=
    Environment.generous_willing.grants (by omega) (by decide)
  rw [sendCommandWithInt_eq .generous (by decide) (by decide) hbody, hstatus, hbuffer,
    List.length_map, hlength, if_pos hgranted]
  rfl

/-- **A red rectangle is another colour from a big-endian host.** -/
theorem red_rectangle_swapped :
    redRectangle.run .generous .big DisplayCall.fullSpeed 0x0104 =
        .ok ⟨[0xC3, 0, 0, 0, 0, 0x3F, 0x01, 0xEF, 0, 0xF8, 0, 0].map some, 12⟩ ∧
      redRectangle.run .generous .little DisplayCall.fullSpeed 0x0104 =
        .ok ⟨[0xC3, 0, 0, 0, 0, 0x3F, 0x01, 0xEF, 0, 0, 0xF8, 0].map some, 12⟩ ∧
      ¬ ((∀ (call : DisplayCall) (firmwareVersion : UInt16),
          call.SameBytes firmwareVersion ∧ call.LittleEndian firmwareVersion) ∧
        ∀ color, DisplayCall.FillPathsAgree color) := by
  have hbig : redRectangle.run .generous .big DisplayCall.fullSpeed 0x0104 =
      .ok ⟨[0xC3, 0, 0, 0, 0, 0x3F, 0x01, 0xEF, 0, 0xF8, 0, 0].map some, 12⟩ :=
    redRectangle_run .big (by decide) rfl
  have hlittle : redRectangle.run .generous .little DisplayCall.fullSpeed 0x0104 =
      .ok ⟨[0xC3, 0, 0, 0, 0, 0x3F, 0x01, 0xEF, 0, 0, 0xF8, 0].map some, 12⟩ :=
    redRectangle_run .little (by decide) rfl
  refine ⟨hbig, hlittle, fun h => ?_⟩
  rcases (h.1 redRectangle 0x0104).1 .generous (fun _ => 0) DisplayCall.fullSpeed with hsame | ⟨hpads, _⟩
  · have hcells := congrArg Submission.buffer
      (Except.ok.inj (hbig.symm.trans (hsame.trans hlittle)))
    exact absurd hcells (by decide)
  · cases hpads

end Sdk

end RpUsbDisp
