import RpUsbDisp.Framing
import RpUsbDisp.Protocol

/-!
# The packetiser of the SDK

`sendCommandToDisplayEndpoint` copies a packet structure and its payload into one
buffer and then cuts that buffer into packets of `maxPacketSize_`, every one of
which begins with the command.  How many packets there are, how large the
transfer buffer is and where each packet comes from is computed separately, in
`size_t`.

A buffer is a row of cells here, and a cell that was never written is empty.  An
assignment has to find its cells empty, `|=` has to find its cell written, and
nothing may be read from an empty cell: a transfer buffer that comes out without
a fault and without an empty cell has had every byte written exactly once.
-/

namespace RpUsbDisp

open Framing

namespace Sdk

/-! ## Buffers -/

inductive BufferFault where
  | badAlloc
  | outOfBounds
  | rewritten
  | unwritten
  deriving DecidableEq

/-- What `malloc` has memory for; no object is larger than `PTRDIFF_MAX`. -/
structure Malloc where
  succeeds : Nat → Bool
  size_lt : ∀ size, succeeds size = true → size < 2 ^ 63

/-- A filled `Buffer`. -/
structure Buffer where
  bytes : List UInt8
  size_lt : bytes.length < 2 ^ 63

/-- A packet structure in memory: its header, which is the command, and the fields
after it. -/
structure PacketStruct where
  cmdFlag : UInt8
  fields : List UInt8
  size_lt : fields.length < 2 ^ 62

namespace PacketStruct

def toBytes (packet : PacketStruct) : List UInt8 :=
  packet.cmdFlag :: packet.fields

end PacketStruct

/-- `new Buffer(size)`. -/
def newBuffer (malloc : Malloc) (size : Nat) : Except BufferFault (List (Option UInt8)) :=
  if malloc.succeeds size then .ok (List.replicate size none) else .error .badAlloc

/-- Assign bytes to cells that are still empty. -/
def writeOnce (block : List (Option UInt8)) (pos : Nat) (bytes : List UInt8) :
    Except BufferFault (List (Option UInt8)) :=
  if block.length < pos + bytes.length then .error .outOfBounds
  else if ((block.drop pos).take bytes.length).any Option.isSome then .error .rewritten
  else .ok (block.take pos ++ bytes.map some ++ block.drop (pos + bytes.length))

/-- `block[pos] |= mask`. -/
def orInto (block : List (Option UInt8)) (pos : Nat) (mask : UInt8) :
    Except BufferFault (List (Option UInt8)) :=
  match block[pos]? with
  | some (some byte) => .ok (block.set pos (some (byte ||| mask)))
  | some none => .error .unwritten
  | none => .error .outOfBounds

/-- Read cells, which must have been written. -/
def readBlock (block : List (Option UInt8)) (pos length : Nat) :
    Except BufferFault (List UInt8) :=
  if block.length < pos + length then .error .outOfBounds
  else
    match ((block.drop pos).take length).mapM id with
    | some bytes => .ok bytes
    | none => .error .unwritten

section Code

/-! ## Building the transfer buffer -/

variable (malloc : Malloc) (maxPacketSize : Nat) (displayStatus : UInt8)

/-- The first buffer: the structure, followed by the payload. -/
def overallBuffer (packet : PacketStruct) (payload : Option Buffer) (totalSize : Nat) :
    Except BufferFault (List (Option UInt8)) := do
  let block ← newBuffer malloc totalSize
  let block ← writeOnce block 0 packet.toBytes
  match payload with
  | none => return block
  | some payload => writeOnce block packet.toBytes.length payload.bytes

/-- The flags of the first packet. -/
def markPacket (nakedTransferBuffer : List (Option UInt8)) (packetIndex transferBufferOffset : Nat) :
    Except BufferFault (List (Option UInt8)) :=
  if packetIndex = 0 then do
    let block ← orInto nakedTransferBuffer transferBufferOffset RPUSBDISP_CMD_FLAG_START
    if displayStatus &&& RPUSBDISP_DISPLAY_STATUS_DIRTY_FLAG ≠ 0 then
      orInto block transferBufferOffset RPUSBDISP_CMD_FLAG_CLEARDITY
    else .ok block
  else .ok nakedTransferBuffer

/-- The body of the loop over the packets. -/
def packetStep (scopeNakedBuffer : List (Option UInt8)) (totalSize : Nat)
    (nakedTransferBuffer : List (Option UInt8)) (packetIndex : Nat) :
    Except BufferFault (List (Option UInt8)) := do
  let packetOffset := sizeAdd (sizeMul packetIndex (maxPacketSize - 1)) 1
  let payloadSize := maxPacketSize - 1
  let payloadSize :=
    if payloadSize > sizeSub totalSize packetOffset then sizeSub totalSize packetOffset
    else payloadSize
  let transferBufferOffset := sizeMul packetIndex maxPacketSize
  let cmd ← readBlock scopeNakedBuffer 0 1
  let block ← writeOnce nakedTransferBuffer transferBufferOffset cmd
  let block ← markPacket displayStatus block packetIndex transferBufferOffset
  let bytes ← readBlock scopeNakedBuffer packetOffset payloadSize
  writeOnce block (transferBufferOffset + 1) bytes

/-- `sendCommandToDisplayEndpoint`, up to the transfer buffer it submits.
`displayStatus` is that of the last status packet. -/
def sendCommandToDisplayEndpoint (packet : PacketStruct) (payload : Option Buffer) :
    Except BufferFault (List (Option UInt8)) := do
  let totalSize :=
    match payload with
    | none => packet.toBytes.length
    | some payload => sizeAdd packet.toBytes.length payload.bytes.length
  let packetCount := sizeSub (sizeAdd (sizeSub totalSize 1) maxPacketSize) 1 / (maxPacketSize - 1)
  let scopeNakedBuffer ← overallBuffer malloc packet payload totalSize
  let transferBufferSize := sizeSub (sizeAdd totalSize packetCount) 1
  let transferBuffer ← newBuffer malloc transferBufferSize
  (List.range packetCount).foldlM
    (packetStep maxPacketSize displayStatus scopeNakedBuffer totalSize) transferBuffer

end Code

section Cells

/-! ## Cells -/

variable {block : List (Option UInt8)} {written bytes : List UInt8} {free : Nat}

/-- **An assignment behind what is written** extends it. -/
theorem writeOnce_fresh (h : bytes.length ≤ free) :
    writeOnce (written.map some ++ List.replicate free none) written.length bytes =
      .ok ((written ++ bytes).map some ++ List.replicate (free - bytes.length) none) := by
  have hlen : (written.map some).length = written.length := List.length_map _
  have hroom : ¬ (written.map some ++ List.replicate free none).length <
      written.length + bytes.length := by
    rw [List.length_append, hlen, List.length_replicate]
    omega
  have hempty : (((written.map some ++ List.replicate free (none : Option UInt8)).drop
      written.length).take bytes.length).any Option.isSome = false := by
    rw [← hlen, List.drop_left, List.take_replicate, List.any_replicate]
    simp
  rw [writeOnce, if_neg hroom, hempty, if_neg Bool.false_ne_true]
  congr 1
  rw [← hlen, List.take_left, ← List.drop_drop, List.drop_left, List.drop_replicate, List.map_append]

theorem orInto_last {rest : List (Option UInt8)} (byte mask : UInt8) :
    orInto ((written ++ [byte]).map some ++ rest) written.length mask =
      .ok ((written ++ [byte ||| mask]).map some ++ rest) := by
  have hread : ((written ++ [byte]).map some ++ rest)[written.length]? = some (some byte) := by
    simp
  rw [orInto, hread]
  simp

/-- What was written can be read. -/
theorem readBlock_written {pos length : Nat} (h : pos + length ≤ written.length) :
    readBlock (written.map some) pos length = .ok ((written.drop pos).take length) := by
  have hroom : ¬ (written.map some).length < pos + length := by
    rw [List.length_map]
    omega
  have hsome : ∀ bytes : List UInt8, (bytes.map some).mapM id = some bytes := by
    intro bytes
    induction bytes with
    | nil => rfl
    | cons b bytes ih => simp [ih]
  rw [readBlock, if_neg hroom, ← List.map_drop, ← List.map_take, hsome]

end Cells

section Packets

/-! ## The packets -/

/-- The command of the first packet. -/
def firstCommand (displayStatus cmdFlag : UInt8) : UInt8 :=
  if displayStatus &&& RPUSBDISP_DISPLAY_STATUS_DIRTY_FLAG ≠ 0 then
    cmdFlag ||| RPUSBDISP_CMD_FLAG_START ||| RPUSBDISP_CMD_FLAG_CLEARDITY
  else cmdFlag ||| RPUSBDISP_CMD_FLAG_START

variable {maxPacketSize : Nat} {displayStatus cmdFlag : UInt8} {body : List UInt8}

theorem markPacket_ok (displayStatus cmdFlag : UInt8) (i : Nat) (written : List UInt8)
    (rest : List (Option UInt8)) :
    markPacket displayStatus ((written ++ [cmdFlag]).map some ++ rest) i written.length =
      .ok ((written ++ [if i = 0 then firstCommand displayStatus cmdFlag else cmdFlag]).map some ++
        rest) := by
  unfold markPacket firstCommand
  by_cases hzero : i = 0
  · rw [if_pos hzero, if_pos hzero, orInto_last]
    show (if displayStatus &&& RPUSBDISP_DISPLAY_STATUS_DIRTY_FLAG ≠ 0 then _ else _) = _
    by_cases hdirty : displayStatus &&& RPUSBDISP_DISPLAY_STATUS_DIRTY_FLAG ≠ 0
    · rw [if_pos hdirty, if_pos hdirty, orInto_last]
    · rw [if_neg hdirty, if_neg hdirty]
  · rw [if_neg hzero, if_neg hzero]

/-- What the loop has written before packet `i`. -/
def packetsTo (maxPacketSize : Nat) (displayStatus cmdFlag : UInt8) (body : List UInt8) (i : Nat) :
    List UInt8 :=
  ((frames (firstCommand displayStatus cmdFlag) cmdFlag (maxPacketSize - 1) body).take i).flatten

/-- **One packet** is written behind the others. -/
theorem packetStep_ok (hmps : 2 ≤ maxPacketSize) (hbody : body.length < 2 ^ 63) {i free : Nat} (hi : i ≤ body.length / (maxPacketSize - 1))
    (hfree : 1 + ((body.drop (i * (maxPacketSize - 1))).take (maxPacketSize - 1)).length ≤ free) :
    packetStep maxPacketSize displayStatus ((cmdFlag :: body).map some) (body.length + 1)
        ((packetsTo maxPacketSize displayStatus cmdFlag body i).map some ++
          List.replicate free none) i =
      .ok ((packetsTo maxPacketSize displayStatus cmdFlag body (i + 1)).map some ++
        List.replicate
          (free - (1 + ((body.drop (i * (maxPacketSize - 1))).take (maxPacketSize - 1)).length))
          none) := by
  obtain ⟨m, rfl⟩ : ∃ m, maxPacketSize = m + 1 := ⟨maxPacketSize - 1, by omega⟩
  rw [Nat.add_sub_cancel] at hi hfree ⊢
  have hm : 0 < m := by omega
  have hle : i * m ≤ body.length :=
    Nat.le_trans (Nat.mul_le_mul_right m hi) (Nat.div_mul_le_self body.length m)
  have hcount : i ≤ body.length := Nat.le_trans hi (Nat.div_le_self body.length m)
  have hmul : i * (m + 1) = i * m + i := Nat.mul_succ i m
  have hwritten : (packetsTo (m + 1) displayStatus cmdFlag body i).length = i * (m + 1) :=
    frames_take_length hi
  have hnext : packetsTo (m + 1) displayStatus cmdFlag body (i + 1) =
      packetsTo (m + 1) displayStatus cmdFlag body i ++
        ((if i = 0 then firstCommand displayStatus cmdFlag else cmdFlag) ::
          (body.drop (i * m)).take m) := by
    rw [packetsTo, Nat.add_sub_cancel, List.take_add_one, frames_getElem? hi, Option.toList_some,
      List.flatten_append, List.flatten_singleton]
    rfl
  generalize packetsTo (m + 1) displayStatus cmdFlag body i = written at hwritten hnext ⊢
  generalize hcarried : (body.drop (i * m)).take m = carried at hfree hnext ⊢
  -- where the packet comes from and where it goes
  have hoffset : sizeAdd (sizeMul i m) 1 = i * m + 1 := by
    rw [sizeMul_of_lt (by omega), sizeAdd_of_lt (by omega)]
  have htarget : sizeMul i (m + 1) = written.length := by
    rw [sizeMul_of_lt (by omega), hwritten]
  have hsize : (if m > sizeSub (body.length + 1) (i * m + 1) then
      sizeSub (body.length + 1) (i * m + 1) else m) = carried.length := by
    rw [sizeSub_of_le (by omega), ← hcarried, List.length_take, List.length_drop]
    split <;> omega
  have hcmd : readBlock ((cmdFlag :: body).map some) 0 1 = .ok [cmdFlag] :=
    readBlock_written (by rw [List.length_cons]; omega)
  have hread : readBlock ((cmdFlag :: body).map some) (i * m + 1) carried.length = .ok carried := by
    have hfits : i * m + 1 + carried.length ≤ (cmdFlag :: body).length := by
      rw [← hcarried, List.length_take, List.length_drop, List.length_cons]
      omega
    rw [readBlock_written hfits, List.drop_succ_cons, ← hcarried, List.length_take]
    congr 1
    rw [List.take_eq_take_iff, List.length_drop]
    omega
  -- the payload goes behind the command, whatever that has become
  have hpayload : ∀ cmd : UInt8,
      writeOnce ((written ++ [cmd]).map some ++ List.replicate (free - [cmdFlag].length) none)
          (written.length + 1) carried =
        .ok ((written ++ cmd :: carried).map some ++
          List.replicate (free - (1 + carried.length)) none) := by
    intro cmd
    have hpos : written.length + 1 = (written ++ [cmd]).length := by
      rw [List.length_append, List.length_singleton]
    have hroom : carried.length ≤ free - [cmdFlag].length := by
      rw [List.length_singleton]
      omega
    rw [hpos, writeOnce_fresh hroom, List.append_assoc, List.singleton_append,
      List.length_singleton, Nat.sub_sub]
  have hassign : writeOnce (written.map some ++ List.replicate free none) written.length [cmdFlag] =
      .ok ((written ++ [cmdFlag]).map some ++ List.replicate (free - [cmdFlag].length) none) := by
    apply writeOnce_fresh
    rw [List.length_singleton]
    omega
  unfold packetStep
  simp only [Nat.add_sub_cancel, hoffset, htarget, hsize]
  rw [hcmd]
  show (writeOnce _ _ [cmdFlag] >>= _) = _
  rw [hassign, hnext]
  show (markPacket _ _ _ _ >>= _) = _
  rw [markPacket_ok]
  show (readBlock _ _ _ >>= _) = _
  rw [hread]
  exact hpayload _

/-- **The loop** writes one packet after the other into a buffer that is large enough. -/
theorem packets_ok (hmps : 2 ≤ maxPacketSize) (hbody : body.length < 2 ^ 63) {free i : Nat} (hi : i ≤ body.length / (maxPacketSize - 1) + 1)
    (hfree : (packetsTo maxPacketSize displayStatus cmdFlag body i).length ≤ free) :
    (List.range i).foldlM (packetStep maxPacketSize displayStatus ((cmdFlag :: body).map some)
        (body.length + 1)) (List.replicate free none) =
      .ok ((packetsTo maxPacketSize displayStatus cmdFlag body i).map some ++ List.replicate
        (free - (packetsTo maxPacketSize displayStatus cmdFlag body i).length) none) := by
  induction i with
  | zero => simp [packetsTo, pure, Except.pure]
  | succ i ih =>
      have hlength : (packetsTo maxPacketSize displayStatus cmdFlag body (i + 1)).length =
          (packetsTo maxPacketSize displayStatus cmdFlag body i).length +
            (1 + ((body.drop (i * (maxPacketSize - 1))).take (maxPacketSize - 1)).length) := by
        rw [packetsTo, List.take_add_one, frames_getElem? (by omega), Option.toList_some,
          List.flatten_append, List.flatten_singleton, List.length_append, List.length_cons,
          packetsTo, Nat.add_comm 1]
      rw [hlength] at hfree ⊢
      rw [List.range_succ, List.foldlM_append, ih (by omega) (by omega)]
      show (packetStep _ _ _ _ _ i >>= pure) = _
      rw [packetStep_ok hmps hbody (by omega) (by omega), Nat.sub_sub]
      rfl

/-- **All packets** fill the transfer buffer. -/
theorem packets_fill (hmps : 2 ≤ maxPacketSize) (hbody : body.length < 2 ^ 63) :
    (List.range (body.length / (maxPacketSize - 1) + 1)).foldlM
        (packetStep maxPacketSize displayStatus ((cmdFlag :: body).map some) (body.length + 1))
        (List.replicate (body.length + 1 + body.length / (maxPacketSize - 1)) none) =
      .ok ((frames (firstCommand displayStatus cmdFlag) cmdFlag (maxPacketSize - 1)
        body).flatten.map some) := by
  obtain ⟨m, rfl⟩ : ∃ m, maxPacketSize = m + 1 := ⟨maxPacketSize - 1, by omega⟩
  have hm : 0 < m := by omega
  have hall : packetsTo (m + 1) displayStatus cmdFlag body (body.length / m + 1) =
      (frames (firstCommand displayStatus cmdFlag) cmdFlag m body).flatten := by
    rw [packetsTo, Nat.add_sub_cancel, List.take_of_length_le]
    exact Nat.le_of_eq (by rw [frames, List.length_map, List.length_range])
  have hlength : (packetsTo (m + 1) displayStatus cmdFlag body (body.length / m + 1)).length =
      body.length + 1 + body.length / m := by
    rw [hall, frames_flatten_length _ _ hm]
  have hloop := packets_ok hmps hbody
    (Nat.le_refl (body.length / (m + 1 - 1) + 1)) (Nat.le_of_eq hlength)
  rw [Nat.add_sub_cancel] at hloop ⊢
  rw [hloop, hlength, Nat.sub_self, List.replicate_zero, List.append_nil, hall]

/-- The payload's bytes, if there are any. -/
def payloadBytes : Option Buffer → List UInt8
  | none => []
  | some payload => payload.bytes

/-- What the packets of a command carry. -/
def commandBody (packet : PacketStruct) (payload : Option Buffer) : List UInt8 :=
  packet.fields ++ payloadBytes payload

/-- The sizes of the two buffers of a command. -/
def bufferSizes (maxPacketSize : Nat) (body : List UInt8) : List Nat :=
  [body.length + 1, body.length + 1 + body.length / (maxPacketSize - 1)]

variable {malloc : Malloc} {packet : PacketStruct} {payload : Option Buffer}

/-- The first buffer holds the structure and the payload. -/
theorem overallBuffer_ok {totalSize : Nat}
    (hsize : totalSize = (commandBody packet payload).length + 1)
    (hmalloc : malloc.succeeds totalSize = true) :
    overallBuffer malloc packet payload totalSize =
      .ok ((packet.cmdFlag :: commandBody packet payload).map some) := by
  have hroom : packet.toBytes.length ≤ totalSize := by
    rw [hsize, commandBody, PacketStruct.toBytes, List.length_cons, List.length_append]
    omega
  have hstruct : writeOnce (([] : List UInt8).map some ++ List.replicate totalSize none)
      ([] : List UInt8).length packet.toBytes =
      .ok (packet.toBytes.map some ++ List.replicate (totalSize - packet.toBytes.length) none) :=
    writeOnce_fresh hroom
  unfold overallBuffer newBuffer
  rw [if_pos hmalloc]
  show (writeOnce (([] : List UInt8).map some ++ _) ([] : List UInt8).length packet.toBytes >>= _) = _
  rw [hstruct]
  cases payload with
  | none =>
      have hfull : totalSize - packet.toBytes.length = 0 := by
        rw [hsize, commandBody, payloadBytes, List.append_nil, PacketStruct.toBytes, List.length_cons]
        omega
      rw [hfull, List.replicate_zero, List.append_nil, commandBody, payloadBytes, List.append_nil]
      rfl
  | some payload =>
      have hfull : totalSize - packet.toBytes.length = payload.bytes.length := by
        rw [hsize, commandBody, payloadBytes, PacketStruct.toBytes, List.length_cons,
          List.length_append]
        omega
      rw [hfull]
      show writeOnce _ packet.toBytes.length payload.bytes = _
      rw [writeOnce_fresh (Nat.le_refl _), Nat.sub_self, List.replicate_zero, List.append_nil]
      rfl

/-- **The transfer buffer** holds the packets of the command, unless one of the two
allocations fails. -/
theorem sendCommandToDisplayEndpoint_eq (hmps : 2 ≤ maxPacketSize)
    (hint : maxPacketSize < 2 ^ 31) :
    sendCommandToDisplayEndpoint malloc maxPacketSize displayStatus packet payload =
      if (bufferSizes maxPacketSize (commandBody packet payload)).all malloc.succeeds then
        .ok ((frames (firstCommand displayStatus packet.cmdFlag) packet.cmdFlag (maxPacketSize - 1)
          (commandBody packet payload)).flatten.map some)
      else .error .badAlloc := by
  obtain ⟨m, rfl⟩ : ∃ m, maxPacketSize = m + 1 := ⟨maxPacketSize - 1, by omega⟩
  rw [Nat.add_sub_cancel]
  have hm : 0 < m := by omega
  have hfields := packet.size_lt
  have htotal : (match payload with
      | none => packet.toBytes.length
      | some payload => sizeAdd packet.toBytes.length payload.bytes.length) =
      (commandBody packet payload).length + 1 := by
    rw [PacketStruct.toBytes, List.length_cons]
    cases payload with
    | none => rw [commandBody, payloadBytes, List.append_nil]
    | some payload =>
        have hpayload := payload.size_lt
        show sizeAdd (packet.fields.length + 1) payload.bytes.length = _
        rw [sizeAdd_of_lt (by omega), commandBody, payloadBytes, List.length_append]
        omega
  unfold sendCommandToDisplayEndpoint bufferSizes
  simp only [htotal, Nat.add_sub_cancel, List.all_cons, List.all_nil, Bool.and_true, Bool.and_eq_true]
  generalize hbody : commandBody packet payload = body
  rw [hbody] at htotal
  by_cases hfirst : malloc.succeeds (body.length + 1) = true
  · have hlt := malloc.size_lt _ hfirst
    have hdiv : body.length / m ≤ body.length := Nat.div_le_self body.length m
    have hnonneg : 0 ≤ body.length / m := Nat.zero_le _
    have hcount : sizeSub (sizeAdd (sizeSub (body.length + 1) 1) (m + 1)) 1 / m =
        body.length / m + 1 := by
      have hrest : sizeSub (body.length + 1) 1 = body.length := sizeSub_of_le (by omega)
      have hsum : sizeAdd body.length (m + 1) = body.length + m + 1 := sizeAdd_of_lt (by omega)
      have hup : sizeSub (body.length + m + 1) 1 = body.length + m := sizeSub_of_le (by omega)
      rw [hrest, hsum, hup, Nat.add_div_right _ hm]
    have hroom : sizeSub (sizeAdd (body.length + 1) (body.length / m + 1)) 1 =
        body.length + 1 + body.length / m := by
      have hsum : sizeAdd (body.length + 1) (body.length / m + 1) =
          body.length + 1 + body.length / m + 1 := sizeAdd_of_lt (by omega)
      rw [hsum]
      exact sizeSub_of_le (by omega)
    rw [overallBuffer_ok (by rw [hbody]) hfirst]
    show (newBuffer malloc _ >>= _) = _
    rw [hcount, hroom, hbody]
    by_cases hsecond : malloc.succeeds (body.length + 1 + body.length / m) = true
    · rw [newBuffer, if_pos hsecond, if_pos ⟨hfirst, hsecond⟩]
      exact packets_fill hmps (by omega)
    · rw [newBuffer, if_neg hsecond, if_neg (fun h => hsecond h.2)]
      rfl
  · rw [if_neg (fun h => hfirst h.1), overallBuffer, newBuffer, if_neg hfirst]
    rfl

/-- What a display makes of a transfer buffer: cut into packets of `maxPacketSize`,
every packet begins with the command and the rest is the body; only the last one
is short, and it is. -/
structure Packetised (maxPacketSize : Nat) (first cmdFlag : UInt8) (body stream : List UInt8) :
    Prop where
  commands : ∀ i packet, (cut maxPacketSize stream)[i]? = some packet →
    packet.head? = some (if i = 0 then first else cmdFlag)
  body_eq : ((cut maxPacketSize stream).map List.tail).flatten = body
  full : ∀ packet ∈ (cut maxPacketSize stream).dropLast, packet.length = maxPacketSize
  short : ∃ packet, (cut maxPacketSize stream).getLast? = some packet ∧
    packet.length < maxPacketSize

/-- The packets of a body are packetised. -/
theorem frames_packetised {m : Nat} (hm : 0 < m) (first cmdFlag : UInt8) (body : List UInt8) :
    Packetised (m + 1) first cmdFlag body (frames first cmdFlag m body).flatten := by
  have hcut : cut (m + 1) (frames first cmdFlag m body).flatten = frames first cmdFlag m body := by
    rw [frames_flatten first cmdFlag hm, cut_stuff first cmdFlag hm]
  constructor
  · intro i packet hpacket
    rw [hcut, frames, List.getElem?_map] at hpacket
    obtain ⟨j, hj, rfl⟩ := Option.map_eq_some_iff.mp hpacket
    obtain ⟨_, rfl⟩ := List.getElem?_eq_some_iff.mp hj
    rw [List.getElem_range, List.head?_cons]
  · rw [hcut, frames_payload first cmdFlag hm]
  · intro packet hpacket
    rw [hcut, frames_concat, List.dropLast_concat] at hpacket
    obtain ⟨i, hi, rfl⟩ := List.mem_map.mp hpacket
    rw [List.length_cons, frames_full (List.mem_range.mp hi)]
  · have hlast : (body.drop (body.length / m * m)).length < m := frames_last hm
    refine ⟨_, by rw [hcut, frames_concat, List.getLast?_concat], ?_⟩
    rw [List.length_cons, List.length_take]
    omega

/-- **The SDK's packetiser.**  For every structure, every payload and every packet size
an `int` can hold from 2 on: unless one of the two buffers cannot be allocated, the
transfer buffer comes out without a fault and without an empty cell, so every byte
was written exactly once and nothing was read or written out of range, and it is
the command cut into packets. -/
theorem sendCommand_packetised (malloc : Malloc) {maxPacketSize : Nat} (hmps : 2 ≤ maxPacketSize)
    (hint : maxPacketSize < 2 ^ 31) (displayStatus : UInt8) (packet : PacketStruct)
    (payload : Option Buffer) :
    (∃ stream, sendCommandToDisplayEndpoint malloc maxPacketSize displayStatus packet payload =
        .ok (stream.map some) ∧
      Packetised maxPacketSize (firstCommand displayStatus packet.cmdFlag) packet.cmdFlag
        (commandBody packet payload) stream) ∨
    ((∃ size ∈ bufferSizes maxPacketSize (commandBody packet payload),
        malloc.succeeds size = false) ∧
      sendCommandToDisplayEndpoint malloc maxPacketSize displayStatus packet payload =
        .error .badAlloc) := by
  rw [sendCommandToDisplayEndpoint_eq hmps hint]
  cases hall : (bufferSizes maxPacketSize (commandBody packet payload)).all malloc.succeeds with
  | true =>
      obtain ⟨m, rfl⟩ : ∃ m, maxPacketSize = m + 1 := ⟨maxPacketSize - 1, by omega⟩
      have hm : 0 < m := by omega
      exact Or.inl ⟨_, rfl, frames_packetised hm _ _ _⟩
  | false =>
      obtain ⟨size, hsize, hrefused⟩ := List.all_eq_false.mp hall
      exact Or.inr ⟨⟨size, hsize, Bool.eq_false_iff.mpr hrefused⟩, rfl⟩

/-- A `malloc` that refuses nothing an object can have as its size. -/
def Malloc.generous : Malloc :=
  ⟨fun size => decide (size < 2 ^ 63), fun _ h => of_decide_eq_true h⟩

/-- Three fields and packets of four bytes: the last packet is its command alone. -/
theorem sendCommand_packetised_three :
    sendCommandToDisplayEndpoint Malloc.generous 4 0x80 ⟨1, [7, 8, 9], by decide⟩ none =
        .ok ([0xC1, 7, 8, 9, 1].map some) ∧
      Packetised 4 0xC1 1 [7, 8, 9] [0xC1, 7, 8, 9, 1] := by
  have hrun : sendCommandToDisplayEndpoint Malloc.generous 4 0x80 ⟨1, [7, 8, 9], by decide⟩ none =
      .ok ([0xC1, 7, 8, 9, 1].map some) := by
    with_unfolding_all rfl
  refine ⟨hrun, ?_⟩
  rcases sendCommand_packetised Malloc.generous (show 2 ≤ 4 by decide) (show 4 < 2 ^ 31 by decide)
    0x80 ⟨1, [7, 8, 9], by decide⟩ none with ⟨stream, hok, hcut⟩ | ⟨_, hfault⟩
  · rw [hrun] at hok
    rw [(List.map_inj_right fun _ _ h => Option.some.inj h).mp (Except.ok.inj hok)]
    exact hcut
  · rw [hrun] at hfault
    cases hfault

end Packets

end Sdk

end RpUsbDisp
