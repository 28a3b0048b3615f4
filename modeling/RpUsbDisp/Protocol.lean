import RpUsbDisp.RunLength

/-!
# The wire protocol

Commands, packet layouts and the run-length section format of `protocol.h`,
shared by the Linux driver and the SDK.  Multi-byte fields are little endian on
the wire; a host converts them in a register (`cpuToLe16`) and then stores the
register in its own byte order (`store16`), so both steps are kept apart here
and the byte order of the host is a parameter.

`rleDecode` reads a payload the way the section format defines it.  It is the
receiver's side, and `rleDecode_sections` is the one fact about it that both
encoders need.
-/

namespace RpUsbDisp

open RunLength

/-- `pixel_type_t`. -/
abbrev Pixel := UInt16

/-! ## Constants -/

def RPUSBDISP_DISPCMD_FILL : UInt8 := 1
def RPUSBDISP_DISPCMD_BITBLT : UInt8 := 2
def RPUSBDISP_DISPCMD_RECT : UInt8 := 3
def RPUSBDISP_DISPCMD_COPY_AREA : UInt8 := 4
def RPUSBDISP_DISPCMD_BITBLT_RLE : UInt8 := 5

def RPUSBDISP_OPERATION_COPY : UInt8 := 0
def RPUSBDISP_OPERATION_XOR : UInt8 := 1

def RPUSBDISP_CMD_FLAG_CLEARDITY : UInt8 := 0x40
def RPUSBDISP_CMD_FLAG_START : UInt8 := 0x80

def RPUSBDISP_RLE_BLOCKFLAG_COMMON_BIT : UInt8 := 0x80
def RPUSBDISP_RLE_BLOCKFLAG_SIZE_BIT : Nat := 0x7f

def RPUSBDISP_DISPLAY_STATUS_DIRTY_FLAG : UInt8 := 0x80

/-! ## Machine words -/

/-- An `int` used as a `size_t`. -/
def sizeOfInt (n : Int) : Nat := (n % 2 ^ 64).toNat

/-- Addition of `size_t`. -/
def sizeAdd (a b : Nat) : Nat := (a + b) % 2 ^ 64

/-- Subtraction of `size_t`. -/
def sizeSub (a b : Nat) : Nat := if b ≤ a then a - b else 2 ^ 64 + a - b

/-- Multiplication of `size_t`. -/
def sizeMul (a b : Nat) : Nat := a * b % 2 ^ 64

theorem sizeOfInt_of_lt {n : Nat} (h : n < 2 ^ 64) : sizeOfInt n = n := by
  rw [sizeOfInt, Int.emod_eq_of_lt (by omega) (by omega)]
  rfl

theorem sizeAdd_of_lt {a b : Nat} (h : a + b < 2 ^ 64) : sizeAdd a b = a + b :=
  Nat.mod_eq_of_lt h

theorem sizeMul_of_lt {a b : Nat} (h : a * b < 2 ^ 64) : sizeMul a b = a * b :=
  Nat.mod_eq_of_lt h

theorem sizeSub_of_le {a b : Nat} (h : b ≤ a) : sizeSub a b = a - b :=
  if_pos h

/-! ## Byte order -/

/-- The byte order of the host. -/
inductive HostOrder where
  | little
  | big
  deriving DecidableEq

def loByte (v : UInt16) : UInt8 := v.toUInt8
def hiByte (v : UInt16) : UInt8 := (v >>> 8).toUInt8

/-- The value of two little endian bytes. -/
def ofBytes (lo hi : UInt8) : UInt16 := lo.toUInt16 ||| (hi.toUInt16 <<< 8)

/-- A 16-bit value in memory. -/
def store16 (host : HostOrder) (v : UInt16) : List UInt8 :=
  match host with
  | .little => [loByte v, hiByte v]
  | .big => [hiByte v, loByte v]

/-- A 16-bit value on the wire. -/
def le16 (v : UInt16) : List UInt8 :=
  [loByte v, hiByte v]

/-- Exchange the two bytes of a value. -/
def swab16 (v : UInt16) : UInt16 := (v >>> 8) ||| ((v &&& 0xff) <<< 8)

/-- `cpu_to_le16`, which is its own inverse `le16_to_cpu`. -/
def cpuToLe16 (host : HostOrder) (v : UInt16) : UInt16 :=
  match host with
  | .little => v
  | .big => swab16 v

theorem ofBytes_bytes (v : UInt16) : ofBytes (loByte v) (hiByte v) = v := by
  apply UInt16.toBitVec_inj.mp
  simp only [ofBytes, loByte, hiByte, UInt16.toBitVec_or, UInt16.toBitVec_shiftLeft,
    UInt8.toBitVec_toUInt16, UInt16.toBitVec_toUInt8, UInt16.toBitVec_shiftRight]
  ext i hi
  simp
  grind

private theorem mask_bit : ∀ i, i < 8 → (255#16).getLsbD i = true := by decide

theorem loByte_swab16 (v : UInt16) : loByte (swab16 v) = hiByte v := by
  apply UInt8.toBitVec_inj.mp
  simp only [swab16, loByte, hiByte, UInt16.toBitVec_or, UInt16.toBitVec_shiftLeft,
    UInt16.toBitVec_toUInt8, UInt16.toBitVec_shiftRight, UInt16.toBitVec_and]
  ext i hi
  simp

theorem hiByte_swab16 (v : UInt16) : hiByte (swab16 v) = loByte v := by
  apply UInt8.toBitVec_inj.mp
  simp only [swab16, loByte, hiByte, UInt16.toBitVec_or, UInt16.toBitVec_shiftLeft,
    UInt16.toBitVec_toUInt8, UInt16.toBitVec_shiftRight, UInt16.toBitVec_and]
  ext i hi
  have hbit := mask_bit i hi
  simp
  grind

theorem cpuToLe16_cpuToLe16 (host : HostOrder) (v : UInt16) :
    cpuToLe16 host (cpuToLe16 host v) = v := by
  cases host with
  | little => rfl
  | big =>
      calc swab16 (swab16 v)
          = ofBytes (loByte (swab16 (swab16 v))) (hiByte (swab16 (swab16 v))) :=
            (ofBytes_bytes _).symm
        _ = ofBytes (loByte v) (hiByte v) := by
            rw [loByte_swab16, hiByte_swab16, hiByte_swab16, loByte_swab16]
        _ = v := ofBytes_bytes v

/-- What a host stores of a register is the wire form of the converted value. -/
theorem store16_eq (host : HostOrder) (v : UInt16) : store16 host v = le16 (cpuToLe16 host v) := by
  cases host with
  | little => rfl
  | big => simp [store16, le16, cpuToLe16, loByte_swab16, hiByte_swab16]

/-- A converted register, stored, is the wire form of the value. -/
theorem store16_cpuToLe16 (host : HostOrder) (v : UInt16) :
    store16 host (cpuToLe16 host v) = le16 v := by
  rw [store16_eq, cpuToLe16_cpuToLe16]

@[simp] theorem store16_length (host : HostOrder) (v : UInt16) : (store16 host v).length = 2 := by
  cases host <;> rfl

@[simp] theorem le16_length (v : UInt16) : (le16 v).length = 2 := rfl

/-! ## Packets -/

/-- `rpusbdisp_disp_fill_packet_t`, its 16-bit field as it stands in a register. -/
structure FillPacket where
  cmdFlag : UInt8
  color565 : UInt16

/-- `rpusbdisp_disp_bitblt_packet_t`, its 16-bit fields as they stand in registers. -/
structure BitbltPacket where
  cmdFlag : UInt8
  x : UInt16
  y : UInt16
  width : UInt16
  height : UInt16
  operation : UInt8

/-- `rpusbdisp_disp_fillrect_packet_t`. -/
structure FillrectPacket where
  cmdFlag : UInt8
  left : UInt16
  top : UInt16
  right : UInt16
  bottom : UInt16
  color565 : UInt16
  operation : UInt8

/-- `rpusbdisp_disp_copyarea_packet_t`. -/
structure CopyareaPacket where
  cmdFlag : UInt8
  sx : UInt16
  sy : UInt16
  dx : UInt16
  dy : UInt16
  width : UInt16
  height : UInt16

/-- The packed structure in the host's memory. -/
def FillPacket.toBytes (host : HostOrder) (p : FillPacket) : List UInt8 :=
  [p.cmdFlag] ++ store16 host p.color565

def BitbltPacket.toBytes (host : HostOrder) (p : BitbltPacket) : List UInt8 :=
  [p.cmdFlag] ++ store16 host p.x ++ store16 host p.y ++ store16 host p.width ++
    store16 host p.height ++ [p.operation]

def FillrectPacket.toBytes (host : HostOrder) (p : FillrectPacket) : List UInt8 :=
  [p.cmdFlag] ++ store16 host p.left ++ store16 host p.top ++ store16 host p.right ++
    store16 host p.bottom ++ store16 host p.color565 ++ [p.operation]

def CopyareaPacket.toBytes (host : HostOrder) (p : CopyareaPacket) : List UInt8 :=
  [p.cmdFlag] ++ store16 host p.sx ++ store16 host p.sy ++ store16 host p.dx ++
    store16 host p.dy ++ store16 host p.width ++ store16 host p.height

/-- `sizeof(rpusbdisp_disp_packet_header_t)`. -/
def sizeofPacketHeader : Nat := 1

/-- `sizeof(rpusbdisp_disp_fill_packet_t)`. -/
def sizeofFillPacket : Nat := 3

/-- `sizeof(rpusbdisp_disp_bitblt_packet_t)`. -/
def sizeofBitbltPacket : Nat := 10

/-- `sizeof(rpusbdisp_disp_fillrect_packet_t)`. -/
def sizeofFillrectPacket : Nat := 12

/-- `sizeof(rpusbdisp_disp_copyarea_packet_t)`. -/
def sizeofCopyareaPacket : Nat := 13

theorem FillPacket.toBytes_length (host : HostOrder) (p : FillPacket) :
    (p.toBytes host).length = sizeofFillPacket := by
  simp [toBytes, sizeofFillPacket]

theorem BitbltPacket.toBytes_length (host : HostOrder) (p : BitbltPacket) :
    (p.toBytes host).length = sizeofBitbltPacket := by
  simp [toBytes, sizeofBitbltPacket]

theorem FillrectPacket.toBytes_length (host : HostOrder) (p : FillrectPacket) :
    (p.toBytes host).length = sizeofFillrectPacket := by
  simp [toBytes, sizeofFillrectPacket]

theorem CopyareaPacket.toBytes_length (host : HostOrder) (p : CopyareaPacket) :
    (p.toBytes host).length = sizeofCopyareaPacket := by
  simp [toBytes, sizeofCopyareaPacket]

/-! ## The section format -/

/-- The header of a section of `count` symbols. -/
def sectionHeader (isCommon : Bool) (count : Nat) : UInt8 :=
  let size := UInt8.ofNat ((count - 1) &&& RPUSBDISP_RLE_BLOCKFLAG_SIZE_BIT)
  if isCommon then size ||| RPUSBDISP_RLE_BLOCKFLAG_COMMON_BIT else size

/-- A section in the host's memory. -/
def sectionBytes (host : HostOrder) : Section Pixel → List UInt8
  | .literal ps => sectionHeader false ps.length :: ps.flatMap (store16 host)
  | .common p count => sectionHeader true count :: store16 host p

/-- Pixels as they follow each other on the wire. -/
def loadPixels : List UInt8 → Option (List Pixel)
  | [] => some []
  | [_] => none
  | lo :: hi :: rest => (loadPixels rest).map (ofBytes lo hi :: ·)

/-- **The receiver.**  A payload is a row of sections: a header whose low seven
bits are the count less one, then one pixel if the common bit is set, and
`count` pixels otherwise. -/
def rleDecode : List UInt8 → Option (List Pixel)
  | [] => some []
  | header :: rest =>
      let count := (header &&& 0x7f).toNat + 1
      if header &&& RPUSBDISP_RLE_BLOCKFLAG_COMMON_BIT ≠ 0 then
        match rest with
        | lo :: hi :: rest => (rleDecode rest).map (List.replicate count (ofBytes lo hi) ++ ·)
        | _ => none
      else if rest.length < 2 * count then none
      else
        match loadPixels (rest.take (2 * count)), rleDecode (rest.drop (2 * count)) with
        | some ps, some qs => some (ps ++ qs)
        | _, _ => none
termination_by bytes => bytes.length
decreasing_by
  · simp only [List.length_cons]
    omega
  · simp only [List.length_cons, List.length_drop]
    omega

/-- A section whose common bit is set. -/
theorem rleDecode_common {header : UInt8}
    (h : header &&& RPUSBDISP_RLE_BLOCKFLAG_COMMON_BIT ≠ 0) (lo hi : UInt8) (rest : List UInt8) :
    rleDecode (header :: lo :: hi :: rest) =
      (rleDecode rest).map
        (List.replicate ((header &&& 0x7f).toNat + 1) (ofBytes lo hi) ++ ·) := by
  rw [rleDecode.eq_def]
  simp only [if_pos h]

/-- A section whose common bit is clear, with all its pixels present. -/
theorem rleDecode_literal {header : UInt8}
    (h : header &&& RPUSBDISP_RLE_BLOCKFLAG_COMMON_BIT = 0) {body rest : List UInt8}
    (hbody : body.length = 2 * ((header &&& 0x7f).toNat + 1)) :
    rleDecode (header :: (body ++ rest)) =
      match loadPixels body, rleDecode rest with
      | some ps, some qs => some (ps ++ qs)
      | _, _ => none := by
  have hlen : ¬ (body ++ rest).length < 2 * ((header &&& 0x7f).toNat + 1) := by
    rw [List.length_append]
    omega
  rw [rleDecode.eq_def]
  simp only [if_neg (fun hne : header &&& RPUSBDISP_RLE_BLOCKFLAG_COMMON_BIT ≠ 0 => hne h),
    if_neg hlen, List.take_left' hbody, List.drop_left' hbody]

theorem loadPixels_wire (ps : List Pixel) : loadPixels (ps.flatMap le16) = some ps := by
  induction ps with
  | nil => rfl
  | cons p ps ih => simp [le16, loadPixels, ih, ofBytes_bytes]

theorem flatMap_le16_length (ps : List Pixel) : (ps.flatMap le16).length = 2 * ps.length := by
  induction ps with
  | nil => rfl
  | cons p ps ih =>
      simp only [List.flatMap_cons, List.length_append, le16_length, ih, List.length_cons]
      omega

theorem flatMap_store16 (host : HostOrder) (ps : List Pixel) :
    ps.flatMap (store16 host) = (ps.map (cpuToLe16 host)).flatMap le16 := by
  induction ps with
  | nil => rfl
  | cons p ps ih => simp only [List.flatMap_cons, List.map_cons, store16_eq, ih]

theorem flatMap_store16_length (host : HostOrder) (ps : List Pixel) :
    (ps.flatMap (store16 host)).length = 2 * ps.length := by
  rw [flatMap_store16, flatMap_le16_length, List.length_map]

private theorem header_count : ∀ n : Fin 128, ∀ c : Bool,
    ((sectionHeader c (n.1 + 1)) &&& 0x7f).toNat = n.1 := by decide

private theorem header_common : ∀ n : Fin 128,
    (sectionHeader true (n.1 + 1)) &&& RPUSBDISP_RLE_BLOCKFLAG_COMMON_BIT ≠ 0 := by decide

private theorem header_literal : ∀ n : Fin 128,
    (sectionHeader false (n.1 + 1)) &&& RPUSBDISP_RLE_BLOCKFLAG_COMMON_BIT = 0 := by decide

/-- A well-formed section in front of a payload decodes to its symbols. -/
theorem rleDecode_section (host : HostOrder) {s : Section Pixel} (hs : s.WellFormed 128)
    {rest : List UInt8} {qs : List Pixel} (hrest : rleDecode rest = some qs) :
    rleDecode (sectionBytes host s ++ rest) = some (s.symbols.map (cpuToLe16 host) ++ qs) := by
  have hpos := hs.1
  have hle := hs.2
  obtain ⟨n, hn⟩ : ∃ n : Fin 128, s.count = n.1 + 1 := ⟨⟨s.count - 1, by omega⟩, by simp; omega⟩
  cases s with
  | literal ps =>
      have hlen : ps.length = n.1 + 1 := hn
      have hbytes : (ps.flatMap (store16 host)).length = 2 * (n.1 + 1) := by
        rw [flatMap_store16_length, hlen]
      rw [sectionBytes, List.cons_append, hlen,
        rleDecode_literal (header_literal n) (by rw [header_count n false, hbytes]),
        flatMap_store16, loadPixels_wire, hrest]
      rfl
  | common p count =>
      have hlen : count = n.1 + 1 := hn
      rw [sectionBytes, List.cons_append, hlen, store16_eq, le16, List.cons_append,
        List.cons_append, rleDecode_common (header_common n), header_count n true]
      simp [hrest, ofBytes_bytes, Section.symbols]

/-- **The section format is read back.**  A row of well-formed sections decodes
to the symbols it stands for, as the wire sees them. -/
theorem rleDecode_sections (host : HostOrder) {ss : List (Section Pixel)}
    (hss : ∀ s ∈ ss, s.WellFormed 128) :
    rleDecode (ss.flatMap (sectionBytes host)) = some ((expand ss).map (cpuToLe16 host)) := by
  induction ss with
  | nil => simp [rleDecode, expand]
  | cons s ss ih =>
      have htail := ih fun t ht => hss t (List.mem_cons_of_mem _ ht)
      rw [List.flatMap_cons, rleDecode_section host (hss s List.mem_cons_self) htail]
      simp [expand]

/-- The size of a section in memory is its cost. -/
theorem sectionBytes_length (host : HostOrder) (s : Section Pixel) :
    (sectionBytes host s).length = s.cost := by
  cases s with
  | literal ps =>
      rw [sectionBytes, List.length_cons, flatMap_store16_length, Section.cost, Nat.add_comm]
  | common p count => simp [sectionBytes, Section.cost]

theorem flatMap_sectionBytes_length (host : HostOrder) (ss : List (Section Pixel)) :
    (ss.flatMap (sectionBytes host)).length = totalCost ss := by
  simp [List.length_flatMap, totalCost, sectionBytes_length]

end RpUsbDisp
