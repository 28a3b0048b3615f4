import RpUsbDisp.Framing
import RpUsbDisp.Protocol

/-!
# The run-length encoder of the SDK

`rleCompress` encodes a whole buffer at once.  It writes every section straight
into the output and keeps mutating the header of the last one, which two nested
loops share with the position in the input.  Stores outside of the allocated
output, reads outside of the input, and a count that leaves its seven bits are
faults here, so that an encoding without a fault is a safe one.

The encoder follows `RunLength.encode`, where a full common section goes on as a
common section of one pixel: after `k` pixels the output holds the sections of
the first `k` pixels and nothing else (`After`).  Since the size bound holds of
every prefix, no store leaves the output, not even one that is taken back.
-/

namespace RpUsbDisp

open Framing RunLength

namespace Sdk

/-! ## The encoder -/

inductive RleFault where
  | unaligned
  | outOfBounds
  | countOverflow
  | countUnderflow
  | outOfFuel
  deriving DecidableEq

/-- The variables of `rleCompress`; the two pointers are positions in the output. -/
structure RleState where
  outputBuffer : List UInt8
  pixelPos : Nat
  lastPixelValue : Pixel
  encodingPos : Nat
  sectionHeader : Nat

namespace RleState

/-- A store into the output. -/
def store (st : RleState) (pos : Nat) (bytes : List UInt8) : Except RleFault RleState :=
  match writeAt st.outputBuffer pos bytes with
  | some outputBuffer => .ok { st with outputBuffer := outputBuffer }
  | none => .error .outOfBounds

theorem store_ok {st : RleState} {pos : Nat} {bytes outputBuffer : List UInt8}
    (h : writeAt st.outputBuffer pos bytes = some outputBuffer) :
    st.store pos bytes = .ok { st with outputBuffer := outputBuffer } := by
  rw [store, h]

/-- `*sectionHeader`. -/
def header (st : RleState) : Except RleFault UInt8 :=
  match st.outputBuffer[st.sectionHeader]? with
  | some h => .ok h
  | none => .error .outOfBounds

/-- `++(*sectionHeader)`. -/
def incHeader (st : RleState) : Except RleFault RleState := do
  let h ← st.header
  if h &&& 0x7f = 0x7f then .error .countOverflow
  else st.store st.sectionHeader [h + 1]

/-- `(*sectionHeader)--`. -/
def decHeader (st : RleState) : Except RleFault RleState := do
  let h ← st.header
  if h &&& 0x7f = 0 then .error .countUnderflow
  else st.store st.sectionHeader [h - 1]

/-- `*sectionHeader |= 0x80`. -/
def setCommon (st : RleState) : Except RleFault RleState := do
  let h ← st.header
  st.store st.sectionHeader [h ||| 0x80]

/-- Start a section at the end of the output. -/
def openSection (st : RleState) (h : UInt8) : Except RleFault RleState :=
  { st with sectionHeader := st.encodingPos, encodingPos := st.encodingPos + 1 }.store
    st.encodingPos [h]

/-- `*(_u16 *)encodingPos = pixel; encodingPos += 2`. -/
def putPixel (host : HostOrder) (st : RleState) (pixel : Pixel) : Except RleFault RleState :=
  { st with encodingPos := st.encodingPos + 2 }.store st.encodingPos (store16 host pixel)

end RleState

/-- A 16-bit value read from memory. -/
def load16 (host : HostOrder) (a b : UInt8) : UInt16 :=
  match host with
  | .little => ofBytes a b
  | .big => ofBytes b a

/-- `pixelData[i]`. -/
def pixelData (host : HostOrder) (buffer : List UInt8) (i : Nat) : Except RleFault Pixel :=
  match buffer[2 * i]?, buffer[2 * i + 1]? with
  | some a, some b => .ok (load16 host a b)
  | _, _ => .error .outOfBounds

section Code

variable (host : HostOrder) (buffer : List UInt8)

/-- The body of the loop over a common section; whether it breaks. -/
def commonStep (st : RleState) : Except RleFault (RleState × Bool) := do
  let currentPixel ← pixelData host buffer st.pixelPos
  let st := { st with pixelPos := st.pixelPos + 1 }
  if currentPixel = st.lastPixelValue then
    if (← st.header) = 0x7f ||| 0x80 then
      let st ← st.openSection 0x80
      let st ← st.putPixel host currentPixel
      return (st, false)
    else
      let st ← st.incHeader
      return (st, false)
  else
    let st ← st.openSection 0
    let st ← st.putPixel host currentPixel
    return ({ st with lastPixelValue := currentPixel }, true)

/-- The body of the loop over a literal section; whether it breaks. -/
def literalStep (st : RleState) : Except RleFault (RleState × Bool) := do
  let currentPixel ← pixelData host buffer st.pixelPos
  let st := { st with pixelPos := st.pixelPos + 1 }
  if currentPixel = st.lastPixelValue then
    if (← st.header) = 0 then
      let st ← st.incHeader
      let st ← st.setCommon
      return (st, true)
    else
      -- take the previous pixel back from the current section
      let st ← st.decHeader
      let st ← { st with encodingPos := st.encodingPos - 2 }.openSection (0x80 + 1)
      let st ← st.putPixel host currentPixel
      return (st, true)
  else
    let st ← if (← st.header) = 0x7f then st.openSection 0 else st.incHeader
    let st ← st.putPixel host currentPixel
    return ({ st with lastPixelValue := currentPixel }, false)

/-- `while (pixelPos < totoalPixels)` around a body that may break. -/
def sectionLoop (body : RleState → Except RleFault (RleState × Bool)) (totoalPixels : Nat) :
    Nat → RleState → Except RleFault RleState
  | 0, st => if st.pixelPos < totoalPixels then .error .outOfFuel else .ok st
  | fuel + 1, st =>
      if st.pixelPos < totoalPixels then do
        let (st, break?) ← body st
        if break? then return st
        else sectionLoop body totoalPixels fuel st
      else .ok st

/-- The outer loop. -/
def rleLoop (totoalPixels : Nat) : Nat → RleState → Except RleFault RleState
  | 0, st => if st.pixelPos < totoalPixels then .error .outOfFuel else .ok st
  | fuel + 1, st =>
      if st.pixelPos < totoalPixels then do
        let isCommonSection : Bool := (← st.header) &&& 0x80 ≠ 0
        let body := if isCommonSection then commonStep host buffer else literalStep host buffer
        let st ← sectionLoop body totoalPixels (fuel + 1) st
        rleLoop totoalPixels fuel st
      else .ok st

/-- `rleCompress`.  `garbage` is what the allocated output holds at first. -/
def rleCompress (garbage : Nat → UInt8) (fuel : Nat) : Except RleFault (List UInt8) := do
  if buffer.length &&& 0x1 ≠ 0 then .error .unaligned
  else
    let estBufferSize := buffer.length + (((buffer.length >>> 1) + 0x7f) >>> 7)
    let totoalPixels := buffer.length >>> 1
    let st : RleState :=
      { outputBuffer := (List.range estBufferSize).map garbage
        pixelPos := 0
        lastPixelValue := 0
        encodingPos := 0
        sectionHeader := 0 }
    let st ← st.openSection 0
    let lastPixelValue ← pixelData host buffer st.pixelPos
    let st := { st with pixelPos := st.pixelPos + 1, lastPixelValue := lastPixelValue }
    let st ← st.putPixel host lastPixelValue
    let st ← rleLoop host buffer totoalPixels fuel st
    if st.encodingPos ≤ st.outputBuffer.length then return st.outputBuffer.take st.encodingPos
    else .error .outOfBounds

end Code

section Output

/-! ## What the output holds -/

/-- The output begins with `closed` and then the section that starts with the header
`h`; its length is `est`. -/
structure Layout (est : Nat) (closed : List UInt8) (h : UInt8) (body : List UInt8)
    (st : RleState) : Prop where
  room : st.outputBuffer.length = est
  header_eq : st.sectionHeader = closed.length
  pos_eq : st.encodingPos = closed.length + (1 + body.length)
  written : st.outputBuffer.take st.encodingPos = closed ++ h :: body

variable {host : HostOrder} {est : Nat} {closed body : List UInt8} {h : UInt8} {st : RleState}

theorem Layout.pos_le (hst : Layout est closed h body st) : st.encodingPos ≤ est := by
  have hlen := congrArg List.length hst.written
  rw [List.length_take, hst.room, List.length_append, List.length_cons, hst.pos_eq] at hlen
  rw [hst.pos_eq]
  omega

/-- What is written ends where the position stands. -/
theorem Layout.split (hst : Layout est closed h body st) :
    st.outputBuffer = closed ++ h :: body ++ st.outputBuffer.drop st.encodingPos := by
  rw [← hst.written, List.take_append_drop]

theorem Layout.header_ok (hst : Layout est closed h body st) : st.header = .ok h := by
  have hread : st.outputBuffer[st.sectionHeader]? = some h := by
    rw [hst.split, hst.header_eq, List.append_assoc]
    simp
  rw [RleState.header, hread]

/-- A header is replaced in place. -/
theorem Layout.setHeader (hst : Layout est closed h body st) (h' : UInt8) :
    ∃ outputBuffer, st.store st.sectionHeader [h'] = .ok { st with outputBuffer := outputBuffer } ∧
      Layout est closed h' body { st with outputBuffer := outputBuffer } := by
  obtain ⟨outputBuffer, hwrite⟩ : ∃ outputBuffer,
      writeAt st.outputBuffer st.sectionHeader [h'] = some outputBuffer := by
    apply writeAt_isSome
    have hle := hst.pos_le
    rw [hst.pos_eq] at hle
    rw [hst.room, hst.header_eq, List.length_singleton]
    omega
  refine ⟨outputBuffer, RleState.store_ok hwrite, (writeAt_length hwrite).trans hst.room,
    hst.header_eq, hst.pos_eq, ?_⟩
  have hnew : outputBuffer = closed ++ h' :: body ++ st.outputBuffer.drop st.encodingPos := by
    have hsplit := hst.split
    generalize st.outputBuffer.drop st.encodingPos = rest at hsplit ⊢
    unfold writeAt at hwrite
    split at hwrite
    · cases hwrite
      rw [hsplit, hst.header_eq, List.append_assoc, List.append_assoc]
      simp
    · cases hwrite
  have hlen : st.encodingPos = (closed ++ h' :: body).length := by
    rw [hst.pos_eq, List.length_append, List.length_cons]
    omega
  show outputBuffer.take st.encodingPos = _
  rw [hnew, hlen, List.take_left]

/-- A store at the end appends. -/
theorem Layout.append (hst : Layout est closed h body st) (bytes : List UInt8)
    (hroom : st.encodingPos + bytes.length ≤ est) :
    ∃ outputBuffer, writeAt st.outputBuffer st.encodingPos bytes = some outputBuffer ∧
      outputBuffer.length = est ∧
      outputBuffer.take (st.encodingPos + bytes.length) = closed ++ h :: body ++ bytes := by
  obtain ⟨outputBuffer, hwrite⟩ := writeAt_isSome (hst.room.symm ▸ hroom)
  refine ⟨outputBuffer, hwrite, (writeAt_length hwrite).trans hst.room, ?_⟩
  rw [writeAt_take hwrite, hst.written]

/-- **A section is closed** and one is opened. -/
theorem Layout.openSection (hst : Layout est closed h body st) (hroom : st.encodingPos + 1 ≤ est)
    (h' : UInt8) :
    ∃ st', st.openSection h' = .ok st' ∧ Layout est (closed ++ h :: body) h' [] st' ∧
      st'.pixelPos = st.pixelPos ∧ st'.lastPixelValue = st.lastPixelValue := by
  obtain ⟨outputBuffer, hwrite, hlen, htake⟩ := hst.append [h'] hroom
  have hpos : st.encodingPos = (closed ++ h :: body).length := by
    rw [hst.pos_eq, List.length_append, List.length_cons]
    omega
  refine ⟨_, RleState.store_ok hwrite, ⟨hlen, hpos, ?_, htake⟩, rfl, rfl⟩
  show st.encodingPos + 1 = _
  rw [hpos, List.length_nil]

/-- **A pixel is added** to the section. -/
theorem Layout.putPixel (hst : Layout est closed h body st) (hroom : st.encodingPos + 2 ≤ est)
    (host : HostOrder) (pixel : Pixel) :
    ∃ st', st.putPixel host pixel = .ok st' ∧
      Layout est closed h (body ++ store16 host pixel) st' ∧
      st'.pixelPos = st.pixelPos ∧ st'.lastPixelValue = st.lastPixelValue := by
  obtain ⟨outputBuffer, hwrite, hlen, htake⟩ := hst.append (store16 host pixel)
    (by rwa [store16_length])
  refine ⟨_, RleState.store_ok hwrite, ⟨hlen, hst.header_eq, ?_, ?_⟩,
    rfl, rfl⟩
  · show st.encodingPos + 2 = _
    rw [hst.pos_eq, List.length_append, store16_length]
    omega
  · rw [store16_length] at htake
    show outputBuffer.take (st.encodingPos + 2) = _
    rw [htake, List.append_assoc, List.cons_append]

/-- The last pixel of a section is taken back. -/
theorem Layout.takeBack {pixel : Pixel}
    (hst : Layout est closed h (body ++ store16 host pixel) st) :
    Layout est closed h body { st with encodingPos := st.encodingPos - 2 } where
  room := hst.room
  header_eq := hst.header_eq
  pos_eq := by
    have hpos := hst.pos_eq
    rw [List.length_append, store16_length] at hpos
    show st.encodingPos - 2 = _
    omega
  written := by
    have hpos := hst.pos_eq
    rw [List.length_append, store16_length] at hpos
    have hlen : st.encodingPos - 2 = (closed ++ h :: body).length := by
      rw [List.length_append, List.length_cons]
      omega
    have hsplit := hst.split
    rw [← List.cons_append, ← List.append_assoc, List.append_assoc] at hsplit
    show st.outputBuffer.take (st.encodingPos - 2) = _
    rw [hsplit, hlen, List.take_left]

end Output

section Headers

/-! ## Headers -/

/-- Counting up in a header. -/
theorem header_succ : ∀ (isCommon : Bool) (n : Fin 127),
    sectionHeader isCommon (n.1 + 1) &&& 0x7f ≠ 0x7f ∧
      sectionHeader isCommon (n.1 + 1) + 1 = sectionHeader isCommon (n.1 + 2) := by decide

/-- Counting down in a header. -/
theorem header_pred : ∀ n : Fin 127,
    sectionHeader false (n.1 + 2) &&& 0x7f ≠ 0 ∧
      sectionHeader false (n.1 + 2) - 1 = sectionHeader false (n.1 + 1) := by decide

theorem header_full : ∀ n : Fin 128,
    (sectionHeader false (n.1 + 1) = 0x7f ↔ n.1 + 1 = 128) ∧
      (sectionHeader true (n.1 + 1) = 0x7f ||| 0x80 ↔ n.1 + 1 = 128) := by decide

theorem header_single : ∀ n : Fin 128, sectionHeader false (n.1 + 1) = 0 ↔ n.1 + 1 = 1 := by decide

theorem header_isCommon : ∀ (isCommon : Bool) (n : Fin 128),
    sectionHeader isCommon (n.1 + 1) &&& 0x80 ≠ 0 ↔ isCommon = true := by decide

/-- Every count that fits a header is one of 128. -/
theorem exists_fin {m count : Nat} (hpos : 1 ≤ count) (hle : count ≤ m) :
    ∃ n : Fin m, count = n.1 + 1 :=
  ⟨⟨count - 1, by omega⟩, by simp only []; omega⟩

variable {est : Nat} {closed body : List UInt8} {st : RleState} {isCommon : Bool} {count : Nat}

theorem Layout.incHeader (hst : Layout est closed (sectionHeader isCommon count) body st)
    (hpos : 1 ≤ count) (hlt : count < 128) :
    ∃ st', st.incHeader = .ok st' ∧ Layout est closed (sectionHeader isCommon (count + 1)) body st' ∧
      st'.pixelPos = st.pixelPos ∧ st'.lastPixelValue = st.lastPixelValue := by
  obtain ⟨n, rfl⟩ := exists_fin (m := 127) hpos (by omega)
  obtain ⟨hnotfull, hsucc⟩ := header_succ isCommon n
  obtain ⟨outputBuffer, hstore, hlayout⟩ := hst.setHeader (sectionHeader isCommon (n.1 + 2))
  refine ⟨_, ?_, hlayout, rfl, rfl⟩
  rw [RleState.incHeader, hst.header_ok]
  show (if _ then _ else _) = _
  rw [if_neg hnotfull, hsucc, hstore]

theorem Layout.decHeader (hst : Layout est closed (sectionHeader false (count + 1)) body st)
    (hpos : 1 ≤ count) (hlt : count < 128) :
    ∃ st', st.decHeader = .ok st' ∧ Layout est closed (sectionHeader false count) body st' ∧
      st'.pixelPos = st.pixelPos ∧ st'.lastPixelValue = st.lastPixelValue := by
  obtain ⟨n, rfl⟩ := exists_fin (m := 127) hpos (by omega)
  obtain ⟨hnotzero, hpred⟩ := header_pred n
  obtain ⟨outputBuffer, hstore, hlayout⟩ := hst.setHeader (sectionHeader false (n.1 + 1))
  refine ⟨_, ?_, hlayout, rfl, rfl⟩
  rw [RleState.decHeader, hst.header_ok]
  show (if _ then _ else _) = _
  rw [if_neg hnotzero, hpred, hstore]

theorem Layout.setCommon (hst : Layout est closed (sectionHeader false 2) body st) :
    ∃ st', st.setCommon = .ok st' ∧ Layout est closed (sectionHeader true 2) body st' ∧
      st'.pixelPos = st.pixelPos ∧ st'.lastPixelValue = st.lastPixelValue := by
  have hor : sectionHeader false 2 ||| 0x80 = sectionHeader true 2 := by decide
  obtain ⟨outputBuffer, hstore, hlayout⟩ := hst.setHeader (sectionHeader true 2)
  refine ⟨_, ?_, hlayout, rfl, rfl⟩
  rw [RleState.setCommon, hst.header_ok]
  show st.store st.sectionHeader [_] = _
  rw [hor, hstore]

/-- The two other variables do not matter to the output. -/
theorem Layout.set {h : UInt8} (hst : Layout est closed h body st) (pixelPos : Nat)
    (lastPixelValue : Pixel) :
    Layout est closed h body
      { st with pixelPos := pixelPos, lastPixelValue := lastPixelValue } :=
  ⟨hst.room, hst.header_eq, hst.pos_eq, hst.written⟩

end Headers

section Input

/-! ## The input as pixels -/

/-- The pixels of a buffer, in the byte order of the host. -/
def hostPixels (host : HostOrder) : List UInt8 → List Pixel
  | a :: b :: rest => load16 host a b :: hostPixels host rest
  | _ => []

theorem store16_load16 (host : HostOrder) (a b : UInt8) : store16 host (load16 host a b) = [a, b] := by
  have hlo : ∀ a b : UInt8, loByte (ofBytes a b) = a := by
    intro a b
    apply UInt8.toBitVec_inj.mp
    simp only [ofBytes, loByte, UInt16.toBitVec_toUInt8, UInt16.toBitVec_or,
      UInt8.toBitVec_toUInt16, UInt16.toBitVec_shiftLeft]
    ext i hi
    simp
  have hhi : ∀ a b : UInt8, hiByte (ofBytes a b) = b := by
    intro a b
    apply UInt8.toBitVec_inj.mp
    simp only [ofBytes, hiByte, UInt16.toBitVec_toUInt8, UInt16.toBitVec_shiftRight,
      UInt16.toBitVec_or, UInt8.toBitVec_toUInt16, UInt16.toBitVec_shiftLeft]
    ext i hi
    simp
    grind
  cases host with
  | little => rw [store16, load16, hlo, hhi]
  | big => rw [store16, load16, hlo, hhi]

/-- A buffer of even length is the memory of its pixels. -/
theorem hostPixels_spec (host : HostOrder) {n : Nat} {buffer : List UInt8}
    (hlen : buffer.length = 2 * n) :
    (hostPixels host buffer).length = n ∧
      (hostPixels host buffer).flatMap (store16 host) = buffer := by
  induction n generalizing buffer with
  | zero =>
      obtain rfl : buffer = [] := List.length_eq_zero_iff.mp hlen
      exact ⟨rfl, rfl⟩
  | succ n ih =>
      match buffer with
      | [] => cases hlen
      | [_] => rw [List.length_singleton] at hlen; omega
      | a :: b :: rest =>
          simp only [List.length_cons] at hlen
          have hrest : rest.length = 2 * n := by omega
          obtain ⟨hcount, hmemory⟩ := ih hrest
          refine ⟨by rw [hostPixels, List.length_cons, hcount], ?_⟩
          rw [hostPixels, List.flatMap_cons, store16_load16, hmemory]
          rfl

/-- Pixel `k` of the buffer. -/
theorem pixelData_ok (host : HostOrder) {buffer : List UInt8} {k : Nat} {p : Pixel}
    (hk : (hostPixels host buffer)[k]? = some p) : pixelData host buffer k = .ok p := by
  induction k generalizing buffer with
  | zero =>
      match buffer with
      | [] => cases hk
      | [_] => cases hk
      | a :: b :: rest =>
          cases hk
          rfl
  | succ k ih =>
      match buffer with
      | [] => cases hk
      | [_] => cases hk
      | a :: b :: rest =>
          rw [hostPixels, List.getElem?_cons_succ] at hk
          rw [← ih hk]
          unfold pixelData
          have heven : 2 * (k + 1) = 2 * k + 1 + 1 := by omega
          rw [heven, List.getElem?_cons_succ, List.getElem?_cons_succ, List.getElem?_cons_succ,
            List.getElem?_cons_succ]

end Input

section Loops

/-! ## The encoder follows the abstract one -/

/-- A full common section goes on as a common section of one pixel. -/
def reopenCommon (p : Pixel) : Section Pixel := .common p 1

theorem reopenCommon_reopens : Reopens reopenCommon := Or.inr fun _ => rfl

/-- The abstract encoder after the first `k` pixels. -/
def encodedTo (pixels : List Pixel) (k : Nat) : Encoded Pixel :=
  Encoded.start.pushAll 128 reopenCommon (pixels.take k)

theorem encodedTo_succ {pixels : List Pixel} {k : Nat} {p : Pixel} (hk : pixels[k]? = some p) :
    encodedTo pixels (k + 1) = (encodedTo pixels k).push 128 reopenCommon p := by
  have htake : pixels.take (k + 1) = pixels.take k ++ [p] := by
    rw [List.take_add_one, hk, Option.toList_some]
  rw [encodedTo, htake]
  exact List.foldl_append

/-- What `rleCompress` allocates for `n` pixels. -/
def estSize (n : Nat) : Nat := 2 * n + (n + 127) / 128

/-- What a prefix encodes to fits the output. -/
theorem encodedTo_fits (host : HostOrder) (pixels : List Pixel) (k : Nat) :
    ((encodedTo pixels k).sections.flatMap (sectionBytes host)).length ≤ estSize pixels.length := by
  have hsound : Encoded.Sound 128 (pixels.take k) (encodedTo pixels k) :=
    encode_sound (by decide) reopenCommon_reopens _
  have hcost := hsound.cost_le (by decide)
  rw [flatMap_sectionBytes_length]
  rw [List.length_take] at hcost
  unfold estSize
  omega

/-- The header of a section. -/
def headerOf : Section Pixel → UInt8
  | .literal ps => sectionHeader false ps.length
  | .common _ count => sectionHeader true count

/-- What follows the header of a section. -/
def bodyOf (host : HostOrder) : Section Pixel → List UInt8
  | .literal ps => ps.flatMap (store16 host)
  | .common p _ => store16 host p

theorem sectionBytes_eq (host : HostOrder) (s : Section Pixel) :
    sectionBytes host s = headerOf s :: bodyOf host s := by
  cases s <;> rfl

/-- The last symbol a section stands for. -/
def EndsWith : Section Pixel → Pixel → Prop
  | .literal ps, p => ps.getLast? = some p
  | .common q _, p => q = p

/-- **The encoder after `k` pixels.**  The output holds the closed sections and the
pending one of the abstract encoder. -/
structure After (host : HostOrder) (pixels : List Pixel) (k : Nat) (closed : List (Section Pixel))
    (s : Section Pixel) (st : RleState) : Prop where
  encoded : encodedTo pixels k = ⟨closed, some s⟩
  layout : Layout (estSize pixels.length) (closed.flatMap (sectionBytes host)) (headerOf s)
    (bodyOf host s) st
  pixelPos : st.pixelPos = k
  last : EndsWith s st.lastPixelValue

variable {host : HostOrder} {buffer : List UInt8} {k : Nat} {closed : List (Section Pixel)}
  {st : RleState} {p : Pixel}

/-- A section fits its header. -/
theorem After.wellFormed {pixels : List Pixel} {s : Section Pixel}
    (h : After host pixels k closed s st) : 1 ≤ s.count ∧ s.count ≤ 128 := by
  have hsound : Encoded.Sound 128 (pixels.take k) (encodedTo pixels k) :=
    encode_sound (by decide) reopenCommon_reopens _
  apply hsound.wellFormed
  rw [h.encoded]
  simp [Encoded.sections]

/-- The room for what the next pixel brings. -/
theorem fits_of_encoded (host : HostOrder) {pixels : List Pixel} {s : Section Pixel}
    (h : encodedTo pixels k = ⟨closed, some s⟩) :
    (closed.flatMap (sectionBytes host)).length + (1 + (bodyOf host s).length) ≤
      estSize pixels.length := by
  have hsections : (encodedTo pixels k).sections = closed ++ [s] := by
    rw [h]
    rfl
  have hfits := encodedTo_fits host pixels k
  rw [hsections, List.flatMap_append, List.flatMap_singleton, sectionBytes_eq, List.length_append,
    List.length_cons] at hfits
  omega

/-- The end of the output when a section is closed. -/
theorem flatMap_close (host : HostOrder) (closed : List (Section Pixel)) (s : Section Pixel) :
    closed.flatMap (sectionBytes host) ++ headerOf s :: bodyOf host s =
      (closed ++ [s]).flatMap (sectionBytes host) := by
  rw [List.flatMap_append, List.flatMap_singleton, sectionBytes_eq]

/-- **A new section** with one pixel. -/
theorem After.reopen {s s' : Section Pixel} {h : UInt8}
    (hlayout : Layout (estSize (hostPixels host buffer).length) (closed.flatMap (sectionBytes host))
      (headerOf s) (bodyOf host s) st)
    (hencoded : encodedTo (hostPixels host buffer) (k + 1) = ⟨closed ++ [s], some s'⟩)
    (hheader : headerOf s' = h) (hbody : bodyOf host s' = store16 host p) :
    ∃ st₁ st₂, st.openSection h = .ok st₁ ∧ st₁.putPixel host p = .ok st₂ ∧
      Layout (estSize (hostPixels host buffer).length)
        ((closed ++ [s]).flatMap (sectionBytes host)) (headerOf s') (bodyOf host s') st₂ ∧
      st₂.pixelPos = st.pixelPos ∧ st₂.lastPixelValue = st.lastPixelValue := by
  have hfits := fits_of_encoded host hencoded
  rw [hbody, store16_length] at hfits
  have hend : st.encodingPos = ((closed ++ [s]).flatMap (sectionBytes host)).length := by
    rw [hlayout.pos_eq, ← flatMap_close, List.length_append, List.length_cons]
    omega
  obtain ⟨st₁, hopen, hlayout₁, hpos₁, hlast₁⟩ := hlayout.openSection (by omega) h
  rw [flatMap_close] at hlayout₁
  have hend₁ := hlayout₁.pos_eq
  rw [List.length_nil] at hend₁
  obtain ⟨st₂, hput, hlayout₂, hpos₂, hlast₂⟩ := hlayout₁.putPixel (by omega) host p
  refine ⟨st₁, st₂, hopen, hput, ?_, hpos₂.trans hpos₁, hlast₂.trans hlast₁⟩
  rw [hheader, hbody]
  exact hlayout₂

/-- **One pixel after a common section.** -/
theorem commonStep_ok {q : Pixel} {count : Nat}
    (h : After host (hostPixels host buffer) k closed (.common q count) st)
    (hk : (hostPixels host buffer)[k]? = some p) :
    ∃ st' break? closed' s', commonStep host buffer st = .ok (st', break?) ∧
      After host (hostPixels host buffer) (k + 1) closed' s' st' ∧
      (break? = false → ∃ q' count', s' = .common q' count') := by
  obtain ⟨hpos, hle⟩ : 1 ≤ count ∧ count ≤ 128 := h.wellFormed
  have hq : q = st.lastPixelValue := h.last
  have hread : pixelData host buffer st.pixelPos = .ok p := by
    rw [h.pixelPos]
    exact pixelData_ok host hk
  have hlayout := h.layout.set (k + 1) st.lastPixelValue
  have hnext := encodedTo_succ hk
  rw [h.encoded, Encoded.push] at hnext
  simp only [] at hnext
  unfold commonStep
  rw [hread]
  show ∃ st' break? closed' s', (if p = st.lastPixelValue then _ else _) = _ ∧ _
  rw [h.pixelPos]
  by_cases heq : p = st.lastPixelValue
  · rw [if_pos heq, hlayout.header_ok]
    rw [if_neg (fun hne => hne (heq.trans hq.symm))] at hnext
    show ∃ st' break? closed' s', (if sectionHeader true count = 0x7f ||| 0x80 then _ else _) = _ ∧ _
    obtain ⟨n, hn⟩ := exists_fin hpos hle
    have hfull : sectionHeader true count = 0x7f ||| 0x80 ↔ count = 128 := by
      rw [hn]
      exact (header_full n).2
    by_cases hcount : count = 128
    · rw [if_pos (hfull.mpr hcount)]
      rw [if_pos hcount] at hnext
      obtain ⟨st₁, st₂, hopen, hput, hlayout₂, hpos₂, hlast₂⟩ :=
        After.reopen hlayout hnext (show sectionHeader true 1 = 0x80 by decide) rfl
      rw [hopen]
      refine ⟨st₂, false, _, _, ?_, ⟨hnext, hlayout₂, hpos₂, ?_⟩, fun _ => ⟨_, _, rfl⟩⟩
      · show (st₁.putPixel host p >>= _) = _
        rw [hput]
        rfl
      · rw [hlast₂]
        exact heq
    · rw [if_neg (fun hf => hcount (hfull.mp hf))]
      rw [if_neg hcount] at hnext
      have hcounted : Layout _ _ (sectionHeader true count) _ _ := hlayout
      obtain ⟨st₁, hinc, hlayout₁, hpos₁, hlast₁⟩ := hcounted.incHeader hpos (by omega)
      refine ⟨st₁, false, _, _, ?_, ⟨hnext, hlayout₁, hpos₁, ?_⟩, fun _ => ⟨_, _, rfl⟩⟩
      · rw [hinc]
        rfl
      · show q = st₁.lastPixelValue
        rw [hlast₁]
        exact hq
  · rw [if_neg heq]
    rw [if_pos (fun hpq => heq (hpq.trans hq))] at hnext
    obtain ⟨st₁, st₂, hopen, hput, hlayout₂, hpos₂, hlast₂⟩ :=
      After.reopen hlayout hnext (show sectionHeader false 1 = 0 by decide) (List.flatMap_singleton _ p)
    rw [hopen]
    refine ⟨{ st₂ with lastPixelValue := p }, true, _, _, ?_,
      ⟨hnext, hlayout₂.set _ _, hpos₂, rfl⟩, by simp⟩
    show (st₁.putPixel host p >>= _) = _
    rw [hput]
    rfl

/-- **One pixel after a literal section.** -/
theorem literalStep_ok {ps : List Pixel}
    (h : After host (hostPixels host buffer) k closed (.literal ps) st)
    (hk : (hostPixels host buffer)[k]? = some p) :
    ∃ st' break? closed' s', literalStep host buffer st = .ok (st', break?) ∧
      After host (hostPixels host buffer) (k + 1) closed' s' st' ∧
      (break? = false → ∃ ps', s' = .literal ps') := by
  obtain ⟨hpos, hle⟩ : 1 ≤ ps.length ∧ ps.length ≤ 128 := h.wellFormed
  have hlast : ps.getLast? = some st.lastPixelValue := h.last
  have hread : pixelData host buffer st.pixelPos = .ok p := by
    rw [h.pixelPos]
    exact pixelData_ok host hk
  have hlayout := h.layout.set (k + 1) st.lastPixelValue
  have hnext := encodedTo_succ hk
  rw [h.encoded, Encoded.push] at hnext
  simp only [hlast, Option.some.injEq] at hnext
  unfold literalStep
  rw [hread]
  show ∃ st' break? closed' s', (if p = st.lastPixelValue then _ else _) = _ ∧ _
  rw [h.pixelPos]
  obtain ⟨n, hn⟩ := exists_fin hpos hle
  have hsingle : sectionHeader false ps.length = 0 ↔ ps.length = 1 := by
    rw [hn]
    exact header_single n
  have hfull : sectionHeader false ps.length = 0x7f ↔ ps.length = 128 := by
    rw [hn]
    exact (header_full n).1
  by_cases heq : p = st.lastPixelValue
  · rw [if_pos heq, hlayout.header_ok]
    rw [if_pos heq.symm] at hnext
    obtain ⟨qs, rfl⟩ : ∃ qs, ps = qs ++ [p] := by
      rw [heq]
      exact List.getLast?_eq_some_iff.mp hlast
    rw [List.dropLast_concat] at hnext
    show ∃ st' break? closed' s', (if sectionHeader false (qs ++ [p]).length = 0 then _ else _) = _ ∧ _
    by_cases hqs : qs = []
    · -- the section becomes a common one
      subst hqs
      rw [if_pos (hsingle.mpr rfl)]
      rw [if_pos rfl] at hnext
      have hone : Layout _ _ (sectionHeader false 1) _ _ := hlayout
      obtain ⟨st₁, hinc, hlayout₁, hpos₁, hlast₁⟩ := hone.incHeader (by decide) (by decide)
      obtain ⟨st₂, hset, hlayout₂, hpos₂, hlast₂⟩ := hlayout₁.setCommon
      rw [hinc]
      refine ⟨st₂, true, closed, .common p 2, ?_, ⟨hnext, ?_, hpos₂.trans hpos₁, ?_⟩, by simp⟩
      · show (st₁.setCommon >>= _) = _
        rw [hset]
        rfl
      · have hbody : bodyOf host (.literal [p]) = store16 host p := List.flatMap_singleton _ p
        rw [List.nil_append, hbody] at hlayout₂
        exact hlayout₂
      · show p = st₂.lastPixelValue
        rw [hlast₂, hlast₁]
        exact heq
    · -- the last pixel moves on to a new section
      have hmany : 1 ≤ qs.length := List.length_pos_iff.mpr hqs
      rw [List.length_append, List.length_singleton] at hle hsingle
      rw [List.length_append, List.length_singleton, if_neg (fun hz => by
        have := hsingle.mp hz
        omega)]
      rw [if_neg hqs] at hnext
      have hbody : bodyOf host (.literal (qs ++ [p])) =
          qs.flatMap (store16 host) ++ store16 host p := by
        rw [bodyOf, List.flatMap_append, List.flatMap_singleton]
      have hheader : headerOf (.literal (qs ++ [p])) = sectionHeader false (qs.length + 1) := by
        rw [headerOf, List.length_append, List.length_singleton]
      rw [hbody, hheader] at hlayout
      obtain ⟨st₁, hdec, hlayout₁, hpos₁, hlast₁⟩ := hlayout.decHeader hmany (by omega)
      obtain ⟨st₂, st₃, hopen, hput, hlayout₃, hpos₃, hlast₃⟩ :=
        After.reopen (s := .literal qs) hlayout₁.takeBack hnext
          (show sectionHeader true 2 = 0x80 + 1 by decide) rfl
      rw [hdec]
      refine ⟨st₃, true, _, _, ?_, ⟨hnext, hlayout₃, hpos₃.trans hpos₁, ?_⟩, by simp⟩
      · show (RleState.openSection _ _ >>= fun st => st.putPixel host p >>= _) = _
        rw [hopen]
        show (st₂.putPixel host p >>= _) = _
        rw [hput]
        rfl
      · show p = st₃.lastPixelValue
        rw [hlast₃, show st₁.lastPixelValue = st.lastPixelValue from hlast₁]
        exact heq
  · rw [if_neg heq, hlayout.header_ok]
    rw [if_neg (fun hne => heq hne.symm)] at hnext
    show ∃ st' break? closed' s', (if sectionHeader false ps.length = 0x7f then _ else _) = _ ∧ _
    by_cases hcount : ps.length = 128
    · rw [if_pos (hfull.mpr hcount)]
      rw [if_pos hcount] at hnext
      obtain ⟨st₁, st₂, hopen, hput, hlayout₂, hpos₂, hlast₂⟩ :=
        After.reopen hlayout hnext (show sectionHeader false 1 = 0 by decide)
          (List.flatMap_singleton _ p)
      rw [hopen]
      refine ⟨{ st₂ with lastPixelValue := p }, false, _, _, ?_,
        ⟨hnext, hlayout₂.set _ _, hpos₂, rfl⟩, fun _ => ⟨_, rfl⟩⟩
      show (st₁.putPixel host p >>= _) = _
      rw [hput]
      rfl
    · rw [if_neg (fun hf => hcount (hfull.mp hf))]
      rw [if_neg hcount] at hnext
      have hcounted : Layout _ _ (sectionHeader false ps.length) _ _ := hlayout
      obtain ⟨st₁, hinc, hlayout₁, hpos₁, hlast₁⟩ := hcounted.incHeader hpos (by omega)
      have hbody : bodyOf host (.literal (ps ++ [p])) =
          bodyOf host (.literal ps) ++ store16 host p := by
        rw [bodyOf, List.flatMap_append, List.flatMap_singleton]
        rfl
      have hheader : headerOf (.literal (ps ++ [p])) = sectionHeader false (ps.length + 1) := by
        rw [headerOf, List.length_append, List.length_singleton]
      have hfits := fits_of_encoded host hnext
      rw [hbody, List.length_append, store16_length] at hfits
      have hend := hlayout₁.pos_eq
      obtain ⟨st₂, hput, hlayout₂, hpos₂, hlast₂⟩ := hlayout₁.putPixel (by omega) host p
      rw [hinc]
      refine ⟨{ st₂ with lastPixelValue := p }, false, closed, .literal (ps ++ [p]), ?_,
        ⟨hnext, ?_, hpos₂.trans hpos₁, ?_⟩, fun _ => ⟨_, rfl⟩⟩
      · show (st₁.putPixel host p >>= _) = _
        rw [hput]
        rfl
      · rw [hbody, hheader]
        exact hlayout₂.set _ _
      · exact List.getLast?_concat

/-- **A loop over one section** comes to its end and gets on by one pixel at least. -/
theorem sectionLoop_ok (Kind : Section Pixel → Prop) {pixels : List Pixel}
    {body : RleState → Except RleFault (RleState × Bool)}
    (hbody : ∀ {k closed s st p}, After host pixels k closed s st → Kind s →
      pixels[k]? = some p → ∃ st' break? closed' s', body st = .ok (st', break?) ∧
        After host pixels (k + 1) closed' s' st' ∧ (break? = false → Kind s'))
    {fuel : Nat} {s : Section Pixel} (h : After host pixels k closed s st) (hkind : Kind s)
    (hk : k < pixels.length) (hfuel : pixels.length ≤ k + fuel) :
    ∃ k' closed' s' st', sectionLoop body pixels.length fuel st = .ok st' ∧
      After host pixels k' closed' s' st' ∧ k < k' ∧ k' ≤ pixels.length := by
  induction fuel generalizing k closed s st with
  | zero => omega
  | succ fuel ih =>
      obtain ⟨st₁, break?, closed₁, s₁, hstep, hafter, hgoes⟩ :=
        hbody h hkind (List.getElem?_eq_getElem hk)
      unfold sectionLoop
      rw [if_pos (h.pixelPos.symm ▸ hk), hstep]
      cases break? with
      | true => exact ⟨k + 1, closed₁, s₁, st₁, rfl, hafter, by omega, hk⟩
      | false =>
          show ∃ k' closed' s' st', sectionLoop body pixels.length fuel st₁ = .ok st' ∧ _
          by_cases hend : k + 1 < pixels.length
          · obtain ⟨k', closed', s', st', hrun, hafter', hlt, hle⟩ :=
              ih hafter (hgoes rfl) hend (by omega)
            exact ⟨k', closed', s', st', hrun, hafter', by omega, hle⟩
          · have hstop : ¬ st₁.pixelPos < pixels.length := by
              rw [hafter.pixelPos]
              exact hend
            refine ⟨k + 1, closed₁, s₁, st₁, ?_, hafter, by omega, hk⟩
            cases fuel <;> exact if_neg hstop

/-- **The outer loop** comes to its end with all pixels done. -/
theorem rleLoop_ok {fuel : Nat} {s : Section Pixel}
    (h : After host (hostPixels host buffer) k closed s st)
    (hk : k ≤ (hostPixels host buffer).length)
    (hfuel : (hostPixels host buffer).length ≤ k + fuel) :
    ∃ closed' s' st', rleLoop host buffer (hostPixels host buffer).length fuel st = .ok st' ∧
      After host (hostPixels host buffer) (hostPixels host buffer).length closed' s' st' := by
  induction fuel generalizing k closed s st with
  | zero =>
      obtain rfl : k = (hostPixels host buffer).length := by omega
      refine ⟨closed, s, st, if_neg ?_, h⟩
      rw [h.pixelPos]
      exact Nat.lt_irrefl _
  | succ fuel ih =>
      unfold rleLoop
      rw [h.pixelPos]
      by_cases hlt : k < (hostPixels host buffer).length
      · obtain ⟨hpos, hle⟩ := h.wellFormed
        obtain ⟨n, hn⟩ := exists_fin hpos hle
        have hsection : ∃ k' closed' s' st',
            sectionLoop (if headerOf s &&& 0x80 ≠ 0 then commonStep host buffer
              else literalStep host buffer) (hostPixels host buffer).length (fuel + 1) st =
                .ok st' ∧
            After host (hostPixels host buffer) k' closed' s' st' ∧ k < k' ∧
              k' ≤ (hostPixels host buffer).length := by
          cases s with
          | common q count =>
              have hn' : count = n.1 + 1 := hn
              have hcommon : headerOf (.common q count) &&& 0x80 ≠ 0 := by
                rw [headerOf, hn']
                exact (header_isCommon true n).mpr rfl
              rw [if_pos hcommon]
              apply sectionLoop_ok (fun s => ∃ q count, s = .common q count) _ h ⟨q, count, rfl⟩ hlt hfuel
              intro k closed s st p hafter hparts hp
              obtain ⟨q, count, rfl⟩ := hparts
              exact commonStep_ok hafter hp
          | literal ps =>
              have hn' : ps.length = n.1 + 1 := hn
              have hliteral : ¬ headerOf (.literal ps) &&& 0x80 ≠ 0 := by
                rw [headerOf, hn']
                exact fun hc => Bool.false_ne_true ((header_isCommon false n).mp hc)
              rw [if_neg hliteral]
              apply sectionLoop_ok (fun s => ∃ ps, s = .literal ps) _ h ⟨ps, rfl⟩ hlt hfuel
              intro k closed s st p hafter hparts hp
              obtain ⟨ps, rfl⟩ := hparts
              exact literalStep_ok hafter hp
        obtain ⟨k', closed', s', st', hrun, hafter, hgot, hle'⟩ := hsection
        obtain ⟨closed'', s'', st'', hrest, hdone⟩ := ih hafter hle' (by omega)
        refine ⟨closed'', s'', st'', ?_, hdone⟩
        rw [if_pos hlt, h.layout.header_ok]
        show (sectionLoop (if decide (headerOf s &&& 0x80 ≠ 0) = true then _ else _) _ _ _ >>= _) = _
        simp only [decide_eq_true_eq]
        rw [hrun]
        exact hrest
      · obtain rfl : k = (hostPixels host buffer).length := by omega
        exact ⟨closed, s, st, if_neg hlt, h⟩

end Loops

section RoundTrip

/-! ## The whole encoder -/

variable {host : HostOrder} {buffer : List UInt8} {n : Nat}

/-- **`rleCompress` is the abstract encoder.** -/
theorem rleCompress_ok (garbage : Nat → UInt8) {fuel : Nat} (hpos : 0 < n)
    (hlen : buffer.length = 2 * n) (hfuel : n ≤ fuel) :
    rleCompress host buffer garbage fuel =
      .ok ((encode 128 reopenCommon (hostPixels host buffer)).flatMap (sectionBytes host)) := by
  obtain ⟨hcount, _⟩ := hostPixels_spec host hlen
  have heven : buffer.length &&& 0x1 = 0 := by
    rw [Nat.and_one_is_mod]
    omega
  have hhalf : buffer.length >>> 1 = n := by
    rw [Nat.shiftRight_eq_div_pow]
    omega
  have hest : buffer.length + ((n + 0x7f) >>> 7) = estSize n := by
    rw [Nat.shiftRight_eq_div_pow, hlen]
    rfl
  have hroom : 3 ≤ estSize n := by
    unfold estSize
    omega
  obtain ⟨p, hp⟩ : ∃ p, (hostPixels host buffer)[0]? = some p :=
    ⟨_, List.getElem?_eq_getElem (by omega)⟩
  -- the first section, which follows no other
  generalize hmemory : (List.range (estSize n)).map garbage = memory
  have hmemorylen : memory.length = estSize n := by
    rw [← hmemory, List.length_map, List.length_range]
  obtain ⟨output, hwrite⟩ : ∃ output, writeAt memory 0 [0] = some output := by
    apply writeAt_isSome
    rw [hmemorylen, List.length_singleton]
    omega
  have hfirst : Layout (estSize n) [] 0 []
      { outputBuffer := output, pixelPos := 1, lastPixelValue := p, encodingPos := 1,
        sectionHeader := 0 } :=
    ⟨(writeAt_length hwrite).trans hmemorylen, rfl, rfl, writeAt_take hwrite⟩
  obtain ⟨st, hput, hlayout, hpixel, hlast⟩ :=
    hfirst.putPixel (show 1 + 2 ≤ estSize n from hroom) host p
  have hencoded : encodedTo (hostPixels host buffer) 1 = ⟨[], some (.literal [p])⟩ :=
    encodedTo_succ hp
  have hafter : After host (hostPixels host buffer) 1 [] (.literal [p]) st := by
    refine ⟨hencoded, ?_, hpixel, ?_⟩
    · have hzero : headerOf (.literal [p]) = 0 := show sectionHeader false 1 = 0 by decide
      rw [hcount, hzero, bodyOf, List.flatMap_singleton]
      exact hlayout
    · rw [hlast]
      rfl
  have henough : (hostPixels host buffer).length ≤ 1 + fuel := by omega
  obtain ⟨closed, s, st', hloop, hdone⟩ := rleLoop_ok hafter (by omega) henough
  have hall : (encode 128 reopenCommon (hostPixels host buffer)) = closed ++ [s] := by
    have hfull : encodedTo (hostPixels host buffer) (hostPixels host buffer).length =
        Encoded.start.pushAll 128 reopenCommon (hostPixels host buffer) := by
      rw [encodedTo, List.take_length]
    rw [encode, ← hfull, hdone.encoded]
    rfl
  have hfits : st'.encodingPos ≤ st'.outputBuffer.length := by
    rw [hdone.layout.room]
    exact hdone.layout.pos_le
  unfold rleCompress
  rw [if_neg (fun hne => hne heven), hhalf, hest]
  simp only [hmemory, RleState.openSection, RleState.store, hwrite]
  show (pixelData host buffer 0 >>= _) = _
  rw [pixelData_ok host hp]
  show (RleState.putPixel host _ p >>= _) = _
  rw [hput]
  show (rleLoop host buffer n fuel st >>= _) = _
  rw [← hcount, hloop]
  show (if _ then _ else _) = _
  rw [if_pos hfits, hdone.layout.written, flatMap_close, ← hall]
  rfl

/-- The sections of an encoding decode to its pixels. -/
theorem encoded_decodes (host : HostOrder) (pixels : List Pixel) :
    (rleDecode ((encode 128 reopenCommon pixels).flatMap (sectionBytes host))).map
      (List.map (cpuToLe16 host)) = some pixels := by
  have hcap : 3 ≤ 128 := by decide
  have hwell := encode_wellFormed hcap reopenCommon_reopens pixels
  have hback : cpuToLe16 host ∘ cpuToLe16 host = id := funext (cpuToLe16_cpuToLe16 host)
  rw [rleDecode_sections host hwell, expand_encode hcap reopenCommon_reopens,
    Option.map_some, List.map_map, hback, List.map_id]

/-- They are one byte longer than the pixels for every 128 of these, at most. -/
theorem encoded_length_le (host : HostOrder) (pixels : List Pixel) :
    ((encode 128 reopenCommon pixels).flatMap (sectionBytes host)).length ≤
      2 * pixels.length + (pixels.length + 127) / 128 := by
  rw [flatMap_sectionBytes_length]
  exact encode_cost_le (by decide) reopenCommon_reopens _

/-- **The SDK's encoder.**  For every non-empty buffer of `n` pixels and whatever the
output holds at first, it comes to an end without a fault: no byte outside of the
`2 * n + ⌈n / 128⌉` allocated is written and no count leaves its seven bits.  The
result decodes to exactly the pixels of the buffer, once these are read in the
byte order they were stored in. -/
theorem rleCompress_round_trip (host : HostOrder) (garbage : Nat → UInt8) {buffer : List UInt8}
    {n fuel : Nat} (hpos : 0 < n) (hlen : buffer.length = 2 * n) (hfuel : n ≤ fuel) :
    ∃ output, rleCompress host buffer garbage fuel = .ok output ∧
      (rleDecode output).map (List.map (cpuToLe16 host)) = some (hostPixels host buffer) ∧
      output.length ≤ 2 * n + (n + 127) / 128 := by
  obtain ⟨hcount, _⟩ := hostPixels_spec host hlen
  refine ⟨_, rleCompress_ok garbage hpos hlen hfuel, encoded_decodes host _, ?_⟩
  have hsize := encoded_length_le host (hostPixels host buffer)
  rwa [hcount] at hsize

/-- Three pixels, of which two are equal. -/
theorem rleCompress_round_trip_three : ∃ output,
    rleCompress .little [1, 0, 2, 0, 2, 0] (fun _ => 0xff) 3 = .ok output ∧
      (rleDecode output).map (List.map (cpuToLe16 .little)) =
        some (hostPixels .little [1, 0, 2, 0, 2, 0]) ∧
      output.length ≤ 2 * 3 + (3 + 127) / 128 :=
  rleCompress_round_trip .little (fun _ => 0xff) (by decide) rfl (Nat.le_refl 3)

end RoundTrip

end Sdk

end RpUsbDisp
