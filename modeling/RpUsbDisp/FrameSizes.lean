import RpUsbDisp.Pipeline

/-!
# The sizes of a frame

`PipelineHandlePresent` computes the size of a frame in `UINT32`: the payload, where
its rows begin, where the rows of the surface begin, and how many chunks it makes.
The allocation, the loop over the rows and the loop over the chunks each take what
they need of these, so where one has wrapped around they no longer agree: a small
buffer is written in full, or a full buffer is sent in no chunks.

The present asks for nothing but a surface that is not empty, and
`frame_sizes_exact_iff` says for which surfaces that is enough.  A `size_t` has 64 bits.
-/

namespace RpUsbDisp

namespace Windows

open Framing

/-! ## The sizes -/

/-- `totalBytes`: what is allocated for a frame and its header. -/
def Surface.totalBytes (surface : Surface) : UInt64 :=
  UInt64.ofNat sizeofFrameHeader + surface.payloadBytes.toUInt64

/-- `Pitch` as the `INT` that it is. -/
def Surface.pitchInt (surface : Surface) : Int := surface.pitch.toInt32.toInt

/-- **The sizes are exact**: computed in `UINT32` and `size_t`, they are what they are
in the integers. -/
structure Surface.SizesExact (surface : Surface) : Prop where
  payloadBytes : surface.payloadBytes.toNat = 2 * surface.width.toNat * surface.height.toNat
  totalBytes : surface.totalBytes.toNat =
    sizeofFrameHeader + 2 * surface.width.toNat * surface.height.toNat
  srcRow : ∀ row, row < surface.height.toNat →
    ((UInt32.ofNat row * surface.pitch).toNat : Int) = row * surface.pitchInt
  dstRow : ∀ row, row < surface.height.toNat →
    (UInt32.ofNat row * surface.width).toNat = row * surface.width.toNat
  totalChunks : (totalChunks surface.payloadBytes).toNat =
    (2 * surface.width.toNat * surface.height.toNat + 16352 - 1) / 16352

/-- **The frame stays inside its buffer**: all the pixels are written, and the chunks
read all that is written and nothing else. -/
structure Surface.FrameInside (surface : Surface) : Prop where
  converted : ∀ pixelData : List UInt16, pixelData.length = surface.payloadBytes.toNat / 2 →
    convertRows surface pixelData =
      some ((List.range surface.height.toNat).flatMap surface.convertedRow)
  copied : ∀ (frameId : UInt32) (pixelData : List UInt16),
    pixelData.length = surface.payloadBytes.toNat / 2 →
    ∀ i, i < (totalChunks surface.payloadBytes).toNat →
      chunkBuffer surface frameId pixelData (UInt32.ofNat i) =
        some ((surface.chunkHeader frameId i).toBytes ++
          ((pixelData.flatMap (store16 .little)).drop (i * 16352)).take 16352)
  covered : ∀ pixelData : List UInt16, pixelData.length = surface.payloadBytes.toNat / 2 →
    ((List.range (totalChunks surface.payloadBytes).toNat).map fun i =>
      ((pixelData.flatMap (store16 .little)).drop (i * 16352)).take 16352).flatten =
        pixelData.flatMap (store16 .little)

/-- The frame and the surface can be addressed: the payload leaves room for a chunk to
be rounded up to, and the last row of the surface begins before the 4 GiB are over. -/
structure Surface.Addressable (surface : Surface) : Prop where
  payload : surface.Sized
  srcRow_nonneg : 0 ≤ ((surface.height.toNat : Int) - 1) * surface.pitchInt
  srcRow_lt : ((surface.height.toNat : Int) - 1) * surface.pitchInt < 2 ^ 32

/-- A present of this description never comes to the allocation: it does the same
whether a frame buffer can be had or not. -/
def SurfaceDesc.Rejected (desc : SurfaceDesc) : Prop :=
  ∀ frameCounter s (a : PresentAnswers) frameBuffer, a.desc = some desc →
    pipelineHandlePresent frameCounter s { a with frameBuffer := frameBuffer } =
      pipelineHandlePresent frameCounter s a

section Sizes

variable {surface : Surface}

/-- The two ways to read the 32 bits of the pitch. -/
theorem pitchInt_cases (surface : Surface) :
    0 ≤ surface.pitchInt ∧ surface.pitchInt = surface.pitch.toNat ∨
      surface.pitchInt < 0 ∧ surface.pitchInt = (surface.pitch.toNat : Int) - 2 ^ 32 := by
  have hbits : surface.pitchInt = surface.pitch.toBitVec.toInt := rfl
  have hnat : surface.pitch.toBitVec.toNat = surface.pitch.toNat := rfl
  have hlt : surface.pitch.toNat < 2 ^ 32 := UInt32.toNat_lt _
  rw [hbits, BitVec.toInt_eq_toNat_cond, hnat]
  split
  · exact .inl ⟨Int.natCast_nonneg _, rfl⟩
  · refine .inr ⟨?_, rfl⟩
    omega

/-- **The rows of the surface** begin where they should exactly if the last one does. -/
theorem srcRow_exact_iff (hheight : 0 < surface.height.toNat) :
    (∀ row, row < surface.height.toNat →
        ((UInt32.ofNat row * surface.pitch).toNat : Int) = row * surface.pitchInt) ↔
      0 ≤ ((surface.height.toNat : Int) - 1) * surface.pitchInt ∧
        ((surface.height.toNat : Int) - 1) * surface.pitchInt < 2 ^ 32 := by
  obtain ⟨last, hlast⟩ : ∃ last, surface.height.toNat = last + 1 :=
    ⟨surface.height.toNat - 1, by omega⟩
  have hsub : ((last + 1 : Nat) : Int) - 1 = last := by omega
  rw [hlast, hsub]
  constructor
  · intro h
    rw [← h last (Nat.lt_succ_self last), ofNat_mul_mod]
    omega
  · intro h row hrow
    obtain ⟨hnonneg, hlt⟩ := h
    have hle : row ≤ last := Nat.le_of_lt_succ hrow
    rcases pitchInt_cases surface with ⟨_, hpitch⟩ | ⟨hneg, _⟩
    · have hproduct : row * surface.pitch.toNat ≤ last * surface.pitch.toNat :=
        Nat.mul_le_mul_right _ hle
      rw [hpitch, ← Int.natCast_mul] at hlt
      rw [hpitch, ← Int.natCast_mul, ofNat_mul_mod, Nat.mod_eq_of_lt (by omega)]
    · -- With a negative pitch there is only the first row.
      have hzero : last = 0 := by
        by_contra hpos
        have hproduct : (last : Int) * surface.pitchInt < 0 :=
          Int.mul_neg_of_pos_of_neg (by omega) hneg
        omega
      have hrow0 : row = 0 := by omega
      rw [hrow0, ofNat_mul_mod]
      simp

/-- The payload as it is computed. -/
theorem payloadBytes_mod (surface : Surface) : surface.payloadBytes.toNat =
    2 * surface.width.toNat * surface.height.toNat % 2 ^ 32 := by
  have htwo : (2 : UInt32).toNat = 2 := rfl
  have hproduct : surface.width.toNat * surface.height.toNat * 2 =
      2 * surface.width.toNat * surface.height.toNat := by
    rw [Nat.mul_comm _ 2, Nat.mul_assoc]
  rw [Surface.payloadBytes, UInt32.toNat_mul, UInt32.toNat_mul, htwo, Nat.mul_mod, Nat.mod_mod,
    ← Nat.mul_mod, hproduct]

/-- Rounding up a payload that leaves no room for it makes no chunk at all. -/
theorem totalChunks_wrapped
    (hpayload : surface.payloadBytes.toNat = 2 * surface.width.toNat * surface.height.toNat)
    (hwraps : ¬ surface.Sized) : (totalChunks surface.payloadBytes).toNat = 0 := by
  have hlarge : ¬ 2 * surface.width.toNat * surface.height.toNat + 16351 < 2 ^ 32 :=
    fun hlt => hwraps ⟨hlt⟩
  have hlt : surface.payloadBytes.toNat < 2 ^ 32 := UInt32.toNat_lt _
  have hone : (1 : UInt32).toNat = 1 := rfl
  rw [totalChunks, UInt32.toNat_div, UInt32.toNat_sub, UInt32.toNat_add, chunkDataSize_toNat, hone]
  omega

/-- **The number of chunks** of an exact payload is exact exactly if rounding it up
does not wrap around. -/
theorem totalChunks_exact_iff
    (hpayload : surface.payloadBytes.toNat = 2 * surface.width.toNat * surface.height.toNat)
    (hpos : 0 < surface.payloadBytes.toNat) :
    (totalChunks surface.payloadBytes).toNat =
        (2 * surface.width.toNat * surface.height.toNat + 16352 - 1) / 16352 ↔
      surface.Sized := by
  constructor
  · intro h
    by_contra hwraps
    rw [totalChunks_wrapped hpayload hwraps, ← hpayload] at h
    omega
  · intro h
    rw [h.totalChunks_eq, h.payload_length, hpayload]

theorem totalBytes_exact
    (hpayload : surface.payloadBytes.toNat = 2 * surface.width.toNat * surface.height.toNat) :
    surface.totalBytes.toNat =
      sizeofFrameHeader + 2 * surface.width.toNat * surface.height.toNat := by
  have hlt : surface.payloadBytes.toNat < 2 ^ 32 := UInt32.toNat_lt _
  have hheader : (UInt64.ofNat sizeofFrameHeader).toNat = sizeofFrameHeader := rfl
  have hsize : sizeofFrameHeader = 16 := rfl
  rw [Surface.totalBytes, UInt64.toNat_add, hheader, UInt32.toNat_toUInt64, hpayload]
  omega

/-- **When the sizes are exact.** -/
theorem sizesExact_iff (hwidth : 0 < surface.width.toNat) (hheight : 0 < surface.height.toNat) :
    surface.SizesExact ↔ surface.Addressable := by
  have hpos : 0 < 2 * surface.width.toNat * surface.height.toNat :=
    Nat.mul_pos (Nat.mul_pos (by decide) hwidth) hheight
  constructor
  · intro h
    obtain ⟨hnonneg, hlt⟩ := (srcRow_exact_iff hheight).mp h.srcRow
    rw [← h.payloadBytes] at hpos
    exact ⟨(totalChunks_exact_iff h.payloadBytes hpos).mp h.totalChunks, hnonneg, hlt⟩
  · intro h
    have hpayload := h.payload.payloadBytes_eq
    have hlt := h.payload.payload_lt
    constructor
    · exact hpayload
    · exact totalBytes_exact hpayload
    · exact (srcRow_exact_iff hheight).mpr ⟨h.srcRow_nonneg, h.srcRow_lt⟩
    · intro row hrow
      have hle : row * surface.width.toNat ≤ surface.height.toNat * surface.width.toNat :=
        Nat.mul_le_mul_right _ (Nat.le_of_lt hrow)
      rw [Nat.mul_assoc, Nat.mul_comm surface.width.toNat] at hlt
      exact ofNat_mul_toNat (by omega)
    · rw [← hpayload] at hpos
      exact (totalChunks_exact_iff hpayload hpos).mpr h.payload

theorem convertRows_length {block filled : List UInt16} (h : convertRows surface block = some filled) :
    filled.length = block.length := by
  have hrows : ∀ (rows : List Nat) (block : List UInt16),
      rows.foldlM (fun pixelData row =>
        writeAt pixelData (UInt32.ofNat row * surface.width).toNat (surface.convertedRow row)) block =
          some filled → filled.length = block.length := by
    intro rows
    induction rows with
    | nil =>
        intro block hrun
        rw [Option.some.inj hrun]
    | cons row rows ih =>
        intro block hrun
        rw [List.foldlM_cons] at hrun
        obtain ⟨next, hnext, hrest⟩ := Option.bind_eq_some_iff.mp hrun
        rw [ih next hrest, writeAt_length hnext]
  exact hrows _ block h

/-- What the rows come to, however they are read. -/
theorem convertedRows_length (surface : Surface) :
    ((List.range surface.height.toNat).flatMap surface.convertedRow).length =
      surface.height.toNat * surface.width.toNat := by
  have hlength : ∀ row ∈ List.range surface.height.toNat,
      (surface.convertedRow row).length = surface.width.toNat := by
    intro row _
    rw [Surface.convertedRow, convertBgraToRgb565, List.length_map, List.length_range]
  rw [List.length_flatMap, List.map_congr_left hlength, List.map_const', List.length_range,
    List.sum_replicate_nat]

/-- **When the frame stays inside its buffer.** -/
theorem frameInside_iff (hwidth : 0 < surface.width.toNat) (hheight : 0 < surface.height.toNat) :
    surface.FrameInside ↔ surface.Sized := by
  have harea : 0 < surface.height.toNat * surface.width.toNat := Nat.mul_pos hheight hwidth
  have hproduct : 2 * surface.width.toNat * surface.height.toNat =
      2 * (surface.height.toNat * surface.width.toNat) := by
    rw [Nat.mul_assoc, Nat.mul_comm surface.width.toNat]
  constructor
  · intro h
    generalize hblock : List.replicate (surface.payloadBytes.toNat / 2) (0 : UInt16) = block
    have hlength : block.length = surface.payloadBytes.toNat / 2 := by
      rw [← hblock, List.length_replicate]
    -- The rows have been written, so there was room for all of them.
    have hfilled := convertRows_length (h.converted block hlength)
    rw [convertedRows_length, hlength] at hfilled
    have hexact : surface.payloadBytes.toNat = 2 * surface.width.toNat * surface.height.toNat := by
      have hmod := payloadBytes_mod surface
      rw [hproduct] at hmod ⊢
      omega
    by_contra hwraps
    have hcovered := h.covered block hlength
    rw [totalChunks_wrapped hexact hwraps, List.range_zero, List.map_nil, List.flatten_nil] at hcovered
    have hbytes := flatMap_store16_length .little block
    rw [← hcovered, List.length_nil, hlength] at hbytes
    omega
  · intro h
    have hhalf : surface.payloadBytes.toNat / 2 = surface.height.toNat * surface.width.toNat := by
      rw [h.payloadBytes_eq, hproduct, Nat.mul_div_cancel_left _ (by decide)]
    constructor
    · intro pixelData hlength
      exact convertRows_filled h (hlength.trans hhalf)
    · intro frameId pixelData hlength i hi
      exact chunkBuffer_inside h frameId (hlength.trans hhalf) hi
    · intro pixelData hlength
      have hbytes : (pixelData.flatMap (store16 .little)).length = surface.payload.length := by
        rw [flatMap_store16_length, hlength, hhalf, Surface.payload, flatMap_store16_length,
          Surface.pixels_length]
      have hchunk : 0 < 16352 := by decide
      have hcut := cut_flatten hchunk (pixelData.flatMap (store16 .little))
      rw [h.totalChunks_eq, ← hbytes]
      exact hcut

end Sizes

section Present

/-! ## The present -/

/-- A present that gets what it asks for, but perhaps no frame buffer. -/
def obtainingPresent (desc : SurfaceDesc) (frameBuffer : Option (Nat → UInt16)) : PresentAnswers :=
  { panelPresent with desc := some desc, frameBuffer := frameBuffer }

/-- **Nothing is rejected** but empty surfaces and other formats. -/
theorem not_rejected {desc : SurfaceDesc} (hwidth : desc.width ≠ 0) (hheight : desc.height ≠ 0)
    (hformat : desc.format = DXGI_FORMAT_B8G8R8A8_UNORM) : ¬ desc.Rejected := by
  intro hrejected
  have hsame := hrejected 0 idleState (obtainingPresent desc none) (some fun _ => 0) rfl
  have htarget : NT_SUCCESS (ensureTransportTarget idleState.pipeline
      ⟨STATUS_SUCCESS, true, STATUS_SUCCESS, STATUS_SUCCESS⟩).1 = true := by decide
  have hsuccess : NT_SUCCESS STATUS_SUCCESS = true := rfl
  unfold pipelineHandlePresent obtainingPresent panelPresent at hsame
  simp only [htarget, hsuccess, hwidth, hheight, hformat, not_true_eq_false, if_false, ne_eq,
    or_self] at hsame
  -- With a buffer the frame takes the next number, without one it is dropped.
  obtain ⟨pixelData, _, hpush⟩ := Option.bind_eq_some_iff.mp hsame
  obtain ⟨sent, _, hpresented⟩ := Option.bind_eq_some_iff.mp hpush
  have hcounter : (0 + 1 : UInt32) = 0 :=
    congrArg Presented.frameCounter (Option.some.inj hpresented)
  exact absurd hcounter (by decide)

/-- **When the sizes of a frame are right.**  A present of any surface that is not empty
either rejects it before the allocation, or computes exact sizes and stays inside the
frame buffer, exactly if the frame and the surface can be addressed. -/
theorem frame_sizes_exact_iff {desc : SurfaceDesc} (hwidth : desc.width ≠ 0)
    (hheight : desc.height ≠ 0) (hformat : desc.format = DXGI_FORMAT_B8G8R8A8_UNORM)
    (pitch : UInt32) (pBits : Nat → UInt8) {surface : Surface}
    (hsurface : surface = ⟨desc.width, desc.height, pitch, pBits⟩) :
    desc.Rejected ∨ surface.SizesExact ∧ surface.FrameInside ↔ surface.Addressable := by
  have hpos : ∀ v : UInt32, v ≠ 0 → 0 < v.toNat := by
    intro v hv
    by_contra hzero
    exact hv (UInt32.toNat_inj.mp (Nat.eq_zero_of_not_pos hzero))
  have hwidthPos : 0 < surface.width.toNat := by
    rw [hsurface]
    exact hpos desc.width hwidth
  have hheightPos : 0 < surface.height.toNat := by
    rw [hsurface]
    exact hpos desc.height hheight
  have haccepted := not_rejected hwidth hheight hformat
  have hsizes := sizesExact_iff hwidthPos hheightPos
  have hinside := frameInside_iff hwidthPos hheightPos
  constructor
  · intro h
    rcases h with hrejected | ⟨hexact, _⟩
    · exact absurd hrejected haccepted
    · exact hsizes.mp hexact
  · intro h
    exact .inr ⟨hsizes.mpr h, hinside.mpr h.payload⟩

/-- The panel's own size: 150 KiB of payload, in ten chunks. -/
theorem frame_sizes_exact_panel :
    ((⟨320, 240, DXGI_FORMAT_B8G8R8A8_UNORM⟩ : SurfaceDesc).Rejected ∨
      panelSurface.SizesExact ∧ panelSurface.FrameInside) ∧
      (totalChunks panelSurface.payloadBytes).toNat = 10 := by
  refine ⟨(frame_sizes_exact_iff (by decide) (by decide) rfl 1280 UInt8.ofNat rfl).mpr ?_, by decide⟩
  exact ⟨⟨by decide⟩, by decide, by decide⟩

/-- 65536 by 32768 pixels of RGB565 are 4 GiB: the payload is computed as 0 bytes. -/
theorem frame_of_no_bytes :
    ¬ ((⟨65536, 32768, DXGI_FORMAT_B8G8R8A8_UNORM⟩ : SurfaceDesc).Rejected ∨
      (⟨65536, 32768, 262144, fun _ => 0⟩ : Surface).SizesExact ∧
        (⟨65536, 32768, 262144, fun _ => 0⟩ : Surface).FrameInside) := by
  intro h
  rcases h with hrejected | ⟨hexact, _⟩
  · exact not_rejected (by decide) (by decide) rfl hrejected
  · exact absurd hexact.payloadBytes (by decide)

end Present

end Windows

end RpUsbDisp
