import RpUsbDisp.Programs
import RpUsbDisp.Framing
import RpUsbDisp.Protocol

/-!
# The streaming run-length encoder of the Linux driver

`_rle_compress_n_encode` takes one pixel at a time and keeps the pending section
in an array of 128.  What it closes goes to a `transfer` function, which in the
driver is `_bitblt_encode_n_transfer_data`; nothing here depends on that, so the
encoder is written over any sink.

`Pending` connects the array with the pending section of the abstract encoder,
and `rleCompressNEncode_wp` says that one pixel does to the driver's state what
`Encoded.push` does to the abstract one.  Everything else is read off the
abstract encoder.
-/

namespace RpUsbDisp

open Programs Framing RunLength

/-- `struct rle_encoder_context`. -/
structure RleEncoderContext (κ : Type) where
  encoderCtx : κ
  isCommonSection : Bool
  sectionSize : Nat
  sectionData : List Pixel

section Code

variable {Op : Type} {Res : Op → Type} {κ : Type}

/-- `_rle_compress_init`, which leaves the array as it finds it. -/
def rleCompressInit (sectionData : List Pixel) (encoderCtx : κ) : RleEncoderContext κ :=
  { encoderCtx := encoderCtx
    isCommonSection := false
    sectionSize := 0
    sectionData := sectionData }

/-- `section_data[i] = pixel`. -/
def storePixel (rleCtx : RleEncoderContext κ) (i : Nat) (pixel : Pixel) :
    Prog Op Res (RleEncoderContext κ) :=
  match writeAt rleCtx.sectionData i [pixel] with
  | some sectionData => .ret { rleCtx with sectionData := sectionData }
  | none => .fault .oops

/-- `section_data[i]`. -/
def loadPixel (rleCtx : RleEncoderContext κ) (i : Nat) : Prog Op Res Pixel :=
  match rleCtx.sectionData[i]? with
  | some pixel => .ret pixel
  | none => .fault .oops

variable (host : HostOrder) (transfer : κ → List UInt8 → Prog Op Res (κ × Bool))

/-- `_rle_flush_section`. -/
def rleFlushSection (rleCtx : RleEncoderContext κ) : Prog Op Res (RleEncoderContext κ × Bool) := do
  Prog.bugOn (rleCtx.sectionSize > RPUSBDISP_RLE_BLOCKFLAG_SIZE_BIT + 1)
  if rleCtx.sectionSize = 0 then return (rleCtx, true)
  else
    let header := sectionHeader rleCtx.isCommonSection rleCtx.sectionSize
    match ← transfer rleCtx.encoderCtx [header] with
    | (encoderCtx, false) => return ({ rleCtx with encoderCtx := encoderCtx }, false)
    | (encoderCtx, true) =>
        let sectionDataLen := if rleCtx.isCommonSection then 1 else rleCtx.sectionSize
        let data := (rleCtx.sectionData.take sectionDataLen).flatMap (store16 host)
        match ← transfer encoderCtx data with
        | (encoderCtx, false) => return ({ rleCtx with encoderCtx := encoderCtx }, false)
        | (encoderCtx, true) =>
            return ({ rleCtx with
              encoderCtx := encoderCtx, isCommonSection := false, sectionSize := 0 }, true)

/-- Flush the section, then start one with a single pixel. -/
def rleFlushThenStart (rleCtx : RleEncoderContext κ) (pixel : Pixel) :
    Prog Op Res (RleEncoderContext κ × Bool) := do
  match ← rleFlushSection host transfer rleCtx with
  | (rleCtx, false) => return (rleCtx, false)
  | (rleCtx, true) =>
      let rleCtx ← storePixel { rleCtx with sectionSize := 1 } 0 pixel
      return (rleCtx, true)

/-- The pair branch: form a common section of two. -/
def rleFormCommon (rleCtx : RleEncoderContext κ) (pixel : Pixel) :
    Prog Op Res (RleEncoderContext κ × Bool) := do
  let rleCtx ← storePixel { rleCtx with sectionSize := 2 } 0 pixel
  return ({ rleCtx with isCommonSection := true }, true)

/-- The last branch: include one more pixel in a literal section. -/
def rleInclude (rleCtx : RleEncoderContext κ) (pixel : Pixel) :
    Prog Op Res (RleEncoderContext κ × Bool) := do
  let rleCtx ← storePixel rleCtx rleCtx.sectionSize pixel
  return ({ rleCtx with sectionSize := rleCtx.sectionSize + 1 }, true)

/-- `section_size && pixel == section_data[section_size-1]`. -/
def rleEqualsLast (rleCtx : RleEncoderContext κ) (pixel : Pixel) : Prog Op Res Bool := do
  if rleCtx.sectionSize = 0 then return false
  else
    let last ← loadPixel rleCtx (rleCtx.sectionSize - 1)
    return pixel == last

/-- `_rle_compress_n_encode`. -/
def rleCompressNEncode (rleCtx : RleEncoderContext κ) (pixel : Pixel) :
    Prog Op Res (RleEncoderContext κ × Bool) := do
  if rleCtx.isCommonSection then
    Prog.bugOn (rleCtx.sectionSize = 0)
    let first ← loadPixel rleCtx 0
    if pixel ≠ first then rleFlushThenStart host transfer rleCtx pixel
    else if rleCtx.sectionSize = RPUSBDISP_RLE_BLOCKFLAG_SIZE_BIT + 1 then
      rleFlushThenStart host transfer rleCtx pixel
    else return ({ rleCtx with sectionSize := rleCtx.sectionSize + 1 }, true)
  else if ← rleEqualsLast rleCtx pixel then
    let rleCtx := { rleCtx with sectionSize := rleCtx.sectionSize - 1 }
    if rleCtx.sectionSize ≠ 0 then
      match ← rleFlushSection host transfer rleCtx with
      | (rleCtx, false) => return (rleCtx, false)
      | (rleCtx, true) => rleFormCommon rleCtx pixel
    else rleFormCommon rleCtx pixel
  else if rleCtx.sectionSize = RPUSBDISP_RLE_BLOCKFLAG_SIZE_BIT + 1 then
    match ← rleFlushSection host transfer rleCtx with
    | (rleCtx, false) => return (rleCtx, false)
    | (rleCtx, true) => rleInclude rleCtx pixel
  else rleInclude rleCtx pixel

/-- A row of pixels one by one, and the last section: what the driver does with
the pixels of an image. -/
def rleCompressAll (rleCtx : RleEncoderContext κ) (pixels : List Pixel) :
    Prog Op Res (RleEncoderContext κ × Bool) := do
  match ← Prog.feed (rleCompressNEncode host transfer) pixels rleCtx with
  | (rleCtx, false) => return (rleCtx, false)
  | (rleCtx, true) => rleFlushSection host transfer rleCtx

end Code

/-! ## The array and the pending section -/

/-- What the array and its two companions say is the pending section. -/
def Pending {κ : Type} (rleCtx : RleEncoderContext κ) : Option (Section Pixel) → Prop
  | none => rleCtx.isCommonSection = false ∧ rleCtx.sectionSize = 0
  | some (.literal ps) => rleCtx.isCommonSection = false ∧ rleCtx.sectionSize = ps.length ∧
      rleCtx.sectionData.take ps.length = ps
  | some (.common p c) => rleCtx.isCommonSection = true ∧ rleCtx.sectionSize = c ∧
      rleCtx.sectionData.take 1 = [p]

/-- A sink that has taken `bytes` takes any `data` that goes on towards `total`,
or fails. -/
def Accepts {Op : Type} {Res : Op → Type} {κ γ : Type} (P : Protocol Op Res γ) (F : Fault → Prop)
    (I : List UInt8 → κ → γ → Prop) (J : κ → γ → Prop) (total : List UInt8)
    (transfer : κ → List UInt8 → Prog Op Res (κ × Bool)) : Prop :=
  ∀ bytes data k g, bytes ++ data <+: total → I bytes k g →
    (transfer k data).wp P F (Went (I (bytes ++ data)) J) g

section Rules

variable {Op : Type} {Res : Op → Type} {κ γ : Type} {P : Protocol Op Res γ} {F : Fault → Prop}
  {I : List UInt8 → κ → γ → Prop} {J : κ → γ → Prop} {total : List UInt8} {host : HostOrder}
  {transfer : κ → List UInt8 → Prog Op Res (κ × Bool)} {bytes : List UInt8}
  {rleCtx : RleEncoderContext κ} {g : γ}

/-- The state of the encoder between two pixels: the sink has `bytes`, the array
has 128 pixels, and the section is pending. -/
structure RleState (I : List UInt8 → κ → γ → Prop) (bytes : List UInt8)
    (pending : Option (Section Pixel)) (rleCtx : RleEncoderContext κ) (g : γ) : Prop where
  sunk : I bytes rleCtx.encoderCtx g
  size : rleCtx.sectionData.length = 128
  pending : Pending rleCtx pending

/-- The array from which a pending section is flushed holds its symbols. -/
theorem Pending.sectionBytes {s : Section Pixel} (h : Pending rleCtx (some s)) :
    sectionHeader rleCtx.isCommonSection rleCtx.sectionSize ::
      (rleCtx.sectionData.take (if rleCtx.isCommonSection then 1 else rleCtx.sectionSize)).flatMap
        (store16 host) = RpUsbDisp.sectionBytes host s := by
  cases s with
  | literal ps =>
      obtain ⟨hcommon, hsize, hdata⟩ := h
      rw [hcommon, hsize]
      simp [hdata, RpUsbDisp.sectionBytes]
  | common p c =>
      obtain ⟨hcommon, hsize, hdata⟩ := h
      rw [hcommon, hsize]
      simp [hdata, RpUsbDisp.sectionBytes]

theorem Pending.size_eq {s : Section Pixel} (h : Pending rleCtx (some s)) :
    rleCtx.sectionSize = s.count := by
  cases s with
  | literal ps => exact h.2.1
  | common p c => exact h.2.1

/-- A pixel stored inside the array is the last of those up to it. -/
theorem storePixel_wp {i : Nat} {pixel : Pixel} {Q : RleEncoderContext κ → γ → Prop}
    (hsize : rleCtx.sectionData.length = 128) (hi : i < 128)
    (hQ : ∀ data : List Pixel, data.length = 128 →
      data.take (i + 1) = rleCtx.sectionData.take i ++ [pixel] →
      Q { rleCtx with sectionData := data } g) :
    (storePixel rleCtx i pixel : Prog Op Res _).wp P F Q g := by
  have hroom : i + [pixel].length ≤ rleCtx.sectionData.length := by
    rw [hsize]
    exact hi
  obtain ⟨data, hdata⟩ := writeAt_isSome hroom
  unfold storePixel
  rw [hdata]
  exact hQ data ((writeAt_length hdata).trans hsize) (writeAt_take hdata)

/-- **Flush.**  A pending section goes to the sink. -/
theorem rleFlushSection_wp {s : Section Pixel} (hsink : Accepts P F I J total transfer)
    (h : RleState I bytes (some s) rleCtx g) (hs : s.WellFormed 128)
    (htotal : bytes ++ sectionBytes host s <+: total) :
    (rleFlushSection host transfer rleCtx).wp P F
      (Went (RleState I (bytes ++ sectionBytes host s) none) fun c => J c.encoderCtx) g := by
  have hsize := h.pending.size_eq
  have hpos := hs.1
  have hle := hs.2
  have hmax : RPUSBDISP_RLE_BLOCKFLAG_SIZE_BIT = 127 := rfl
  generalize hheader : sectionHeader rleCtx.isCommonSection rleCtx.sectionSize = header
  generalize hdata : (rleCtx.sectionData.take
    (if rleCtx.isCommonSection then 1 else rleCtx.sectionSize)).flatMap (store16 host) = data
  have hbytes : header :: data = sectionBytes host s := by
    rw [← hheader, ← hdata]
    exact h.pending.sectionBytes
  rw [← hbytes] at htotal
  unfold rleFlushSection
  rw [wp_bugOn_bind]
  constructor
  · intro hbug
    have := of_decide_eq_true hbug
    omega
  · intro _
    rw [if_neg (by omega), wp_bind]
    have hfirst : bytes ++ [header] <+: total :=
      List.IsPrefix.trans ⟨data, by simp⟩ htotal
    have hrest : bytes ++ [header] ++ data <+: total := by
      rwa [List.append_assoc]
    rw [hheader]
    apply wp_mono (hsink bytes [header] rleCtx.encoderCtx g hfirst h.sunk) (fun _ he => he)
    intro r g₁ hr
    obtain ⟨k₁, ok⟩ := r
    cases ok with
    | false => exact hr
    | true =>
        show (transfer k₁ _ >>= _).wp P F _ g₁
        rw [wp_bind, hdata]
        apply wp_mono (hsink (bytes ++ [header]) data k₁ g₁ hrest hr) (fun _ he => he)
        intro r g₂ hr
        obtain ⟨k₂, ok⟩ := r
        cases ok with
        | false => exact hr
        | true =>
            refine ⟨?_, h.size, rfl, rfl⟩
            rw [← hbytes]
            rwa [List.append_assoc] at hr

/-- After a flush a section of one pixel is opened. -/
theorem rleFlushThenStart_wp {s : Section Pixel} {pixel : Pixel} (hcap : bytes ++ sectionBytes host s <+: total)
    (hsink : Accepts P F I J total transfer) (h : RleState I bytes (some s) rleCtx g)
    (hs : s.WellFormed 128) :
    (rleFlushThenStart host transfer rleCtx pixel).wp P F
      (Went (RleState I (bytes ++ sectionBytes host s) (some (.literal [pixel])))
        fun c => J c.encoderCtx) g := by
  unfold rleFlushThenStart
  rw [wp_bind]
  apply wp_mono (rleFlushSection_wp hsink h hs hcap) (fun _ he => he)
  intro r g₁ hr
  obtain ⟨c, ok⟩ := r
  cases ok with
  | false => exact hr
  | true =>
      obtain ⟨hsunk, hsize, hcommon, hzero⟩ := hr
      show (storePixel _ 0 pixel >>= _).wp P F _ g₁
      rw [wp_bind]
      apply storePixel_wp
      · exact hsize
      · decide
      · intro data hlen htake
        refine ⟨hsunk, hlen, hcommon, rfl, ?_⟩
        simpa using htake

/-- A common section of two replaces what is in the array. -/
theorem rleFormCommon_wp {pixel : Pixel} (hsunk : I bytes rleCtx.encoderCtx g)
    (hsize : rleCtx.sectionData.length = 128) :
    (rleFormCommon rleCtx pixel : Prog Op Res _).wp P F
      (Went (RleState I bytes (some (.common pixel 2))) fun c => J c.encoderCtx) g := by
  unfold rleFormCommon
  rw [wp_bind]
  apply storePixel_wp
  · exact hsize
  · decide
  · intro data hlen htake
    refine ⟨hsunk, hlen, rfl, rfl, ?_⟩
    simpa using htake

/-- A literal section that is not full, possibly empty, takes one more pixel. -/
theorem rleInclude_wp {ps : List Pixel} {pixel : Pixel} (hsunk : I bytes rleCtx.encoderCtx g)
    (hsize : rleCtx.sectionData.length = 128) (hpending : Pending rleCtx (some (.literal ps)))
    (hroom : ps.length < 128) :
    (rleInclude rleCtx pixel : Prog Op Res _).wp P F
      (Went (RleState I bytes (some (.literal (ps ++ [pixel])))) fun c => J c.encoderCtx) g := by
  obtain ⟨hcommon, hlen, hdata⟩ := hpending
  unfold rleInclude
  rw [wp_bind, hlen]
  apply storePixel_wp hsize hroom
  intro data hlen' htake
  refine ⟨hsunk, hlen', hcommon, ?_, ?_⟩
  · show rleCtx.sectionSize + 1 = (ps ++ [pixel]).length
    rw [hlen, List.length_append, List.length_singleton]
  · show data.take (ps ++ [pixel]).length = ps ++ [pixel]
    rw [List.length_append, List.length_singleton, htake, hdata]

/-- The comparison with the last pixel of a literal section. -/
theorem rleEqualsLast_wp {ps : List Pixel} {pixel : Pixel} {Q : Bool → γ → Prop}
    (hpending : Pending rleCtx (some (.literal ps))) (hQ : Q (decide (ps.getLast? = some pixel)) g) :
    (rleEqualsLast rleCtx pixel : Prog Op Res _).wp P F Q g := by
  obtain ⟨_, hlen, hdata⟩ := hpending
  unfold rleEqualsLast
  by_cases hnil : ps = []
  · subst hnil
    rw [if_pos (show rleCtx.sectionSize = 0 from hlen)]
    exact hQ
  · have hpos : 0 < ps.length := List.length_pos_iff.mpr hnil
    have hlast : rleCtx.sectionData[ps.length - 1]? = ps.getLast? := by
      rw [List.getLast?_eq_getElem?]
      conv => rhs; rw [← hdata]
      rw [List.getElem?_take_of_lt (by rw [hdata]; omega), hdata]
    obtain ⟨last, hget⟩ : ∃ last, ps.getLast? = some last :=
      ⟨ps.getLast hnil, List.getLast?_eq_some_getLast hnil⟩
    rw [if_neg (by omega), hlen]
    unfold loadPixel
    rw [hlast, hget]
    rw [hget] at hQ
    show Q (pixel == last) g
    by_cases heq : last = pixel
    · simpa [heq] using hQ
    · have hne : (pixel == last) = false := beq_eq_false_iff_ne.mpr fun h => heq h.symm
      rw [hne]
      simpa [heq] using hQ

/-- How a full common section goes on here. -/
def reopenLiteral (p : Pixel) : Section Pixel := .literal [p]

theorem reopenLiteral_reopens : Reopens reopenLiteral :=
  Or.inl fun _ => rfl

/-- A pixel that meets a literal section, possibly an empty one. -/
private theorem compress_literal_wp {closed : List (Section Pixel)} {ps : List Pixel} {pixel : Pixel}
    (hsink : Accepts P F I J total transfer)
    (hsunk : I (closed.flatMap (sectionBytes host)) rleCtx.encoderCtx g)
    (hsize : rleCtx.sectionData.length = 128) (hpending : Pending rleCtx (some (.literal ps)))
    (hle : ps.length ≤ 128)
    (htotal : (Encoded.push 128 reopenLiteral ⟨closed, some (.literal ps)⟩ pixel).closed.flatMap
      (sectionBytes host) <+: total) :
    (rleCompressNEncode host transfer rleCtx pixel).wp P F
      (Went (RleState I
        ((Encoded.push 128 reopenLiteral ⟨closed, some (.literal ps)⟩ pixel).closed.flatMap
          (sectionBytes host))
        (Encoded.push 128 reopenLiteral ⟨closed, some (.literal ps)⟩ pixel).pending)
        fun c => J c.encoderCtx) g := by
  have hcommon : rleCtx.isCommonSection = false := hpending.1
  have hcount : rleCtx.sectionSize = ps.length := hpending.2.1
  have hdata : rleCtx.sectionData.take ps.length = ps := hpending.2.2
  unfold rleCompressNEncode
  rw [hcommon, if_neg Bool.false_ne_true, wp_bind]
  apply rleEqualsLast_wp hpending
  by_cases hlast : ps.getLast? = some pixel
  · rw [decide_eq_true hlast, if_pos rfl]
    obtain ⟨qs, rfl⟩ : ∃ qs, ps = qs ++ [pixel] := List.getLast?_eq_some_iff.mp hlast
    simp only [Encoded.push, if_pos hlast, List.dropLast_concat] at htotal ⊢
    have hqs : rleCtx.sectionSize - 1 = qs.length := by
      rw [hcount, List.length_append, List.length_singleton, Nat.add_sub_cancel]
    rw [hqs]
    by_cases hnil : qs = []
    · subst hnil
      have hzero : ¬ ([] : List Pixel).length ≠ 0 := fun hne => hne rfl
      rw [if_pos rfl, if_neg hzero]
      apply rleFormCommon_wp
      · exact hsunk
      · exact hsize
    · have hpos : 0 < qs.length := List.length_pos_iff.mpr hnil
      rw [if_neg hnil] at htotal ⊢
      rw [if_pos (by omega), wp_bind]
      simp only [List.flatMap_append, List.flatMap_singleton] at htotal ⊢
      -- the array still holds the pixel that is taken back, behind the section
      have htaken : RleState I (closed.flatMap (sectionBytes host)) (some (.literal qs))
          { rleCtx with sectionSize := qs.length, isCommonSection := false } g := by
        refine ⟨hsunk, hsize, rfl, rfl, ?_⟩
        have hle' : qs.length ≤ (qs ++ [pixel]).length := by simp
        calc rleCtx.sectionData.take qs.length
            = (rleCtx.sectionData.take (qs ++ [pixel]).length).take qs.length := by
              rw [List.take_take, Nat.min_eq_left hle']
          _ = qs := by rw [hdata, List.take_left' rfl]
      have hfits : (Section.literal qs : Section Pixel).WellFormed 128 := by
        rw [List.length_append, List.length_singleton] at hle
        exact ⟨hpos, Nat.le_of_succ_le hle⟩
      apply wp_mono (rleFlushSection_wp hsink htaken hfits htotal) (fun _ he => he)
      intro r g₁ hr
      obtain ⟨c, ok⟩ := r
      cases ok with
      | false => exact hr
      | true => exact rleFormCommon_wp hr.sunk hr.size
  · rw [decide_eq_false hlast, if_neg Bool.false_ne_true, hcount]
    simp only [Encoded.push, if_neg hlast] at htotal ⊢
    by_cases hfull : ps.length = 128
    · have hcap : ps.length = RPUSBDISP_RLE_BLOCKFLAG_SIZE_BIT + 1 := hfull
      rw [if_pos hfull] at htotal ⊢
      rw [if_pos hcap, wp_bind]
      simp only [List.flatMap_append, List.flatMap_singleton] at htotal ⊢
      have hfits : (Section.literal ps : Section Pixel).WellFormed 128 :=
        ⟨by show 1 ≤ ps.length; omega, hle⟩
      apply wp_mono (rleFlushSection_wp hsink ⟨hsunk, hsize, hpending⟩ hfits htotal)
        (fun _ he => he)
      intro r g₁ hr
      obtain ⟨c, ok⟩ := r
      cases ok with
      | false => exact hr
      | true =>
          have hempty : Pending c (some (.literal [])) :=
            ⟨hr.pending.1, hr.pending.2, List.take_zero⟩
          exact rleInclude_wp hr.sunk hr.size hempty (by decide)
    · have hcap : ¬ ps.length = RPUSBDISP_RLE_BLOCKFLAG_SIZE_BIT + 1 := hfull
      rw [if_neg hfull] at htotal ⊢
      rw [if_neg hcap]
      exact rleInclude_wp hsunk hsize hpending (by omega)

/-- A pixel that meets a common section. -/
private theorem compress_common_wp {closed : List (Section Pixel)} {q : Pixel} {n : Nat} {pixel : Pixel}
    (hsink : Accepts P F I J total transfer)
    (h : RleState I (closed.flatMap (sectionBytes host)) (some (.common q n)) rleCtx g)
    (hfits : (Section.common q n).WellFormed 128)
    (htotal : (Encoded.push 128 reopenLiteral ⟨closed, some (.common q n)⟩ pixel).closed.flatMap
      (sectionBytes host) <+: total) :
    (rleCompressNEncode host transfer rleCtx pixel).wp P F
      (Went (RleState I
        ((Encoded.push 128 reopenLiteral ⟨closed, some (.common q n)⟩ pixel).closed.flatMap
          (sectionBytes host))
        (Encoded.push 128 reopenLiteral ⟨closed, some (.common q n)⟩ pixel).pending)
        fun c => J c.encoderCtx) g := by
  obtain ⟨hcommon, hcount, hdata⟩ := h.pending
  have hpos : 1 ≤ n := hfits.1
  have hfirst : rleCtx.sectionData[0]? = some q := by
    rw [← List.getElem?_take_of_lt (Nat.zero_lt_one), hdata]
    rfl
  unfold rleCompressNEncode
  rw [if_pos hcommon, wp_bugOn_bind]
  constructor
  · intro hbug
    have := of_decide_eq_true hbug
    omega
  · intro _
    unfold loadPixel
    rw [hfirst, Prog.ret_bind]
    by_cases hne : pixel ≠ q
    · simp only [Encoded.push, if_pos hne, List.flatMap_append, List.flatMap_singleton] at htotal ⊢
      exact rleFlushThenStart_wp htotal hsink h hfits
    · have heq : pixel = q := Decidable.not_not.mp hne
      subst heq
      rw [if_neg hne]
      by_cases hfull : n = 128
      · have hcap : rleCtx.sectionSize = RPUSBDISP_RLE_BLOCKFLAG_SIZE_BIT + 1 := hcount.trans hfull
        simp only [Encoded.push, if_neg hne, if_pos hfull, List.flatMap_append,
          List.flatMap_singleton] at htotal ⊢
        rw [if_pos hcap]
        exact rleFlushThenStart_wp htotal hsink h hfits
      · have hcap : ¬ rleCtx.sectionSize = RPUSBDISP_RLE_BLOCKFLAG_SIZE_BIT + 1 :=
          fun hc => hfull (hcount.symm.trans hc)
        simp only [Encoded.push, if_neg hne, if_neg hfull] at htotal ⊢
        rw [if_neg hcap]
        exact ⟨h.sunk, h.size, hcommon, congrArg (· + 1) hcount, hdata⟩

/-- **Step.**  One pixel does to the driver's encoder what `push` does to the
abstract one. -/
theorem rleCompressNEncode_wp {e : Encoded Pixel} {seen : List Pixel} {pixel : Pixel}
    (hsink : Accepts P F I J total transfer) (he : e.Sound 128 seen)
    (h : RleState I (e.closed.flatMap (sectionBytes host)) e.pending rleCtx g)
    (htotal : (e.push 128 reopenLiteral pixel).closed.flatMap (sectionBytes host) <+: total) :
    (rleCompressNEncode host transfer rleCtx pixel).wp P F
      (Went (RleState I ((e.push 128 reopenLiteral pixel).closed.flatMap (sectionBytes host))
        (e.push 128 reopenLiteral pixel).pending) fun c => J c.encoderCtx) g := by
  obtain ⟨closed, pending⟩ := e
  cases pending with
  | none =>
      have hempty : Pending rleCtx (some (.literal [])) :=
        ⟨h.pending.1, h.pending.2, List.take_zero⟩
      exact compress_literal_wp hsink h.sunk h.size hempty (by decide) htotal
  | some s =>
      have hfits := he.wellFormed s (by simp [Encoded.sections])
      cases s with
      | literal ps => exact compress_literal_wp hsink h.sunk h.size h.pending hfits.2 htotal
      | common q n => exact compress_common_wp hsink h hfits htotal

/-- The encoding of a row of pixels. -/
def rleBytes (host : HostOrder) (pixels : List Pixel) : List UInt8 :=
  (encode 128 reopenLiteral pixels).flatMap (sectionBytes host)

/-- A flush with nothing pending does nothing. -/
theorem rleFlushSection_none_wp (h : RleState I bytes none rleCtx g) :
    (rleFlushSection host transfer rleCtx).wp P F
      (Went (RleState I bytes none) fun c => J c.encoderCtx) g := by
  have hzero : rleCtx.sectionSize = 0 := h.pending.2
  unfold rleFlushSection
  rw [wp_bugOn_bind, hzero]
  constructor
  · intro hbug
    exact absurd hbug (by decide)
  · intro _
    rw [if_pos rfl]
    exact h

/-- **Run.**  The encoding of a row of pixels goes to the sink, all of it or the
part before a failure. -/
theorem rleCompressAll_wp {pixels : List Pixel}
    (hsink : Accepts P F I J (rleBytes host pixels) transfer) (h : RleState I [] none rleCtx g) :
    (rleCompressAll host transfer rleCtx pixels).wp P F
      (Went (RleState I (rleBytes host pixels) none) fun c => J c.encoderCtx) g := by
  -- the induction is on the pixels done; the abstract encoder carries the rest
  let done : List Pixel → Encoded Pixel := Encoded.start.pushAll 128 reopenLiteral
  have hsound : ∀ ps, (done ps).Sound 128 ps := encode_sound (by decide) reopenLiteral_reopens
  have hloop : (Prog.feed (rleCompressNEncode host transfer) pixels rleCtx).wp P F
      (Went (fun c => RleState I ((done pixels).closed.flatMap (sectionBytes host))
        (done pixels).pending c) fun c => J c.encoderCtx) g := by
    apply wp_feed (fun ps c => RleState I ((done ps).closed.flatMap (sectionBytes host))
      (done ps).pending c)
    · intro ps p rest c g₁ hall hdone
      have hpush : done (ps ++ [p]) = (done ps).push 128 reopenLiteral p := List.foldl_append
      have hprefix : (done (ps ++ [p])).closed <+: encode 128 reopenLiteral pixels := by
        apply closed_prefix_encode
        exact ⟨rest, by rw [hall, List.append_assoc]; rfl⟩
      have htotal : (done (ps ++ [p])).closed.flatMap (sectionBytes host) <+:
          rleBytes host pixels := by
        obtain ⟨later, hopen⟩ := hprefix
        exact ⟨later.flatMap (sectionBytes host), by rw [rleBytes, ← hopen, List.flatMap_append]⟩
      rw [hpush] at htotal ⊢
      exact rleCompressNEncode_wp hsink (hsound ps) hdone htotal
    · exact h
  unfold rleCompressAll
  rw [wp_bind]
  apply wp_mono hloop (fun _ he => he)
  intro r g₁ hr
  obtain ⟨c, ok⟩ := r
  cases ok with
  | false => exact hr
  | true =>
      have hbytes : rleBytes host pixels = (done pixels).closed.flatMap (sectionBytes host) ++
          (done pixels).pending.toList.flatMap (sectionBytes host) := List.flatMap_append
      have hwell := (hsound pixels).wellFormed
      cases hpending : (done pixels).pending with
      | none =>
          rw [hpending] at hr hbytes
          rw [hbytes, Option.toList_none, List.flatMap_nil, List.append_nil]
          exact rleFlushSection_none_wp hr
      | some s =>
          rw [hpending] at hr hbytes
          rw [Option.toList_some, List.flatMap_singleton] at hbytes
          rw [hbytes] at hsink ⊢
          apply rleFlushSection_wp hsink hr
          · exact hwell s (by simp [Encoded.sections, hpending])
          · exact List.prefix_rfl

end Rules

/-- What an encoding reads back as. -/
theorem rleDecode_rleBytes (host : HostOrder) (pixels : List Pixel) :
    rleDecode (rleBytes host pixels) = some (pixels.map (cpuToLe16 host)) := by
  have hcap : 3 ≤ 128 := by decide
  have hwell := encode_wellFormed hcap reopenLiteral_reopens pixels
  rw [rleBytes, rleDecode_sections host hwell, expand_encode hcap reopenLiteral_reopens]

/-- The worst case `_bitblt_encoder_init` charges. -/
theorem rleBytes_length_le (host : HostOrder) (pixels : List Pixel) :
    (rleBytes host pixels).length ≤ 2 * pixels.length + (pixels.length + 127) / 128 := by
  rw [rleBytes, flatMap_sectionBytes_length]
  exact encode_cost_le (by decide) reopenLiteral_reopens pixels

/-- A sink that keeps everything. -/
def collect {Op : Type} {Res : Op → Type} (bytes data : List UInt8) :
    Prog Op Res (List UInt8 × Bool) :=
  .ret (bytes ++ data, true)

/-- **The streaming encoder.**  Whatever is in the array at first, encoding any
row of pixels comes to an end without a fault: no assertion fails and the array
is never left.  What was emitted is a row of sections of 1 to 128 pixels each; it
decodes to exactly the pixels, once these are read in the byte order they were
stored in; and it is no longer than two bytes for a pixel and one for every 128
begun. -/
theorem rle_round_trip (Op : Type) (Res : Op → Type) (host : HostOrder)
    (sectionData : Vector Pixel 128) (pixels : List Pixel) :
    ∃ (rleCtx : RleEncoderContext (List UInt8)) (sections : List (Section Pixel)),
      (rleCompressAll host collect (rleCompressInit sectionData.toList []) pixels :
        Prog Op Res _) = .ret (rleCtx, true) ∧
      rleCtx.encoderCtx = sections.flatMap (sectionBytes host) ∧
      (∀ s ∈ sections, 1 ≤ s.count ∧ s.count ≤ 128) ∧
      (rleDecode rleCtx.encoderCtx).map (List.map (cpuToLe16 host)) = some pixels ∧
      rleCtx.encoderCtx.length ≤ 2 * pixels.length + (pixels.length + 127) / 128 := by
  let I : List UInt8 → List UInt8 → Unit → Prop := fun bytes k _ => k = bytes
  have hsink : Accepts (Protocol.silent : Protocol Op Res Unit) (fun _ => False) I
      (fun _ _ => False) (rleBytes host pixels) collect := by
    intro bytes data k g _ hk
    rw [show k = bytes from hk]
    exact rfl
  have hstart : RleState I [] none (rleCompressInit sectionData.toList []) () :=
    ⟨rfl, sectionData.length_toList, rfl, rfl⟩
  obtain ⟨⟨rleCtx, ok⟩, hret, hend⟩ := ret_of_silent (rleCompressAll_wp hsink hstart)
  cases ok with
  | false => exact hend.elim
  | true =>
      have hbytes : rleCtx.encoderCtx = rleBytes host pixels := hend.sunk
      refine ⟨rleCtx, encode 128 reopenLiteral pixels, hret, hbytes, ?_, ?_, ?_⟩
      · exact encode_wellFormed (by decide) reopenLiteral_reopens pixels
      · have hback : cpuToLe16 host ∘ cpuToLe16 host = id := funext (cpuToLe16_cpuToLe16 host)
        rw [hbytes, rleDecode_rleBytes, Option.map_some, List.map_map, hback, List.map_id]
      · rw [hbytes]
        exact rleBytes_length_le host pixels

end RpUsbDisp
