import Mathlib.Tactic.Ring
import RpUsbDisp.Framebuffer

/-!
# Fill rectangles

`_display_fillrect` paints on the framebuffer and has the device draw the rectangle
by itself, from twelve bytes instead of all its pixels.  The framebuffer gets the
colour from the pseudo palette, which `_display_setcolreg` fills.  The command
carries the colour index.

`fill_equals_blit_iff` says when the device ends up with the same picture as if the
rectangle had been sent pixel by pixel.
-/

namespace RpUsbDisp

/-! ## The pseudo palette -/

/-- `struct fb_bitfield`. -/
structure FbBitfield where
  offset : UInt32
  length : UInt32

inductive FbVisual where
  | truecolor
  | staticPseudocolor
  | pseudocolor
  deriving DecidableEq

/-- What `_display_setcolreg` reads of `struct fb_info`. -/
structure ColorInfo where
  grayscale : UInt32
  visual : FbVisual
  red : FbBitfield
  green : FbBitfield
  blue : FbBitfield
  transp : FbBitfield

/-- `_var_info` and `_vfb_fix`. -/
def varInfo : ColorInfo where
  grayscale := 0
  visual := .truecolor
  red := ⟨0, 5⟩
  green := ⟨5, 6⟩
  blue := ⟨11, 5⟩
  transp := ⟨0, 0⟩

/-- `CNVT_TOHW`. -/
def cnvtToHw (val width : UInt32) : UInt32 := ((val <<< width) + 0x7FFF - val) >>> 16

/-- The entries of `pseudo_palette`, of which there are 16. -/
abbrev PseudoPalette : Type := UInt32 → UInt32

/-- The arguments of `_display_setcolreg`. -/
structure ColorRegister where
  regno : UInt32
  red : UInt32
  green : UInt32
  blue : UInt32
  transp : UInt32

/-- The value `_display_setcolreg` puts together. -/
def ColorRegister.value (c : ColorRegister) (info : ColorInfo) : UInt32 :=
  (cnvtToHw c.red info.red.length <<< info.red.offset) |||
    (cnvtToHw c.green info.green.length <<< info.green.offset) |||
    (cnvtToHw c.blue info.blue.length <<< info.blue.offset) |||
    (cnvtToHw c.transp info.transp.length <<< info.transp.offset)

/-- The first lines of `_display_setcolreg`. -/
def ColorRegister.convert (c : ColorRegister) (info : ColorInfo) : ColorRegister :=
  if info.grayscale ≠ 0 then
    let gray := (19595 * c.red + 38470 * c.green + 7471 * c.blue) >>> 16
    { c with red := gray, green := gray, blue := gray }
  else c

/-- `_display_setcolreg`: what it returns, and the palette. -/
def displaySetcolreg (info : ColorInfo) (pal : PseudoPalette) (c : ColorRegister) :
    Int × PseudoPalette :=
  match info.visual with
  | .truecolor =>
      if c.regno < 16 then
        (0, fun i => if i = c.regno then (c.convert info).value info else pal i)
      else (1, pal)
  | .staticPseudocolor => (1, pal)
  | .pseudocolor => (1, pal)

/-- The palette after a list of calls; `framebuffer_alloc` has cleared it. -/
def writtenPalette (calls : List ColorRegister) : PseudoPalette :=
  calls.foldl (fun pal c => (displaySetcolreg varInfo pal c).2) fun _ => 0

/-- The pixel of a palette entry. -/
def PseudoPalette.pixel (pal : PseudoPalette) (color : UInt32) : Pixel := (pal color).toUInt16

/-- A component of at most sixteen bits ends up with `width` bits. -/
theorem cnvtToHw_lt {val width : UInt32} (hval : val.toNat < 2 ^ 16) (hwidth : width.toNat < 16) :
    (cnvtToHw val width).toNat < 2 ^ width.toNat := by
  obtain ⟨k, hk⟩ : ∃ k, 2 ^ width.toNat = k + 1 := ⟨2 ^ width.toNat - 1, by
    have hpos := Nat.two_pow_pos width.toNat
    omega⟩
  have hsmall : k + 1 ≤ 2 ^ 15 := by
    rw [← hk]
    exact Nat.pow_le_pow_right (by decide) (by omega)
  have hmul : val.toNat * k ≤ 65535 * k := Nat.mul_le_mul_right k (by omega)
  have hshift : (val <<< width).toNat = val.toNat * k + val.toNat := by
    rw [UInt32.toNat_shiftLeft, Nat.mod_eq_of_lt (show width.toNat < 32 by omega), Nat.shiftLeft_eq,
      hk, Nat.mul_succ]
    exact Nat.mod_eq_of_lt (by omega)
  have hsum : (val <<< width + 0x7FFF).toNat = val.toNat * k + val.toNat + 0x7FFF := by
    have hround : (0x7FFF : UInt32).toNat = 0x7FFF := rfl
    rw [UInt32.toNat_add, hshift, hround]
    exact Nat.mod_eq_of_lt (by omega)
  have hdiff : (val <<< width + 0x7FFF - val).toNat = val.toNat * k + 0x7FFF := by
    rw [UInt32.toNat_sub_of_le _ _ (by rw [UInt32.le_iff_toNat_le, hsum]; omega), hsum]
    omega
  have hhigh : (cnvtToHw val width).toNat = (val.toNat * k + 0x7FFF) / 2 ^ 16 := by
    rw [cnvtToHw, UInt32.toNat_shiftRight, hdiff, Nat.shiftRight_eq_div_pow]
    rfl
  rw [hhigh, hk]
  omega

/-- **No bits are lost**: components of sixteen bits, which is what the kernel passes,
make an entry of sixteen bits. -/
theorem ColorRegister.value_lt {c : ColorRegister} (hred : c.red.toNat < 2 ^ 16)
    (hgreen : c.green.toNat < 2 ^ 16) (hblue : c.blue.toNat < 2 ^ 16)
    (htransp : c.transp.toNat < 2 ^ 16) : (c.value varInfo).toNat < 2 ^ 16 := by
  have hplace : ∀ (field : FbBitfield) (val : UInt32), val.toNat < 2 ^ 16 →
      field.length.toNat + field.offset.toNat ≤ 16 → field.length.toNat < 16 →
      field.offset.toNat < 16 →
      (cnvtToHw val field.length <<< field.offset).toNat < 2 ^ 16 := by
    intro field val hval hfits hlength hoffset
    have hbits := cnvtToHw_lt hval hlength
    have hshifted : (cnvtToHw val field.length).toNat * 2 ^ field.offset.toNat < 2 ^ 16 :=
      calc (cnvtToHw val field.length).toNat * 2 ^ field.offset.toNat
          < 2 ^ field.length.toNat * 2 ^ field.offset.toNat :=
            Nat.mul_lt_mul_of_pos_right hbits (Nat.two_pow_pos _)
        _ = 2 ^ (field.length.toNat + field.offset.toNat) := (Nat.pow_add 2 _ _).symm
        _ ≤ 2 ^ 16 := Nat.pow_le_pow_right (by decide) hfits
    rw [UInt32.toNat_shiftLeft, Nat.mod_eq_of_lt (show field.offset.toNat < 32 by omega),
      Nat.shiftLeft_eq]
    exact Nat.lt_of_le_of_lt (Nat.mod_le _ _) hshifted
  rw [ColorRegister.value, UInt32.toNat_or, UInt32.toNat_or, UInt32.toNat_or]
  apply Nat.or_lt_two_pow
  · apply Nat.or_lt_two_pow
    · exact Nat.or_lt_two_pow (hplace varInfo.red _ hred (by decide) (by decide) (by decide))
        (hplace varInfo.green _ hgreen (by decide) (by decide) (by decide))
    · exact hplace varInfo.blue _ hblue (by decide) (by decide) (by decide)
  · exact hplace varInfo.transp _ htransp (by decide) (by decide) (by decide)

/-! ## The device -/

def RPUSBDISP_OPERATION_OR : UInt8 := 2
def RPUSBDISP_OPERATION_AND : UInt8 := 3

/-- What a drawing operation makes of a pixel. -/
def applyOperation (operation : UInt8) (old color : Pixel) : Pixel :=
  if operation = RPUSBDISP_OPERATION_COPY then color
  else if operation = RPUSBDISP_OPERATION_XOR then old ^^^ color
  else if operation = RPUSBDISP_OPERATION_OR then old ||| color
  else if operation = RPUSBDISP_OPERATION_AND then old &&& color
  else old

/-- The device draws the rectangle of a packet, sides included. -/
def deviceFill (packet : List UInt8) (display : Image) : Image :=
  match packet with
  | [_, left, left', top, top', right, right', bottom, bottom', color, color', operation] =>
      fun p =>
        if p ∈ (Rect.mk (ofBytes left left').toNat (ofBytes top top').toNat
            (ofBytes right right').toNat (ofBytes bottom bottom').toNat).places then
          applyOperation operation (display p) (ofBytes color color')
        else display p
  | _ => display

/-- The device takes the pixels of a rectangle from the framebuffer. -/
def deviceBitblt (rect : Rect) (framebuffer display : Image) : Image := fun p =>
  if p ∈ rect.places then framebuffer p else display p

/-- The packet of the command `_display_update` sends for a fill rectangle. -/
def fillCommand (dev : Dev) (rect : FbFillrect) : List UInt8 :=
  match (Send.accelerated (.fillrect rect)).command fun _ => 0 with
  | .drawRect x y right bottom color operation =>
      (fillrectPacket dev x y right bottom color operation).toBytes dev.host
  | _ => []

/-- A rectangle with something in it, on the screen, with a colour and an operation
that there are. -/
structure FbFillrect.Proper (rect : FbFillrect) : Prop where
  width : 0 < rect.width.toNat
  height : 0 < rect.height.toNat
  columns : FitsSide rect.dx rect.width RP_DISP_DEFAULT_WIDTH
  rows : FitsSide rect.dy rect.height RP_DISP_DEFAULT_HEIGHT
  color : rect.color < 16
  rop : rect.rop = ROP_COPY ∨ rect.rop = ROP_XOR

/-- A packet on the wire is the same for every host. -/
theorem fillrectPacket_toBytes (dev : Dev) (x y right bottom : Int) (color : Pixel)
    (operation : UInt8) :
    (fillrectPacket dev x y right bottom color operation).toBytes dev.host =
      [RPUSBDISP_DISPCMD_RECT ||| RPUSBDISP_CMD_FLAG_START] ++ le16 (.ofInt x) ++ le16 (.ofInt y) ++
        le16 (.ofInt right) ++ le16 (.ofInt bottom) ++ le16 color ++ [operation] := by
  simp only [FillrectPacket.toBytes, fillrectPacket, store16_cpuToLe16]

/-- A small coordinate survives its sixteen bits. -/
theorem toNat_ofInt_of_lt {v : Int} (hnonneg : 0 ≤ v) (hlt : v < 2 ^ 16) :
    ((UInt16.ofInt v).toNat : Int) = v := by
  obtain ⟨n, rfl⟩ := Int.eq_ofNat_of_zero_le hnonneg
  have hn : n < 2 ^ 16 := by exact_mod_cast hlt
  rw [UInt16.ofInt, Int.emod_eq_of_lt hnonneg hlt, Int.toNat_natCast, UInt16.toNat_ofNat',
    Nat.mod_eq_of_lt hn]

/-- The sides of a proper rectangle, as the `int`s of the call. -/
theorem FbFillrect.Proper.sides {rect : FbFillrect} (h : rect.Proper) :
    intOf rect.dx = rect.dx.toNat ∧ intOf rect.dy = rect.dy.toNat ∧
      intOf (rect.dx + rect.width - 1) = rect.dx.toNat + rect.width.toNat - 1 ∧
      intOf (rect.dy + rect.height - 1) = rect.dy.toNat + rect.height.toNat - 1 := by
  obtain ⟨hwidth, hheight, hcolumns, hrows, _, _⟩ := h
  simp only [FitsSide, RP_DISP_DEFAULT_WIDTH, RP_DISP_DEFAULT_HEIGHT] at hcolumns hrows
  have hlast : ∀ u v : UInt32, 0 < v.toNat → u.toNat + v.toNat ≤ 320 →
      (u + v - 1).toNat = u.toNat + v.toNat - 1 := by
    intro u v hv huv
    have hsum : (u + v).toNat = u.toNat + v.toNat := by
      rw [UInt32.toNat_add]
      exact Nat.mod_eq_of_lt (by omega)
    have hone : (1 : UInt32) ≤ u + v := by
      rw [UInt32.le_iff_toNat_le, hsum]
      exact Nat.le_trans hv (Nat.le_add_left _ _)
    rw [UInt32.toNat_sub_of_le _ _ hone, hsum]
    rfl
  have hright := hlast rect.dx rect.width hwidth (by omega)
  have hbottom := hlast rect.dy rect.height hheight (by omega)
  refine ⟨intOf_of_lt (by omega), intOf_of_lt (by omega), ?_, ?_⟩
  · rw [intOf_of_lt (by omega), hright]
    omega
  · rw [intOf_of_lt (by omega), hbottom]
    omega

/-- The device reads the rectangle that was painted. -/
theorem deviceFill_fillCommand (dev : Dev) {rect : FbFillrect} (h : rect.Proper) (display : Image)
    (p : Place) :
    deviceFill (fillCommand dev rect) display p =
      if p ∈ (Accelerated.fillrect rect).target.places then
        if rect.rop = ROP_XOR then display p ^^^ rect.color.toUInt16 else rect.color.toUInt16
      else display p := by
  obtain ⟨hdx, hdy, hright, hbottom⟩ := h.sides
  obtain ⟨hwidth, hheight, hcolumns, hrows, _, _⟩ := h
  simp only [FitsSide, RP_DISP_DEFAULT_WIDTH, RP_DISP_DEFAULT_HEIGHT] at hcolumns hrows
  have hrect : Rect.mk (UInt16.ofInt (intOf rect.dx)).toNat (UInt16.ofInt (intOf rect.dy)).toNat
      (UInt16.ofInt (intOf (rect.dx + rect.width - 1))).toNat
      (UInt16.ofInt (intOf (rect.dy + rect.height - 1))).toNat =
        (Accelerated.fillrect rect).target := by
    rw [hdx, hdy, hright, hbottom, toNat_ofInt_of_lt (by omega) (by omega),
      toNat_ofInt_of_lt (by omega) (by omega), toNat_ofInt_of_lt (by omega) (by omega),
      toNat_ofInt_of_lt (by omega) (by omega), Accelerated.target, Rect.ofSize]
    congr 1 <;> omega
  have hoperation : ∀ old color : Pixel,
      applyOperation (if rect.rop = ROP_XOR then RPUSBDISP_OPERATION_XOR
        else RPUSBDISP_OPERATION_COPY) old color =
        if rect.rop = ROP_XOR then old ^^^ color else color := by
    intro old color
    split
    · exact if_neg (by decide)
    · exact if_pos rfl
  have hcommand : fillCommand dev rect = _ := fillrectPacket_toBytes dev _ _ _ _ _ _
  rw [hcommand]
  simp only [deviceFill, le16, List.cons_append, List.nil_append, ofBytes_bytes, hrect, hoperation]

/-! ## The two paths -/

/-- The fill-rectangle command, drawn on the picture the device and the framebuffer
share, leaves what the pixels of the painted rectangle leave. -/
def FillEqualsBlit (dev : Dev) (pal : PseudoPalette) (rect : FbFillrect) (image : Image) : Prop :=
  deviceFill (fillCommand dev rect) image =
    deviceBitblt (Accelerated.fillrect rect).target
      ((Accelerated.fillrect rect).paint pal.pixel image) image

/-- A proper rectangle has its first pixel on the screen. -/
theorem FbFillrect.Proper.exists_place {rect : FbFillrect} (h : rect.Proper) :
    ∃ p : Place, p ∈ (Accelerated.fillrect rect).target.places := by
  obtain ⟨hwidth, hheight, hcolumns, hrows, _, _⟩ := h
  simp only [FitsSide] at hcolumns hrows
  refine ⟨(⟨rect.dx.toNat, by omega⟩, ⟨rect.dy.toNat, by omega⟩), ?_⟩
  rw [Rect.mem_places, Accelerated.target, Rect.ofSize]
  refine ⟨?_, ?_, ?_, ?_⟩ <;> dsimp only <;> omega

/-- Exclusive or with a pixel can be undone. -/
theorem xor_right_cancel_iff (old a b : Pixel) : old ^^^ a = old ^^^ b ↔ a = b := by
  constructor
  · intro h
    have hundo : ∀ c : Pixel, old ^^^ (old ^^^ c) = c := by
      intro c
      rw [← UInt16.xor_assoc, UInt16.xor_self, UInt16.zero_xor]
    rw [← hundo a, h, hundo b]
  · intro heq
    obtain rfl := heq
    rfl

/-- **When the fast path is the plain path.**  Whatever the picture, the rectangle and
the operation, and whichever calls have written the palette, the two agree exactly if
the palette has the colour index itself for its colour. -/
theorem fill_equals_blit_iff (dev : Dev) (calls : List ColorRegister) {rect : FbFillrect}
    (h : rect.Proper) (image : Image) :
    FillEqualsBlit dev (writtenPalette calls) rect image ↔
      (writtenPalette calls).pixel rect.color = rect.color.toUInt16 := by
  generalize writtenPalette calls = pal
  have hpixel : ∀ p ∈ (Accelerated.fillrect rect).target.places,
      (deviceFill (fillCommand dev rect) image p =
        deviceBitblt (Accelerated.fillrect rect).target
          ((Accelerated.fillrect rect).paint pal.pixel image) image p ↔
        pal.pixel rect.color = rect.color.toUInt16) := by
    intro p hp
    rw [deviceFill_fillCommand dev h, deviceBitblt, Accelerated.paint, if_pos hp, if_pos hp, if_pos hp]
    by_cases hxor : rect.rop = ROP_XOR
    · rw [if_pos hxor]
      simp only [if_pos hxor]
      rw [xor_right_cancel_iff, eq_comm]
    · rw [if_neg hxor]
      simp only [if_neg hxor]
      exact eq_comm
  constructor
  · intro hequal
    obtain ⟨p, hp⟩ := h.exists_place
    exact (hpixel p hp).mp (congrFun hequal p)
  · intro hcolor
    funext p
    by_cases hp : p ∈ (Accelerated.fillrect rect).target.places
    · exact (hpixel p hp).mpr hcolor
    · rw [deviceFill_fillCommand dev h, deviceBitblt, if_neg hp, if_neg hp]

/-- A display with packets of 64 bytes on a little endian host. -/
def smallDisplay : Dev :=
  { dispOutEpMaxSize := 64, packetSizeFactor := 1, deviceFwver := 0x0104, host := .little }

theorem dot_proper : dot.Proper :=
  ⟨by decide, by decide, by decide, by decide, by decide, Or.inl rfl⟩

/-- Seven parts of red in thirty-one happen to be pixel 7. -/
theorem fill_equals_blit_dot :
    FillEqualsBlit smallDisplay (writtenPalette [⟨7, 14798, 0, 0, 0⟩]) dot fun _ => 0xffff :=
  (fill_equals_blit_iff smallDisplay _ dot_proper _).mpr (by decide)

/-- With the grey that consoles have for colour 7 the device draws something else. -/
theorem fill_differs_dot :
    ¬ FillEqualsBlit smallDisplay (writtenPalette [⟨7, 0xaaaa, 0xaaaa, 0xaaaa, 0⟩]) dot
      fun _ => 0xffff := by
  intro hequal
  have hpixel := congrFun hequal (⟨5, by decide⟩, ⟨5, by decide⟩)
  revert hpixel
  decide

end RpUsbDisp
