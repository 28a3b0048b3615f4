import RpUsbDisp.Framebuffer
import RpUsbDisp.FramebufferMemory
import RpUsbDisp.SendImage

/-!
# Deferred I/O

A process that has mapped the framebuffer writes to it without a call.  The kernel
collects the pages that became dirty, and `_display_defio_handler` turns them into
rows of the screen.  A row has 640 bytes and a page at least 4096, so a page ends
somewhere inside a row.

The handler works out where in the framebuffer a page lies from the address of its
page frame.  `defio_covers_iff` says for which addresses the rows come out right.
-/

namespace RpUsbDisp

open Programs

variable {a : Arch}

/-! ## The handler -/

/-- The fields of `struct fb_fix_screeninfo` that the handler reads. -/
structure FbFix (a : Arch) where
  mmioStart : a.Long
  smemLen : UInt32
  lineLength : UInt32

/-- What `_on_create_new_fb` makes of `_vfb_fix`; `mmio_start` is not in it. -/
def vfbFix (a : Arch) : FbFix a := ⟨0#_, fbmemSize, lineLength.toUInt32⟩

/-- An `unsigned long` where the code wants an `int`. -/
def intOfLong (v : a.Long) : Int := (v.setWidth 32).toInt

namespace FbFix

variable (fix : FbFix a)

def line (fix : FbFix a) : a.Long := BitVec.ofNat _ fix.lineLength.toNat

/-- `page_to_pfn(cur) << PAGE_SHIFT`. -/
def pageStart (pfn : a.Long) : a.Long := pfn <<< a.PAGE_SHIFT

/-- The test of the handler: the page is one it skips. -/
def Skips (start : a.Long) : Prop :=
  start < fix.mmioStart ∨ start ≥ fix.mmioStart + BitVec.ofNat _ fix.smemLen.toNat

instance (start : a.Long) : Decidable (fix.Skips start) := inferInstanceAs (Decidable (_ ∨ _))

/-- The row of the first byte of a page. -/
def firstRow (start : a.Long) : Int := intOfLong ((start - fix.mmioStart) / fix.line)

/-- The row behind the last byte of a page. -/
def endRow (start : a.Long) : Int :=
  intOfLong ((start - fix.mmioStart + a.PAGE_SIZE + fix.line - 1#_) / fix.line)

/-- The body of `list_for_each_entry`, on `top` and `bottom`. -/
def addPage (rows : Int × Int) (pfn : a.Long) : Int × Int :=
  let start := pageStart pfn
  if fix.Skips start then rows
  else
    (if rows.1 > fix.firstRow start then fix.firstRow start else rows.1,
      if rows.2 < fix.endRow start then fix.endRow start else rows.2)

/-- `top` and `bottom` after the list. -/
def rows (pfns : List a.Long) : Int × Int := pfns.foldl fix.addPage (RP_DISP_DEFAULT_HEIGHT, 0)

/-- `bottom` after the adjustment. -/
def bottom (pfns : List a.Long) : Int :=
  if (fix.rows pfns).2 ≥ RP_DISP_DEFAULT_HEIGHT then RP_DISP_DEFAULT_HEIGHT - 1
  else (fix.rows pfns).2

/-- `_display_defio_handler`. -/
def displayDefioHandler (pfns : List a.Long) : FbProg Unit := do
  match ← bindedUsbdev with
  | none => return ()
  | some _ =>
      let top := (fix.rows pfns).1
      displayUpdate 0 top RP_DISP_DEFAULT_WIDTH (fix.bottom pfns - top + 1) .none

/-- The rectangle of these arguments. -/
def defioRect (pfns : List a.Long) : Rect :=
  let top := (fix.rows pfns).1
  .ofSize 0 top RP_DISP_DEFAULT_WIDTH (fix.bottom pfns - top + 1)

end FbFix

/-! ## Rows of the list -/

section Rows

variable (fix : FbFix a)

/-- Whether `top` comes at least as far up as a row. -/
theorem rows_top_le_iff (pfns : List a.Long) (row : Int) :
    (fix.rows pfns).1 ≤ row ↔ RP_DISP_DEFAULT_HEIGHT ≤ row ∨
      ∃ pfn ∈ pfns, ¬ fix.Skips (FbFix.pageStart pfn) ∧
        fix.firstRow (FbFix.pageStart pfn) ≤ row := by
  have hfold : ∀ rows : Int × Int, (pfns.foldl fix.addPage rows).1 ≤ row ↔ rows.1 ≤ row ∨
      ∃ pfn ∈ pfns, ¬ fix.Skips (FbFix.pageStart pfn) ∧
        fix.firstRow (FbFix.pageStart pfn) ≤ row := by
    induction pfns with
    | nil => simp
    | cons pfn pfns ih =>
        intro rows
        have hstep : (fix.addPage rows pfn).1 ≤ row ↔ rows.1 ≤ row ∨
            (¬ fix.Skips (FbFix.pageStart pfn) ∧ fix.firstRow (FbFix.pageStart pfn) ≤ row) := by
          rw [FbFix.addPage]
          split
          · simp [*]
          · rename_i hkept
            grind
        rw [List.foldl_cons, ih, hstep, List.exists_mem_cons_iff, or_assoc]
  exact hfold _

/-- Whether `bottom` comes at least as far down as a row. -/
theorem le_rows_bottom_iff (pfns : List a.Long) (row : Int) :
    row ≤ (fix.rows pfns).2 ↔ row ≤ 0 ∨
      ∃ pfn ∈ pfns, ¬ fix.Skips (FbFix.pageStart pfn) ∧
        row ≤ fix.endRow (FbFix.pageStart pfn) := by
  have hfold : ∀ rows : Int × Int, row ≤ (pfns.foldl fix.addPage rows).2 ↔ row ≤ rows.2 ∨
      ∃ pfn ∈ pfns, ¬ fix.Skips (FbFix.pageStart pfn) ∧
        row ≤ fix.endRow (FbFix.pageStart pfn) := by
    induction pfns with
    | nil => simp
    | cons pfn pfns ih =>
        intro rows
        have hstep : row ≤ (fix.addPage rows pfn).2 ↔ row ≤ rows.2 ∨
            (¬ fix.Skips (FbFix.pageStart pfn) ∧ row ≤ fix.endRow (FbFix.pageStart pfn)) := by
          rw [FbFix.addPage]
          split
          · simp [*]
          · rename_i hkept
            grind
        rw [List.foldl_cons, ih, hstep, List.exists_mem_cons_iff, or_assoc]
  exact hfold _

end Rows

/-! ## Pages of the driver's framebuffer -/

theorem fbmemSize_toNat : fbmemSize.toNat = 153600 := rfl

theorem lineLength_eq : lineLength = 640 := rfl

/-- A dirty page of the framebuffer: its place in the framebuffer, and its page
frame. -/
structure DirtyPage (a : Arch) where
  index : Nat
  pfn : a.Long
  backs : index * a.pageBytes < fbmemSize.toNat

namespace DirtyPage

/-- The address of the page frame. -/
def address (page : DirtyPage a) : Nat := (FbFix.pageStart page.pfn).toNat

/-- A row has a byte in the page. -/
def Touches (page : DirtyPage a) (row : Nat) : Prop :=
  ∃ byte, page.index * a.pageBytes ≤ byte ∧ byte < (page.index + 1) * a.pageBytes ∧
    byte / lineLength = row

/-- The row of the page's first byte. -/
def topRow (page : DirtyPage a) : Nat := page.index * a.pageBytes / lineLength

/-- The row of the last byte of the framebuffer in the page. -/
def bottomRow (page : DirtyPage a) : Nat :=
  (min ((page.index + 1) * a.pageBytes) fbmemSize.toNat - 1) / lineLength

/-- The address is one the handler takes for a place in the framebuffer. -/
def Counted (page : DirtyPage a) : Prop := page.address < fbmemSize.toNat

instance (page : DirtyPage a) : Decidable page.Counted := inferInstanceAs (Decidable (_ < _))

end DirtyPage

theorem intOfLong_of_lt {v : a.Long} (h : v.toNat < 2 ^ 31) : intOfLong v = v.toNat := by
  have hwidth : (v.setWidth 32).toNat = v.toNat := by
    rw [BitVec.toNat_setWidth]
    exact Nat.mod_eq_of_lt (by omega)
  rw [intOfLong, BitVec.toInt_eq_toNat_of_lt (by omega), hwidth]

theorem line_toNat : (vfbFix a).line.toNat = 640 := by
  have hlong := a.long_le
  have hline : (vfbFix a).lineLength.toNat = 640 := rfl
  rw [FbFix.line, BitVec.toNat_ofNat, hline]
  exact Nat.mod_eq_of_lt (by omega)

/-- The handler skips what is not among the lowest addresses of the machine. -/
theorem skips_iff (page : DirtyPage a) :
    (vfbFix a).Skips (FbFix.pageStart page.pfn) ↔ ¬ page.Counted := by
  have hlong := a.long_le
  have hsize : (153600#a.BITS_PER_LONG).toNat = 153600 := by
    rw [BitVec.toNat_ofNat]
    exact Nat.mod_eq_of_lt (by omega)
  simp only [FbFix.Skips, vfbFix, BitVec.zero_add, BitVec.not_lt_zero, false_or, ge_iff_le,
    BitVec.le_def, hsize, DirtyPage.Counted, DirtyPage.address, fbmemSize_toNat, Nat.not_lt]

/-- For a page that counts, `top` gets the row where its address would be. -/
theorem firstRow_eq {page : DirtyPage a} (h : page.Counted) :
    (vfbFix a).firstRow (FbFix.pageStart page.pfn) = (page.address / lineLength : Nat) := by
  have haddress : page.address < 153600 := h
  have hrow : ((FbFix.pageStart page.pfn - (vfbFix a).mmioStart) / (vfbFix a).line).toNat =
      page.address / lineLength := by
    rw [BitVec.toNat_udiv, line_toNat, vfbFix, BitVec.sub_zero]
    rfl
  rw [FbFix.firstRow, intOfLong_of_lt (by rw [hrow, lineLength_eq]; omega), hrow]

/-- And `bottom` the row behind the end of the page there. -/
theorem endRow_eq {page : DirtyPage a} (h : page.Counted) :
    (vfbFix a).endRow (FbFix.pageStart page.pfn) =
      ((page.address + a.pageBytes + lineLength - 1) / lineLength : Nat) := by
  have haddress : page.address < 153600 := h
  have hpage := a.pageBytes_lt
  have hlong := a.long_le
  have hone : (1#a.BITS_PER_LONG).toNat = 1 := by
    rw [BitVec.toNat_ofNat]
    exact Nat.mod_eq_of_lt (by omega)
  have hpages : (FbFix.pageStart page.pfn + a.PAGE_SIZE).toNat = page.address + a.pageBytes := by
    rw [BitVec.toNat_add, a.PAGE_SIZE_toNat, ← DirtyPage.address]
    exact Nat.mod_eq_of_lt (by omega)
  have hlines : (FbFix.pageStart page.pfn + a.PAGE_SIZE + (vfbFix a).line).toNat =
      page.address + a.pageBytes + 640 := by
    rw [BitVec.toNat_add, hpages, line_toNat]
    exact Nat.mod_eq_of_lt (by omega)
  have hrow : ((FbFix.pageStart page.pfn - (vfbFix a).mmioStart + a.PAGE_SIZE + (vfbFix a).line -
      1#_) / (vfbFix a).line).toNat = (page.address + a.pageBytes + lineLength - 1) / lineLength := by
    have hmmio : (vfbFix a).mmioStart = 0#_ := rfl
    rw [BitVec.toNat_udiv, line_toNat, hmmio, BitVec.sub_zero,
      BitVec.toNat_sub_of_le (by rw [BitVec.le_def, hone, hlines]; omega), hlines, hone, lineLength_eq]
  rw [FbFix.endRow, intOfLong_of_lt (by rw [hrow, lineLength_eq]; omega), hrow]

/-! ## Covering -/

section Covering

variable (pages : List (DirtyPage a))

/-- The rectangle the handler passes to `_display_update`. -/
def handlerRect : Rect := (vfbFix a).defioRect (pages.map DirtyPage.pfn)

/-- What the rectangle is to be: on the screen, and over every row that has a byte in
one of the pages, from one side to the other. -/
def DefioCovers : Prop :=
  InScreen (handlerRect pages).left (handlerRect pages).top (handlerRect pages).right
      (handlerRect pages).bottom ∧
    ∀ page ∈ pages, ∀ place : Place, page.Touches place.2 → place ∈ (handlerRect pages).places

/-- The addresses of the page frames say what the handler takes them to say: for each
page some page that counts has its address no later than the page's first row, and
some page that counts ends no earlier than the page's last row. -/
def AddressesReach : Prop :=
  ∀ page ∈ pages,
    (∃ low ∈ pages, low.Counted ∧ low.address / lineLength ≤ page.topRow) ∧
      ∃ high ∈ pages, high.Counted ∧
        page.bottomRow ≤ (high.address + a.pageBytes + lineLength - 1) / lineLength

variable {pages}

/-- How far up the rectangle reaches. -/
theorem handlerRect_top_le_iff (row : Nat) (hrow : row < RP_DISP_DEFAULT_HEIGHT) :
    (handlerRect pages).top ≤ row ↔
      ∃ low ∈ pages, low.Counted ∧ low.address / lineLength ≤ row := by
  have htop : (handlerRect pages).top = ((vfbFix a).rows (pages.map DirtyPage.pfn)).1 := rfl
  rw [htop, rows_top_le_iff]
  constructor
  · intro h
    rcases h with hscreen | ⟨pfn, hpfn, hkept, hle⟩
    · omega
    · obtain ⟨page, hpage, rfl⟩ := List.mem_map.mp hpfn
      rw [skips_iff, not_not] at hkept
      rw [firstRow_eq hkept] at hle
      exact ⟨page, hpage, hkept, by exact_mod_cast hle⟩
  · intro h
    obtain ⟨page, hpage, hcounted, hle⟩ := h
    refine Or.inr ⟨page.pfn, List.mem_map_of_mem hpage, by rw [skips_iff, not_not]; exact hcounted, ?_⟩
    rw [firstRow_eq hcounted]
    exact_mod_cast hle

/-- How far down the rectangle reaches. -/
theorem le_handlerRect_bottom_iff (row : Nat) (hpos : 0 < row)
    (hrow : row < RP_DISP_DEFAULT_HEIGHT) :
    row ≤ (handlerRect pages).bottom ↔
      ∃ high ∈ pages, high.Counted ∧
        row ≤ (high.address + a.pageBytes + lineLength - 1) / lineLength := by
  have hbottom : row ≤ (handlerRect pages).bottom ↔
      row ≤ ((vfbFix a).rows (pages.map DirtyPage.pfn)).2 := by
    simp only [handlerRect, FbFix.defioRect, Rect.ofSize, FbFix.bottom]
    split <;> omega
  rw [hbottom, le_rows_bottom_iff]
  constructor
  · intro h
    rcases h with hzero | ⟨pfn, hpfn, hkept, hle⟩
    · omega
    · obtain ⟨page, hpage, rfl⟩ := List.mem_map.mp hpfn
      rw [skips_iff, not_not] at hkept
      rw [endRow_eq hkept] at hle
      exact ⟨page, hpage, hkept, by exact_mod_cast hle⟩
  · intro h
    obtain ⟨page, hpage, hcounted, hle⟩ := h
    refine Or.inr ⟨page.pfn, List.mem_map_of_mem hpage, by rw [skips_iff, not_not]; exact hcounted, ?_⟩
    rw [endRow_eq hcounted]
    exact_mod_cast hle

/-- The rectangle never sticks out, even where no page counts. -/
theorem handlerRect_sides (pages : List (DirtyPage a)) :
    (handlerRect pages).left = 0 ∧ (handlerRect pages).right = RP_DISP_DEFAULT_WIDTH - 1 ∧
      0 ≤ (handlerRect pages).top ∧ (handlerRect pages).bottom < RP_DISP_DEFAULT_HEIGHT := by
  refine ⟨rfl, rfl, ?_, ?_⟩
  · by_contra hneg
    have htop : (handlerRect pages).top = ((vfbFix a).rows (pages.map DirtyPage.pfn)).1 := rfl
    have hle : ((vfbFix a).rows (pages.map DirtyPage.pfn)).1 ≤ -1 := by omega
    rcases (rows_top_le_iff _ _ _).mp hle with hscreen | ⟨pfn, hpfn, hkept, hrow⟩
    · omega
    · obtain ⟨page, _, rfl⟩ := List.mem_map.mp hpfn
      rw [skips_iff, not_not] at hkept
      rw [firstRow_eq hkept] at hrow
      exact absurd ((Int.natCast_nonneg _).trans hrow) (by decide)
  · simp only [handlerRect, FbFix.defioRect, Rect.ofSize, FbFix.bottom]
    split <;> omega

/-- Where a page ends. -/
theorem DirtyPage.end_eq (page : DirtyPage a) :
    (page.index + 1) * a.pageBytes = page.index * a.pageBytes + a.pageBytes :=
  Nat.succ_mul _ _

theorem pageBytes_le (a : Arch) : 4096 ≤ a.pageBytes := by
  have hpow : 2 ^ 12 ≤ 2 ^ a.PAGE_SHIFT := Nat.pow_le_pow_right Nat.two_pos a.page
  exact hpow

/-- The rows of a page are on the screen, and there is more than one. -/
theorem DirtyPage.rows_screen (page : DirtyPage a) :
    page.topRow ≤ page.bottomRow ∧ 0 < page.bottomRow ∧ page.bottomRow < RP_DISP_DEFAULT_HEIGHT := by
  have hbacks := page.backs
  have hpage := pageBytes_le a
  have hend := page.end_eq
  simp only [fbmemSize_toNat] at hbacks
  simp only [DirtyPage.topRow, DirtyPage.bottomRow, lineLength_eq, fbmemSize_toNat, hend,
    RP_DISP_DEFAULT_HEIGHT]
  refine ⟨Nat.div_le_div_right ?_, ?_, ?_⟩ <;> omega

/-- The rows with a byte in a page are those from its first to its last. -/
theorem DirtyPage.touches_iff (page : DirtyPage a) {row : Nat} (hrow : row < RP_DISP_DEFAULT_HEIGHT) :
    page.Touches row ↔ page.topRow ≤ row ∧ row ≤ page.bottomRow := by
  have hbacks := page.backs
  have hpage := pageBytes_le a
  have hend := page.end_eq
  simp only [fbmemSize_toNat, RP_DISP_DEFAULT_HEIGHT] at hbacks hrow
  simp only [DirtyPage.Touches, DirtyPage.topRow, DirtyPage.bottomRow, lineLength_eq,
    fbmemSize_toNat, hend]
  constructor
  · intro h
    obtain ⟨byte, hfirst, hlast, rfl⟩ := h
    exact ⟨Nat.div_le_div_right hfirst, Nat.div_le_div_right (by omega)⟩
  · intro h
    obtain ⟨htop, hbottom⟩ := h
    -- The byte is the row's first one, or the page's where the page starts inside the row.
    refine ⟨max (page.index * a.pageBytes) (row * 640), ?_, ?_, ?_⟩ <;> omega

/-- **When deferred I/O loses no write.**  The rectangle is on the screen and covers the
rows of the dirty pages exactly if the addresses of their page frames reach as far up
and down as the pages do. -/
theorem defio_covers_iff (hpages : pages ≠ []) : DefioCovers pages ↔ AddressesReach pages := by
  constructor
  · intro h page hpage
    obtain ⟨_, hcovers⟩ := h
    obtain ⟨horder, hpos, hscreen⟩ := page.rows_screen
    have hplace : ∀ row, (hrow : row < RP_DISP_DEFAULT_HEIGHT) → page.Touches row →
        (handlerRect pages).top ≤ row ∧ row ≤ (handlerRect pages).bottom := by
      intro row hrow htouches
      obtain ⟨_, _, htop, hbottom⟩ := hcovers page hpage (⟨0, by decide⟩, ⟨row, hrow⟩) htouches
      exact ⟨htop, hbottom⟩
    have htop := (hplace _ (by omega) ((page.touches_iff (by omega)).mpr ⟨Nat.le_refl _, horder⟩)).1
    have hbottom := (hplace _ hscreen ((page.touches_iff hscreen).mpr ⟨horder, Nat.le_refl _⟩)).2
    exact ⟨(handlerRect_top_le_iff _ (by omega)).mp htop,
      (le_handlerRect_bottom_iff _ hpos hscreen).mp hbottom⟩
  · intro hreach
    have hrows : ∀ page ∈ pages, (handlerRect pages).top ≤ page.topRow ∧
        page.bottomRow ≤ (handlerRect pages).bottom := by
      intro page hpage
      obtain ⟨horder, hpos, hscreen⟩ := page.rows_screen
      obtain ⟨hlow, hhigh⟩ := hreach page hpage
      exact ⟨(handlerRect_top_le_iff _ (by omega)).mpr hlow,
        (le_handlerRect_bottom_iff _ hpos hscreen).mpr hhigh⟩
    obtain ⟨hleft, hright, hnonneg, hscreen⟩ := handlerRect_sides pages
    constructor
    · obtain ⟨first, rest, rfl⟩ := List.exists_cons_of_ne_nil hpages
      obtain ⟨htop, hbottom⟩ := hrows first List.mem_cons_self
      have horder := first.rows_screen.1
      exact ⟨by omega, by rw [hleft, hright]; decide, by rw [hright]; decide, hnonneg, by omega,
        hscreen⟩
    · intro page hpage place htouches
      obtain ⟨htop, hbottom⟩ := hrows page hpage
      obtain ⟨hfirst, hlast⟩ := (page.touches_iff place.2.isLt).mp htouches
      have hx := place.1.isLt
      rw [Rect.mem_places, hleft, hright]
      exact ⟨by omega, by omega, by omega, by omega⟩

/-- A page of the framebuffer on a machine whose framebuffer begins at address 0. -/
def lowPage : DirtyPage amd64 := ⟨3, 3#64, by decide⟩

theorem defio_covers_lowPage : DefioCovers [lowPage] := by
  refine (defio_covers_iff (List.cons_ne_nil _ _)).mpr ?_
  intro page hpage
  rw [List.mem_singleton] at hpage
  subst hpage
  exact ⟨⟨lowPage, List.mem_singleton_self _, by decide, by decide⟩,
    ⟨lowPage, List.mem_singleton_self _, by decide, by decide⟩⟩

/-- The first page of the framebuffer in a page frame at 4 GiB. -/
def highPage : DirtyPage amd64 := ⟨0, 0x100000#64, by decide⟩

/-- A page frame above the first 150 KiB of memory is taken for none of the
framebuffer's, and the write into it is lost. -/
theorem defio_loses_highPage : ¬ DefioCovers [highPage] := by
  intro h
  obtain ⟨hscreen, _⟩ := h
  have hheight := hscreen.height
  revert hheight
  decide

end Covering

end RpUsbDisp
