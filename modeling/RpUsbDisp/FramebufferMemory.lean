import Mathlib.Tactic.Ring
import RpUsbDisp.Loops
import RpUsbDisp.Tickets

/-!
# The memory of the framebuffer

The framebuffer lies in pages from `vmalloc`.  `rvmalloc` reserves them one by one,
`rvfree` releases them again, and `rpusbdisp_fb_mmap` maps them into a process.  All
three count a size down by a page at a time.  `rvmalloc` rounds the size up first and
`rvfree` counts with a sign; `rpusbdisp_fb_mmap` does neither, and
`mmap_returns_iff` says what becomes of it.

Widths and page sizes are those of any machine the kernel runs on.
-/

namespace RpUsbDisp

/-- What the kernel is compiled for: the bits of an `unsigned long` and the size of a
page. -/
structure Arch where
  BITS_PER_LONG : Nat
  PAGE_SHIFT : Nat
  wide : 32 ≤ BITS_PER_LONG
  page : 12 ≤ PAGE_SHIFT
  fits : PAGE_SHIFT < 31

namespace Arch

/-- `unsigned long`. -/
abbrev Long (a : Arch) : Type := BitVec a.BITS_PER_LONG

def PAGE_SIZE (a : Arch) : a.Long := 1#a.BITS_PER_LONG <<< a.PAGE_SHIFT

/-- The bytes of a page. -/
def pageBytes (a : Arch) : Nat := 2 ^ a.PAGE_SHIFT

/-- `PAGE_ALIGN`. -/
def pageAlign (a : Arch) (size : a.Long) : a.Long :=
  (size + a.PAGE_SIZE - 1#_) &&& ~~~(a.PAGE_SIZE - 1#_)

/-- `i` pages as an `unsigned long`. -/
def pages (a : Arch) (i : Nat) : a.Long := BitVec.ofNat _ (i * a.pageBytes)

/-- How many pages it takes to hold `size` bytes. -/
def pageCount (a : Arch) (size : Nat) : Nat := (size + a.pageBytes - 1) / a.pageBytes

variable (a : Arch)

theorem pageBytes_pos : 0 < a.pageBytes := Nat.two_pow_pos _

theorem pageBytes_lt : a.pageBytes < 2 ^ 31 := Nat.pow_lt_pow_right (by decide) a.fits

theorem long_le : 2 ^ 32 ≤ 2 ^ a.BITS_PER_LONG := Nat.pow_le_pow_right (by decide) a.wide

theorem pageBytes_dvd : a.pageBytes ∣ 2 ^ a.BITS_PER_LONG :=
  Nat.pow_dvd_pow 2 (Nat.le_of_lt (Nat.lt_of_lt_of_le a.fits (Nat.le_trans (by decide) a.wide)))

@[simp] theorem PAGE_SIZE_toNat : a.PAGE_SIZE.toNat = a.pageBytes := by
  have hlt := a.pageBytes_lt
  have hlong := a.long_le
  have hone : 1 < 2 ^ a.BITS_PER_LONG := by omega
  rw [PAGE_SIZE, BitVec.toNat_shiftLeft, BitVec.toNat_ofNat, Nat.mod_eq_of_lt hone,
    Nat.one_shiftLeft]
  exact Nat.mod_eq_of_lt (by rw [pageBytes] at hlt; omega)

@[simp] theorem pages_zero : a.pages 0 = 0 := by simp [pages]

theorem pages_one : a.pages 1 = a.PAGE_SIZE := by
  apply BitVec.eq_of_toNat_eq
  have hlt := a.pageBytes_lt
  have hlong := a.long_le
  rw [pages, BitVec.toNat_ofNat, PAGE_SIZE_toNat, Nat.one_mul]
  exact Nat.mod_eq_of_lt (by omega)

theorem pages_succ (i : Nat) : a.pages (i + 1) = a.pages i + a.PAGE_SIZE := by
  rw [← pages_one, pages, pages, pages, Nat.add_mul, BitVec.ofNat_add]

/-- As long as they fit, pages are counted exactly. -/
theorem pages_toNat {i : Nat} (h : i * a.pageBytes < 2 ^ a.BITS_PER_LONG) :
    (a.pages i).toNat = i * a.pageBytes := by
  rw [pages, BitVec.toNat_ofNat, Nat.mod_eq_of_lt h]

/-- Taking a page away leaves the remainder. -/
theorem sub_page_mod (size : a.Long) :
    (size - a.PAGE_SIZE).toNat % a.pageBytes = size.toNat % a.pageBytes := by
  have hlt := a.pageBytes_lt
  have hlong := a.long_le
  rw [BitVec.toNat_sub, PAGE_SIZE_toNat, Nat.mod_mod_of_dvd _ a.pageBytes_dvd]
  obtain ⟨k, hk⟩ := a.pageBytes_dvd
  have hsum : 2 ^ a.BITS_PER_LONG - a.pageBytes + size.toNat =
      size.toNat + a.pageBytes * (k - 1) := by
    rw [hk, Nat.mul_sub, Nat.mul_one]
    omega
  rw [hsum, Nat.add_mul_mod_self_left]

/-- Masking the low bits away is shifting them out. -/
theorem and_not_mask {w k : Nat} (x mask : BitVec w) (hmask : mask.toNat = 2 ^ k - 1) :
    x &&& ~~~mask = x >>> k <<< k := by
  ext i hi
  have hbit : mask[i] = decide (i < k) := by
    rw [← BitVec.getLsbD_eq_getElem, BitVec.getLsbD, hmask, Nat.testBit_two_pow_sub_one]
  rw [BitVec.getElem_and, BitVec.getElem_not, hbit, BitVec.getElem_shiftLeft]
  by_cases hik : i < k
  · simp [hik]
  · have hbit' : k + (i - k) = i := Nat.add_sub_cancel' (Nat.le_of_not_lt hik)
    simp [hik, hbit', hi]

/-- `PAGE_ALIGN` rounds up. -/
theorem pageAlign_ofNat {size : Nat} (h : size < 2 ^ 31) :
    a.pageAlign (BitVec.ofNat _ size) = a.pages (a.pageCount size) := by
  have hpos := a.pageBytes_pos
  have hlt := a.pageBytes_lt
  have hlong := a.long_le
  have hone : (1#a.BITS_PER_LONG).toNat = 1 := by
    rw [BitVec.toNat_ofNat]
    exact Nat.mod_eq_of_lt (by omega)
  have hmask : (a.PAGE_SIZE - 1#_).toNat = 2 ^ a.PAGE_SHIFT - 1 := by
    rw [BitVec.toNat_sub_of_le (by rw [BitVec.le_def, hone, PAGE_SIZE_toNat]; omega),
      PAGE_SIZE_toNat, hone, pageBytes]
  have hsum : (BitVec.ofNat _ size + a.PAGE_SIZE - 1#_ : a.Long).toNat = size + a.pageBytes - 1 := by
    have hadd : (BitVec.ofNat _ size + a.PAGE_SIZE : a.Long).toNat = size + a.pageBytes := by
      rw [BitVec.toNat_add, BitVec.toNat_ofNat, PAGE_SIZE_toNat,
        Nat.mod_eq_of_lt (show size < 2 ^ a.BITS_PER_LONG by omega)]
      exact Nat.mod_eq_of_lt (by omega)
    rw [BitVec.toNat_sub_of_le (by rw [BitVec.le_def, hone, hadd]; omega), hadd, hone]
  apply BitVec.eq_of_toNat_eq
  have hround : a.pageCount size * a.pageBytes ≤ size + a.pageBytes - 1 := Nat.div_mul_le_self _ _
  rw [pageAlign, and_not_mask _ _ hmask, pages_toNat _ (by omega), BitVec.toNat_shiftLeft,
    BitVec.toNat_ushiftRight, hsum, Nat.shiftRight_eq_div_pow, Nat.shiftLeft_eq]
  exact Nat.mod_eq_of_lt (Nat.lt_of_le_of_lt hround (by omega))

end Arch

/-! ## Reserving and releasing -/

section Pages

variable {a : Arch}

/-- A walk over pages: where it is, what is left of the size, and the pages it has
been to. -/
structure PageWalk (a : Arch) where
  adr : a.Long
  size : a.Long
  visited : List a.Long

/-- What one iteration of `rvmalloc` and `rvfree` does. -/
def PageWalk.next (walk : PageWalk a) : PageWalk a :=
  { adr := walk.adr + a.PAGE_SIZE
    size := walk.size - a.PAGE_SIZE
    visited := walk.visited ++ [walk.adr] }

/-- The loop of `rvmalloc` and `rvfree`, with the test it makes of the size. -/
def walkPages (goesOn : a.Long → Bool) (fuel : Nat) (adr size : a.Long) : Option (List a.Long) :=
  match Loops.whileLoop (fun walk : PageWalk a => goesOn walk.size)
      (fun walk => (.ok walk.next : Except Empty (PageWalk a))) fuel ⟨adr, size, []⟩ with
  | some (.ok walk) => some walk.visited
  | _ => none

/-- `rvmalloc` after `vmalloc` has given it `mem`: the pages it reserves. -/
def rvmalloc (fuel : Nat) (mem size : a.Long) : Option (List a.Long) :=
  walkPages (fun size => 0#a.BITS_PER_LONG < size) fuel mem (a.pageAlign size)

/-- `rvfree`: the pages it releases. -/
def rvfree (fuel : Nat) (mem size : a.Long) : Option (List a.Long) :=
  walkPages (fun size => 0 < size.toInt) fuel mem size

/-- The pages from `mem` on that hold `size` bytes. -/
def pagesAt (mem : a.Long) (size : Nat) : List a.Long :=
  (List.range (a.pageCount size)).map fun i => mem + a.pages i

/-- A walk from `adr` on after `i` pages. -/
def PageWalk.at (adr size : a.Long) (i : Nat) : PageWalk a :=
  { adr := adr + a.pages i
    size := size - a.pages i
    visited := (List.range i).map fun j => adr + a.pages j }

theorem PageWalk.at_zero (adr size : a.Long) : PageWalk.at adr size 0 = ⟨adr, size, []⟩ := by
  simp [PageWalk.at]

theorem PageWalk.at_next (adr size : a.Long) (i : Nat) :
    (PageWalk.at adr size i).next = PageWalk.at adr size (i + 1) := by
  simp only [PageWalk.at, PageWalk.next, Arch.pages_succ, List.range_succ, List.map_append,
    List.map_cons, List.map_nil, BitVec.add_assoc, BitVec.sub_sub]

/-- A walk that goes on for `n` pages visits these. -/
theorem walkPages_counts {goesOn : a.Long → Bool} {adr size : a.Long} {n fuel : Nat}
    (hgo : ∀ i < n, goesOn (size - a.pages i) = true) (hend : goesOn (size - a.pages n) = false)
    (hfuel : n ≤ fuel) :
    walkPages goesOn fuel adr size = some ((List.range n).map fun i => adr + a.pages i) := by
  have hloop : Loops.whileLoop (fun walk : PageWalk a => goesOn walk.size)
      (fun walk => (.ok walk.next : Except Empty (PageWalk a))) fuel (PageWalk.at adr size 0) =
        some (.ok (PageWalk.at adr size n)) :=
    Loops.whileLoop_counts (PageWalk.at adr size) hend
      (fun i hi => ⟨hgo i hi, by rw [PageWalk.at_next]⟩) hfuel
  rw [walkPages, ← PageWalk.at_zero adr size, hloop]
  rfl

/-- A page is taken away from a size that has it. -/
theorem sub_pages_toNat {size : a.Long} {i : Nat} (h : i * a.pageBytes ≤ size.toNat) :
    (size - a.pages i).toNat = size.toNat - i * a.pageBytes := by
  have hpages := a.pages_toNat (Nat.lt_of_le_of_lt h size.isLt)
  rw [BitVec.toNat_sub_of_le (by rw [BitVec.le_def, hpages]; exact h), hpages]

/-- **`rvmalloc`** reserves the pages that hold `size` bytes. -/
theorem rvmalloc_pagesAt {mem : a.Long} {size fuel : Nat} (h : size < 2 ^ 31)
    (hfuel : a.pageCount size ≤ fuel) :
    rvmalloc fuel mem (BitVec.ofNat _ size) = some (pagesAt mem size) := by
  have hpos := a.pageBytes_pos
  have hround : a.pageCount size * a.pageBytes ≤ size + a.pageBytes - 1 := Nat.div_mul_le_self _ _
  have hlt := a.pageBytes_lt
  have hlong := a.long_le
  have haligned := a.pages_toNat (i := a.pageCount size) (by omega)
  rw [rvmalloc, a.pageAlign_ofNat h]
  apply walkPages_counts ?_ ?_ hfuel
  · intro i hi
    have hmul : (i + 1) * a.pageBytes ≤ a.pageCount size * a.pageBytes :=
      Nat.mul_le_mul_right _ hi
    rw [Nat.add_mul, Nat.one_mul] at hmul
    have hleft : (a.pages (a.pageCount size) - a.pages i).toNat =
        (a.pages (a.pageCount size)).toNat - i * a.pageBytes := sub_pages_toNat (by omega)
    rw [decide_eq_true_eq, BitVec.lt_def, hleft, haligned, BitVec.toNat_ofNat, Nat.zero_mod]
    omega
  · rw [BitVec.sub_self]
    simp

/-- **`rvfree`** releases the same pages, although it counts down from a size that
need not be a multiple of a page. -/
theorem rvfree_pagesAt {mem : a.Long} {size fuel : Nat} (h : size < 2 ^ 30)
    (hfuel : a.pageCount size ≤ fuel) :
    rvfree fuel mem (BitVec.ofNat _ size) = some (pagesAt mem size) := by
  have hpos := a.pageBytes_pos
  have hround : a.pageCount size * a.pageBytes ≤ size + a.pageBytes - 1 := Nat.div_mul_le_self _ _
  have hreach : size ≤ a.pageCount size * a.pageBytes := by
    have hmod := Nat.div_add_mod (size + a.pageBytes - 1) a.pageBytes
    have hrest := Nat.mod_lt (size + a.pageBytes - 1) hpos
    rw [Nat.mul_comm] at hmod
    rw [Arch.pageCount]
    omega
  have hlt := a.pageBytes_lt
  have hlong := a.long_le
  -- With a sign the difference is what it is in the integers.
  have hsigned : ∀ i ≤ a.pageCount size,
      (BitVec.ofNat _ size - a.pages i : a.Long).toInt = (size : Int) - (i * a.pageBytes : Nat) := by
    intro i hi
    have hmul : i * a.pageBytes ≤ a.pageCount size * a.pageBytes := Nat.mul_le_mul_right _ hi
    rw [Arch.pages, BitVec.toInt_sub, BitVec.toInt_ofNat', BitVec.toInt_ofNat']
    simp only [Int.bmod_sub_bmod, Int.sub_bmod_bmod]
    apply Int.bmod_eq_of_le_mul_two
    · omega
    · omega
  apply walkPages_counts ?_ ?_ hfuel
  · intro i hi
    have hmul : (i + 1) * a.pageBytes ≤ a.pageCount size * a.pageBytes :=
      Nat.mul_le_mul_right _ hi
    rw [Nat.add_mul, Nat.one_mul] at hmul
    rw [hsigned i (Nat.le_of_lt hi), decide_eq_true_eq]
    omega
  · rw [hsigned _ (Nat.le_refl _), decide_eq_false_iff_not]
    omega

/-! ## Mapping -/

/-- The `struct vm_area_struct` of a mapping. -/
structure VmArea (a : Arch) where
  vmStart : a.Long
  vmEnd : a.Long
  vmPgoff : a.Long

/-- What `struct fb_info` says of the memory. -/
structure FbMemory (a : Arch) where
  screenBase : a.Long
  smemLen : UInt32

/-- A call of `remap_pfn_range`: where in the process, and which page. -/
structure RemapCall (a : Arch) where
  addr : a.Long
  virt : a.Long
  pfn : a.Long

/-- `vmalloc_to_pfn` and `remap_pfn_range`. -/
structure Mapper (a : Arch) where
  vmallocToPfn : a.Long → a.Long
  remapPfnRange : RemapCall a → Int

/-- The variables of `rpusbdisp_fb_mmap`, with the calls it has made. -/
structure MmapLoop (a : Arch) where
  vmStart : a.Long
  virt : a.Long
  size : a.Long
  calls : List (RemapCall a)

def EINVAL : Int := 22

/-- The body of the loop of `rpusbdisp_fb_mmap`. -/
def MmapLoop.next (mapper : Mapper a) (m : MmapLoop a) : Except (Int × MmapLoop a) (MmapLoop a) :=
  let call : RemapCall a := { addr := m.vmStart, virt := m.virt, pfn := mapper.vmallocToPfn m.virt }
  let ret := mapper.remapPfnRange call
  if ret ≠ 0 then .error (ret, { m with calls := m.calls ++ [call] })
  else
    .ok { vmStart := m.vmStart + a.PAGE_SIZE
          virt := m.virt + a.PAGE_SIZE
          size := m.size - a.PAGE_SIZE
          calls := m.calls ++ [call] }

/-- `info->fix.smem_len` as an `unsigned long`. -/
def FbMemory.size (info : FbMemory a) : a.Long := BitVec.ofNat _ info.smemLen.toNat

/-- `vma->vm_pgoff << PAGE_SHIFT`. -/
def VmArea.offset (vma : VmArea a) : a.Long := vma.vmPgoff <<< a.PAGE_SHIFT

/-- The variables before the loop. -/
def MmapLoop.start (info : FbMemory a) (vma : VmArea a) : MmapLoop a :=
  { vmStart := vma.vmStart
    virt := info.screenBase + vma.offset
    size := info.size - vma.offset
    calls := [] }

/-- `rpusbdisp_fb_mmap`: what it returns, what it leaves of the area, and the calls it
makes. -/
def rpusbdispFbMmap (mapper : Mapper a) (fuel : Nat) (info : FbMemory a) (vma : VmArea a) :
    Option (Int × VmArea a × List (RemapCall a)) :=
  if vma.offset ≥ info.size then some (-EINVAL, vma, [])
  else
    match Loops.whileLoop (fun m : MmapLoop a => 0#a.BITS_PER_LONG < m.size)
        (MmapLoop.next mapper) fuel (.start info vma) with
    | some (.ok m) => some (0, { vma with vmStart := m.vmStart }, m.calls)
    | some (.error (ret, m)) => some (ret, { vma with vmStart := m.vmStart }, m.calls)
    | none => none

/-- `remap_pfn_range` always succeeds. -/
def Mapper.Succeeds (mapper : Mapper a) : Prop := ∀ call, mapper.remapPfnRange call = 0

theorem Mapper.Succeeds.next {mapper : Mapper a} (h : mapper.Succeeds) (m : MmapLoop a) :
    m.next mapper = .ok
      { vmStart := m.vmStart + a.PAGE_SIZE
        virt := m.virt + a.PAGE_SIZE
        size := m.size - a.PAGE_SIZE
        calls := m.calls ++ [⟨m.vmStart, m.virt, mapper.vmallocToPfn m.virt⟩] } := by
  rw [MmapLoop.next]
  exact if_neg (not_not_intro (h _))

/-- **A remainder is never used up**: a size that is no multiple of a page keeps the
loop going for ever. -/
theorem mmap_diverges {mapper : Mapper a} (h : mapper.Succeeds) {m : MmapLoop a}
    (hrest : m.size.toNat % a.pageBytes ≠ 0) (fuel : Nat) :
    Loops.whileLoop (fun m : MmapLoop a => 0#a.BITS_PER_LONG < m.size) (MmapLoop.next mapper)
      fuel m = none := by
  refine Loops.whileLoop_diverges (I := fun m => m.size.toNat % a.pageBytes ≠ 0) ?_ ?_ hrest fuel
  · intro m hrest
    rw [decide_eq_true_eq, BitVec.lt_def, BitVec.toNat_ofNat, Nat.zero_mod]
    apply Nat.pos_of_ne_zero
    intro hzero
    exact hrest (by rw [hzero, Nat.zero_mod])
  · intro m hrest
    refine ⟨_, h.next m, ?_⟩
    rw [a.sub_page_mod]
    exact hrest

/-- The loop after `i` calls. -/
def MmapLoop.at (mapper : Mapper a) (m : MmapLoop a) (i : Nat) : MmapLoop a :=
  { vmStart := m.vmStart + a.pages i
    virt := m.virt + a.pages i
    size := m.size - a.pages i
    calls := m.calls ++ (List.range i).map fun j =>
      ⟨m.vmStart + a.pages j, m.virt + a.pages j, mapper.vmallocToPfn (m.virt + a.pages j)⟩ }

theorem MmapLoop.at_next {mapper : Mapper a} (h : mapper.Succeeds) (m : MmapLoop a) (i : Nat) :
    (m.at mapper i).next mapper = .ok (m.at mapper (i + 1)) := by
  rw [h.next]
  simp only [MmapLoop.at, Arch.pages_succ, List.range_succ, List.map_append, List.map_cons,
    List.map_nil, BitVec.add_assoc, BitVec.sub_sub, List.append_assoc]

/-- **A whole number of pages** is mapped page by page. -/
theorem mmap_counts {mapper : Mapper a} (h : mapper.Succeeds) {m : MmapLoop a} {n fuel : Nat}
    (hsize : m.size.toNat = n * a.pageBytes) (hfuel : n ≤ fuel) :
    Loops.whileLoop (fun m : MmapLoop a => 0#a.BITS_PER_LONG < m.size) (MmapLoop.next mapper)
      fuel m = some (.ok (m.at mapper n)) := by
  have hpos := a.pageBytes_pos
  have hleft : ∀ i ≤ n, (m.at mapper i).size.toNat = (n - i) * a.pageBytes := by
    intro i hi
    have hle := Nat.mul_le_mul_right a.pageBytes hi
    rw [MmapLoop.at, sub_pages_toNat (by omega), hsize, Nat.sub_mul]
  have hzero : m.at mapper 0 = m := by simp [MmapLoop.at]
  rw [← Loops.whileLoop_counts (m.at mapper) ?_ (fun i hi => ⟨?_, m.at_next h i⟩) hfuel, hzero]
  · rw [decide_eq_false_iff_not, BitVec.lt_def, hleft n (Nat.le_refl n)]
    simp
  · have hmore := Nat.mul_pos (Nat.sub_pos_of_lt hi) hpos
    rw [decide_eq_true_eq, BitVec.lt_def, hleft i (Nat.le_of_lt hi), BitVec.toNat_ofNat,
      Nat.zero_mod]
    exact hmore

theorem FbMemory.size_toNat (info : FbMemory a) : info.size.toNat = info.smemLen.toNat := by
  have hlt := info.smemLen.toNat_lt
  have hlong := a.long_le
  rw [FbMemory.size, BitVec.toNat_ofNat]
  exact Nat.mod_eq_of_lt (by omega)

/-- An offset is a whole number of pages. -/
theorem VmArea.pageBytes_dvd_offset (vma : VmArea a) : a.pageBytes ∣ vma.offset.toNat := by
  rw [VmArea.offset, BitVec.toNat_shiftLeft, Nat.shiftLeft_eq]
  exact (Nat.dvd_mod_iff a.pageBytes_dvd).mpr (Nat.dvd_mul_left _ _)

/-- What is left of the framebuffer behind an offset inside it. -/
theorem MmapLoop.start_size {info : FbMemory a} {vma : VmArea a} (h : vma.offset < info.size) :
    (MmapLoop.start info vma).size.toNat + vma.offset.toNat = info.smemLen.toNat := by
  have hle := BitVec.le_of_lt h
  rw [MmapLoop.start, BitVec.toNat_sub_of_le hle, info.size_toNat]
  rw [BitVec.le_def, info.size_toNat] at hle
  omega

/-- **A framebuffer of whole pages** is mapped from the offset on, one page after the
other, whatever the end of the area; and the area's start moves behind it. -/
theorem mmap_whole_pages {mapper : Mapper a} (h : mapper.Succeeds) {info : FbMemory a}
    {vma : VmArea a} (hoffset : vma.offset < info.size) {n fuel : Nat}
    (hn : (MmapLoop.start info vma).size.toNat = n * a.pageBytes) (hfuel : n ≤ fuel) :
    rpusbdispFbMmap mapper fuel info vma =
      some (0, { vma with vmStart := vma.vmStart + a.pages n },
        (List.range n).map fun i =>
          let virt := info.screenBase + vma.offset + a.pages i
          ⟨vma.vmStart + a.pages i, virt, mapper.vmallocToPfn virt⟩) := by
  rw [rpusbdispFbMmap, if_neg (BitVec.not_le.mpr hoffset), mmap_counts h hn hfuel]
  simp [MmapLoop.at, MmapLoop.start]

/-- **When a mapping returns.**  Where `remap_pfn_range` always succeeds,
`rpusbdisp_fb_mmap` gets to its end exactly if the framebuffer fills its last page. -/
theorem mmap_returns_iff {mapper : Mapper a} (h : mapper.Succeeds) {info : FbMemory a}
    {vma : VmArea a} (hoffset : vma.offset < info.size) :
    (∃ fuel result, rpusbdispFbMmap mapper fuel info vma = some result) ↔
      a.pageBytes ∣ info.smemLen.toNat := by
  have hinside : ¬ vma.offset ≥ info.size := BitVec.not_le.mpr hoffset
  have hsize := MmapLoop.start_size hoffset
  have hiff : a.pageBytes ∣ info.smemLen.toNat ↔
      a.pageBytes ∣ (MmapLoop.start info vma).size.toNat := by
    rw [← hsize]
    exact Nat.dvd_add_iff_left vma.pageBytes_dvd_offset |>.symm
  rw [hiff]
  constructor
  · intro hparts
    obtain ⟨fuel, result, hresult⟩ := hparts
    by_contra hrest
    rw [rpusbdispFbMmap, if_neg hinside,
      mmap_diverges h (fun hmod => hrest (Nat.dvd_of_mod_eq_zero hmod))] at hresult
    cases hresult
  · intro hparts
    obtain ⟨n, hn⟩ := hparts
    rw [Nat.mul_comm] at hn
    exact ⟨n, _, mmap_whole_pages h hoffset hn (Nat.le_refl n)⟩

/-! ## The framebuffer of the driver -/

/-- `_vfb_fix.line_length`. -/
def lineLength : Nat := RP_DISP_DEFAULT_WIDTH * RP_DISP_DEFAULT_PIXEL_BITS / 8

/-- `fbmem_size` in `_on_create_new_fb`: `yres` lines. -/
def fbmemSize : UInt32 := (RP_DISP_DEFAULT_HEIGHT * lineLength).toUInt32

/-- The memory `_on_create_new_fb` gives the framebuffer. -/
def createdFb (mem : a.Long) : FbMemory a := { screenBase := mem, smemLen := fbmemSize }

/-- No page of Linux divides the framebuffer: half a page of the smallest size is
left over. -/
theorem fbmemSize_not_dvd (a : Arch) : ¬ a.pageBytes ∣ fbmemSize.toNat := by
  intro h
  have hpage : 4096 ∣ a.pageBytes := Nat.pow_dvd_pow 2 a.page
  exact absurd (hpage.trans h) (by decide)

/-- What a mapping of the framebuffer at `mem` is to do: return 0 after as many calls
as there are pages behind the offset, each for the next page that `rvmalloc` reserved
and `rvfree` releases, one behind the other from the start of the area on and inside
it, and leave the area as it was. -/
def MapsExactly (mapper : Mapper a) (mem : a.Long) (vma : VmArea a) : Prop :=
  ∃ fuel vma' calls reserved,
    rpusbdispFbMmap mapper fuel (createdFb mem) vma = some (0, vma', calls) ∧
    rvmalloc fuel mem (createdFb mem).size = some reserved ∧
    rvfree fuel mem (createdFb mem).size = some reserved ∧
    calls.length = a.pageCount (fbmemSize.toNat - vma.offset.toNat) ∧
    calls.map RemapCall.virt = reserved.drop vma.vmPgoff.toNat ∧
    (∀ (i : Nat) call, calls[i]? = some call → call.addr = vma.vmStart + a.pages i ∧
      call.pfn = mapper.vmallocToPfn call.virt ∧ call.addr < vma.vmEnd) ∧
    vma'.vmStart = vma.vmStart

/-- **No mapping is exact.**  The driver's framebuffer does not fill its last page, so
a mapping that `remap_pfn_range` does not stop never comes to its end. -/
theorem mmap_never_exact {mapper : Mapper a} (h : mapper.Succeeds) (mem : a.Long) (vma : VmArea a)
    (hoffset : vma.vmPgoff.toNat * a.pageBytes < fbmemSize.toNat) :
    ¬ MapsExactly mapper mem vma := by
  intro hparts
  obtain ⟨fuel, vma', calls, _, hmmap, _⟩ := hparts
  have hinside : vma.offset < (createdFb mem).size := by
    have hlt := fbmemSize.toNat_lt
    have hlong := a.long_le
    rw [Arch.pageBytes] at hoffset
    rw [BitVec.lt_def, FbMemory.size_toNat, VmArea.offset, BitVec.toNat_shiftLeft, Nat.shiftLeft_eq,
      Nat.mod_eq_of_lt (by omega)]
    exact hoffset
  exact fbmemSize_not_dvd a ((mmap_returns_iff h hinside).mp ⟨fuel, _, hmmap⟩)

/-- A machine of 64 bits with pages of 64 KiB. -/
def arm64 : Arch := ⟨64, 16, by decide, by decide, by decide⟩

/-- A process maps the framebuffer from its third page on, of which 22 KiB are used. -/
def lastPage : VmArea arm64 := ⟨0xffff80000000#64, 0xffff80010000#64, 2#64⟩

/-- A kernel whose vmalloc area lies in one piece of physical memory. -/
def linearMapper : Mapper arm64 :=
  ⟨fun virt => (virt - .ofNat _ 0xffff800008000000) >>> 16, fun _ => 0⟩

theorem mmap_never_exact_arm64 : ¬ MapsExactly linearMapper 0xffff800008010000#64 lastPage :=
  mmap_never_exact (fun _ => rfl) _ _ (by decide)

/-- A machine of 64 bits with pages of 4 KiB. -/
def amd64 : Arch := ⟨64, 12, by decide, by decide, by decide⟩

/-- A process maps the first page of a framebuffer. -/
def firstPage : VmArea amd64 := ⟨0x7f0000000000#64, 0x7f0000001000#64, 0#64⟩

/-- A kernel that finds the page frame by its address, and never refuses. -/
def identityMapper : Mapper amd64 := ⟨fun virt => virt >>> 12, fun _ => 0⟩

/-- The mapping of the first page goes on and on. -/
theorem mmap_first_page : ¬ MapsExactly identityMapper 0xffffc90000000000#64 firstPage := by
  intro h
  obtain ⟨fuel, vma', calls, _, hmmap, _⟩ := h
  have hsucceeds : identityMapper.Succeeds := fun _ => rfl
  have hinside : firstPage.offset < (createdFb (0xffffc90000000000#64 : amd64.Long)).size := by
    decide
  exact fbmemSize_not_dvd amd64 ((mmap_returns_iff hsucceeds hinside).mp ⟨fuel, _, hmmap⟩)

end Pages

end RpUsbDisp
