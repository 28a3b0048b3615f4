import Mathlib.Tactic.IntervalCases
import RpUsbDisp.Mirror
import RpUsbDisp.Tickets

/-!
# The framebuffer and its dirty rectangle

`fbhandlers.c`: the drawing callbacks paint on the framebuffer and then call
`_display_update`, which adds to the dirty rectangle and tries to send it.  The
code is a program over the atomic operations `FbOp`, and `FbState.exec` says what
they do when one operation of the driver runs after the other.

Next to the driver's state stands the image the device shows.  `Coherent` says
that the dirty rectangle covers what the device does not show yet.  It survives
every step in which no accelerated command forgets anything (`Covered`), and an
accelerated command that succeeds too early breaks it.
-/

namespace RpUsbDisp

open Programs Mirror

/-! ## Rectangles and images -/

/-- The four sides of a rectangle, all of them inside it. -/
structure Rect where
  left : Int
  top : Int
  right : Int
  bottom : Int
  deriving DecidableEq

/-- A place on the screen: its column and its row. -/
abbrev Place : Type := Fin RP_DISP_DEFAULT_WIDTH × Fin RP_DISP_DEFAULT_HEIGHT

abbrev Image : Type := Place → Pixel

namespace Rect

/-- `width` columns and `height` rows from `(x, y)` on. -/
def ofSize (x y width height : Int) : Rect := ⟨x, y, width + x - 1, height + y - 1⟩

/-- The full display area. -/
def full : Rect := ⟨0, 0, RP_DISP_DEFAULT_WIDTH - 1, RP_DISP_DEFAULT_HEIGHT - 1⟩

/-- The sides `_clear_dirty_rect` sets. -/
def empty : Rect := ⟨RP_DISP_DEFAULT_WIDTH, RP_DISP_DEFAULT_HEIGHT, -1, -1⟩

/-- The four comparisons of `_display_update`. -/
def extend (r : Rect) (x y width height : Int) : Rect :=
  { top := if r.top > y then y else r.top
    bottom := if r.bottom < height + y - 1 then height + y - 1 else r.bottom
    left := if r.left > x then x else r.left
    right := if r.right < width + x - 1 then width + x - 1 else r.right }

/-- The places in a rectangle. -/
def places (r : Rect) : Set Place :=
  {p | r.left ≤ (p.1 : Nat) ∧ (p.1 : Nat) ≤ r.right ∧ r.top ≤ (p.2 : Nat) ∧ (p.2 : Nat) ≤ r.bottom}

instance (r : Rect) (p : Place) : Decidable (p ∈ r.places) :=
  inferInstanceAs (Decidable (_ ∧ _ ∧ _ ∧ _))

/-- The sides do not stick out of the screen. -/
structure Within (r : Rect) : Prop where
  left : 0 ≤ r.left
  top : 0 ≤ r.top
  right : r.right < RP_DISP_DEFAULT_WIDTH
  bottom : r.bottom < RP_DISP_DEFAULT_HEIGHT

/-- The sides are in the wrong order. -/
def Inverted (r : Rect) : Prop := r.top > r.bottom ∨ r.left > r.right

instance (r : Rect) : Decidable r.Inverted := inferInstanceAs (Decidable (_ ∨ _))

theorem full_within : full.Within := ⟨by decide, by decide, by decide, by decide⟩

theorem empty_within : empty.Within := ⟨by decide, by decide, by decide, by decide⟩

/-- Extending by what is on the screen stays on the screen. -/
theorem Within.extend {r : Rect} (h : r.Within) {x y width height : Int} (hx : 0 ≤ x) (hy : 0 ≤ y)
    (hwidth : x + width ≤ RP_DISP_DEFAULT_WIDTH) (hheight : y + height ≤ RP_DISP_DEFAULT_HEIGHT) :
    (r.extend x y width height).Within := by
  obtain ⟨hleft, htop, hright, hbottom⟩ := h
  simp only [Rect.extend]
  constructor
  · show 0 ≤ if r.left > x then x else r.left
    split <;> omega
  · show 0 ≤ if r.top > y then y else r.top
    split <;> omega
  · show (if r.right < width + x - 1 then width + x - 1 else r.right) < _
    split <;> omega
  · show (if r.bottom < height + y - 1 then height + y - 1 else r.bottom) < _
    split <;> omega

theorem mem_places {r : Rect} {p : Place} : p ∈ r.places ↔
    r.left ≤ (p.1 : Nat) ∧ (p.1 : Nat) ≤ r.right ∧ r.top ≤ (p.2 : Nat) ∧ (p.2 : Nat) ≤ r.bottom :=
  Iff.rfl

@[simp] theorem full_places : full.places = Set.univ := by
  ext p
  have hx := p.1.isLt
  have hy := p.2.isLt
  simp only [mem_places, full, Set.mem_univ, iff_true]
  omega

/-- Extending covers the old rectangle and the new one. -/
theorem extend_places (r : Rect) (x y width height : Int) :
    r.places ∪ (ofSize x y width height).places ⊆ (r.extend x y width height).places := by
  intro p h
  rcases h with hp | hp
  · simp only [mem_places, extend] at hp ⊢
    refine ⟨?_, ?_, ?_, ?_⟩ <;> split <;> omega
  · simp only [mem_places, extend, ofSize] at hp ⊢
    refine ⟨?_, ?_, ?_, ?_⟩ <;> split <;> omega

end Rect

/-- The pixel at `(x, y)`, if that is on the screen. -/
def pixelAt (image : Image) (x y : Int) : Pixel :=
  if h : x.toNat < RP_DISP_DEFAULT_WIDTH ∧ y.toNat < RP_DISP_DEFAULT_HEIGHT then
    image (⟨x.toNat, h.1⟩, ⟨y.toNat, h.2⟩)
  else 0

/-- The framebuffer as the display pipe reads it. -/
def Image.memory (image : Image) (i : Int) : Pixel :=
  pixelAt image (i % RP_DISP_DEFAULT_WIDTH) (i / RP_DISP_DEFAULT_WIDTH)

/-! ## What the callbacks are given -/

def ROP_COPY : UInt32 := 0
def ROP_XOR : UInt32 := 1

/-- A `__u32` where the code wants an `int`. -/
def intOf (v : UInt32) : Int := v.toInt32.toInt

/-- Small numbers are the same as an `int`. -/
theorem intOf_of_lt {v : UInt32} (h : v.toNat < 2 ^ 31) : intOf v = v.toNat := by
  have hmsb : 2 * v.toBitVec.toNat < 2 ^ 32 := by
    show 2 * v.toNat < 2 ^ 32
    omega
  exact BitVec.toInt_eq_toNat_of_lt hmsb

/-- `struct fb_fillrect`. -/
structure FbFillrect where
  dx : UInt32
  dy : UInt32
  width : UInt32
  height : UInt32
  color : UInt32
  rop : UInt32

/-- `struct fb_copyarea`. -/
structure FbCopyarea where
  dx : UInt32
  dy : UInt32
  width : UInt32
  height : UInt32
  sx : UInt32
  sy : UInt32

/-- `struct fb_image`, with the pixels that `sys_imageblit` makes of its data. -/
structure FbImage where
  dx : UInt32
  dy : UInt32
  width : UInt32
  height : UInt32
  pixels : Image

/-- The changes the device can make by itself. -/
inductive Accelerated where
  | fillrect (rect : FbFillrect)
  | copyarea (area : FbCopyarea)

/-- The changes of the framebuffer: `sys_fillrect`, `sys_copyarea`,
`sys_imageblit` and `fb_sys_write`, of which nothing is known. -/
inductive Painting where
  | accelerated (a : Accelerated)
  | imageblit (image : FbImage)
  | write (content : Image)

namespace Accelerated

/-- The rectangle that is changed. -/
def target : Accelerated → Rect
  | .fillrect rect => .ofSize rect.dx.toNat rect.dy.toNat rect.width.toNat rect.height.toNat
  | .copyarea area => .ofSize area.dx.toNat area.dy.toNat area.width.toNat area.height.toNat

/-- The places whose pixels matter for the result. -/
def source : Accelerated → Set Place
  | .fillrect rect => if rect.rop = ROP_XOR then (target (.fillrect rect)).places else ∅
  | .copyarea area =>
      (Rect.ofSize area.sx.toNat area.sy.toNat area.width.toNat area.height.toNat).places

/-- `sys_fillrect` and `sys_copyarea`; `palette` is `pseudo_palette`. -/
def paint (palette : UInt32 → Pixel) (a : Accelerated) (image : Image) : Image := fun p =>
  if p ∈ a.target.places then
    match a with
    | .fillrect rect =>
        if rect.rop = ROP_XOR then image p ^^^ palette rect.color else palette rect.color
    | .copyarea area =>
        pixelAt image ((p.1 : Nat) - area.dx.toNat + area.sx.toNat)
          ((p.2 : Nat) - area.dy.toNat + area.sy.toNat)
  else image p

theorem paint_changesOnly (palette : UInt32 → Pixel) (a : Accelerated) (image : Image) :
    ChangesOnly a.target.places image (a.paint palette image) := by
  intro p hp
  exact if_neg hp

end Accelerated

namespace Painting

/-- The rectangle that is changed. -/
def target : Painting → Rect
  | .accelerated a => a.target
  | .imageblit image => .ofSize image.dx.toNat image.dy.toNat image.width.toNat image.height.toNat
  | .write _ => .full

def paint (palette : UInt32 → Pixel) : Painting → Image → Image
  | .accelerated a, image => a.paint palette image
  | .imageblit i, image => fun p => if p ∈ (target (.imageblit i)).places then i.pixels p else image p
  | .write content, _ => content

theorem paint_changesOnly (palette : UInt32 → Pixel) (t : Painting) (image : Image) :
    ChangesOnly t.target.places image (t.paint palette image) := by
  cases t with
  | accelerated a => exact a.paint_changesOnly palette image
  | imageblit i =>
      intro p hp
      exact if_neg hp
  | write content =>
      intro p hp
      rw [target, Rect.full_places] at hp
      exact absurd (Set.mem_univ p) hp

end Painting

/-! ## The code -/

/-- The `hint` of `_display_update` and its data. -/
inductive UpdateHint where
  | none
  | bitblt
  | accelerated (a : Accelerated)

/-- What `_display_update` asks the display pipe to send. -/
inductive Send where
  | image (rect : Rect) (clearDirty : Bool)
  | accelerated (a : Accelerated)

/-- The arguments of the `rpusbdisp_usb_try_` call. -/
def Send.command (framebuffer : Int → Pixel) : Send → Command
  | .image rect clearDirty =>
      .sendImage framebuffer rect.left rect.top rect.right rect.bottom RP_DISP_DEFAULT_WIDTH
        clearDirty
  | .accelerated (.fillrect rect) =>
      .drawRect (intOf rect.dx) (intOf rect.dy) (intOf (rect.dx + rect.width - 1))
        (intOf (rect.dy + rect.height - 1)) rect.color.toUInt16
        (if rect.rop = ROP_XOR then RPUSBDISP_OPERATION_XOR else RPUSBDISP_OPERATION_COPY)
  | .accelerated (.copyarea area) =>
      .copyArea (intOf area.sx) (intOf area.sy) (intOf area.dx) (intOf area.dy)
        (intOf area.width) (intOf area.height)

/-- The `switch` of `_display_update`. -/
def UpdateHint.send (hint : UpdateHint) (dirtyRect : Rect) (clearDirty : Bool) : Send :=
  match hint with
  | .accelerated a => .accelerated a
  | _ => .image dirtyRect clearDirty

/-- What the framebuffer driver does atomically.  `dirtyRect` and `setDirtyRect`
are the four sides, which only the holder of the lock touches. -/
inductive FbOp where
  | lockOperation
  | unlockOperation
  | bindedUsbdev
  | fbHandle (dev : Nat)
  | unsyncDecAndTest
  | unsyncRead
  | setUnsync
  | dirtyRect
  | setDirtyRect (r : Rect)
  | dirtyFlagRead
  | setDirtyFlag
  | clearDirtyRect
  | paint (t : Painting)
  | send (dev : Nat) (s : Send)

@[reducible] def FbOp.Res : FbOp → Type
  | .bindedUsbdev => Option Nat
  | .fbHandle _ => Bool
  | .unsyncDecAndTest => Bool
  | .unsyncRead => BitVec 32
  | .dirtyRect => Rect
  | .dirtyFlagRead => Bool
  | .send _ _ => Bool
  | _ => Unit

abbrev FbProg (α : Type) := Prog FbOp FbOp.Res α

/-- `pa->binded_usbdev`. -/
abbrev bindedUsbdev : FbProg (Option Nat) := Prog.ask FbOp.bindedUsbdev

/-- `rpusbdisp_usb_get_fbhandle`, whether it is not null. -/
abbrev fbHandle (dev : Nat) : FbProg Bool := Prog.ask (FbOp.fbHandle dev)

/-- `atomic_dec_and_test(&pa->unsync_flag)`. -/
abbrev unsyncDecAndTest : FbProg Bool := Prog.ask FbOp.unsyncDecAndTest

abbrev getDirtyRect : FbProg Rect := Prog.ask FbOp.dirtyRect

abbrev trySend (dev : Nat) (s : Send) : FbProg Bool := Prog.ask (FbOp.send dev s)

/-- The condition of `fbhandler_on_all_transfer_done`, which reads the second flag
only if the first one is not set. -/
def anythingPending : FbProg Bool := do
  if ← (Prog.ask FbOp.dirtyFlagRead : FbProg Bool) then return true
  else
    let unsyncFlag ← (Prog.ask FbOp.unsyncRead : FbProg (BitVec 32))
    return unsyncFlag = 1

/-- `_display_update` between its lock and its unlock. -/
def displayUpdateLocked (x y width height : Int) (hint : UpdateHint) : FbProg Unit := do
  match ← bindedUsbdev with
  | none => return ()
  | some _ =>
      let clearDirty ← unsyncDecAndTest
      let old ← getDirtyRect
      let dirtyRect := if clearDirty then Rect.full else old.extend x y width height
      Prog.ask (FbOp.setDirtyRect dirtyRect)
      if dirtyRect.Inverted then return ()
      else
        Prog.ask FbOp.setDirtyFlag
        match ← bindedUsbdev with
        | none => return ()
        | some dev =>
            if ← trySend dev (hint.send dirtyRect clearDirty) then
              Prog.ask FbOp.clearDirtyRect

/-- `_display_update`. -/
def displayUpdate (x y width height : Int) (hint : UpdateHint) : FbProg Unit := do
  Prog.ask FbOp.lockOperation
  displayUpdateLocked x y width height hint
  Prog.ask FbOp.unlockOperation

/-- `_display_fillrect`. -/
def displayFillrect (rect : FbFillrect) : FbProg Unit := do
  Prog.ask (FbOp.paint (.accelerated (.fillrect rect)))
  displayUpdate (intOf rect.dx) (intOf rect.dy) (intOf rect.width) (intOf rect.height)
    (.accelerated (.fillrect rect))

/-- `_display_imageblit`. -/
def displayImageblit (image : FbImage) : FbProg Unit := do
  Prog.ask (FbOp.paint (.imageblit image))
  displayUpdate (intOf image.dx) (intOf image.dy) (intOf image.width) (intOf image.height) .bitblt

/-- `_display_copyarea`. -/
def displayCopyarea (area : FbCopyarea) : FbProg Unit := do
  Prog.ask (FbOp.paint (.accelerated (.copyarea area)))
  displayUpdate (intOf area.dx) (intOf area.dy) (intOf area.width) (intOf area.height)
    (.accelerated (.copyarea area))

/-- `_display_write`. -/
def displayWrite (content : Image) : FbProg Unit := do
  Prog.ask (FbOp.paint (.write content))
  displayUpdate 0 0 RP_DISP_DEFAULT_WIDTH RP_DISP_DEFAULT_HEIGHT .none

/-- `fbhandler_on_all_transfer_done`, the completion work. -/
def fbhandlerOnAllTransferDone (dev : Nat) : FbProg Unit := do
  if ← fbHandle dev then
    if ← anythingPending then
      displayUpdate 0 0 RP_DISP_DEFAULT_WIDTH RP_DISP_DEFAULT_HEIGHT .none

/-- `fbhandler_set_unsync_flag`. -/
def fbhandlerSetUnsync (dev : Nat) : FbProg Unit := do
  if ← fbHandle dev then
    Prog.ask FbOp.setUnsync

/-! ## One operation of the driver after the other -/

/-- `struct rpusbdisp_fb_private`. -/
structure FbPrivate where
  dirtyRect : Rect
  dirtyFlag : Bool
  operationLock : Bool
  bindedUsbdev : Option Nat
  unsyncFlag : BitVec 32

/-- The driver's state, the framebuffer and what the device shows. -/
structure FbState where
  pa : FbPrivate
  fbHandle : Nat → Bool
  framebuffer : Image
  display : Image

/-- How the device draws by itself.  Only the target changes, and there it becomes
what the framebuffer becomes, if the two agreed on what the drawing reads. -/
structure Device (palette : UInt32 → Pixel) where
  draw : Accelerated → Image → Image
  frame : ∀ a image, ChangesOnly a.target.places image (draw a image)
  draws : ∀ a framebuffer display, (∀ p ∈ a.source, framebuffer p = display p) →
    ∀ p ∈ a.target.places, draw a display p = a.paint palette framebuffer p

/-- How a send comes out: whether the call returns 1, and if it does not, what a
part of an image makes of the rectangle. -/
structure SendOutcome where
  sent : Bool
  torn : Image

/-- The display after a send. -/
def Device.receive {palette : UInt32 → Pixel} (device : Device palette) (outcome : SendOutcome)
    (framebuffer display : Image) : Send → Image
  | .image rect _ => fun p =>
      if p ∈ rect.places then if outcome.sent then framebuffer p else outcome.torn p
      else display p
  | .accelerated a => if outcome.sent then device.draw a display else display

/-- What an operation does, other than a send.  A lock that is taken is waited for. -/
def FbState.exec (palette : UInt32 → Pixel) (s : FbState) : (o : FbOp) → Option (o.Res × FbState)
  | .lockOperation =>
      if s.pa.operationLock then none
      else some ((), { s with pa := { s.pa with operationLock := true } })
  | .unlockOperation => some ((), { s with pa := { s.pa with operationLock := false } })
  | .bindedUsbdev => some (s.pa.bindedUsbdev, s)
  | .fbHandle dev => some (s.fbHandle dev, s)
  | .unsyncDecAndTest =>
      some (s.pa.unsyncFlag - 1 = 0, { s with pa := { s.pa with unsyncFlag := s.pa.unsyncFlag - 1 } })
  | .unsyncRead => some (s.pa.unsyncFlag, s)
  | .setUnsync => some ((), { s with pa := { s.pa with unsyncFlag := 1 } })
  | .dirtyRect => some (s.pa.dirtyRect, s)
  | .setDirtyRect r => some ((), { s with pa := { s.pa with dirtyRect := r } })
  | .dirtyFlagRead => some (s.pa.dirtyFlag, s)
  | .setDirtyFlag => some ((), { s with pa := { s.pa with dirtyFlag := true } })
  | .clearDirtyRect =>
      some ((), { s with pa := { s.pa with dirtyRect := .empty, dirtyFlag := false } })
  | .paint t => some ((), { s with framebuffer := t.paint palette s.framebuffer })
  | .send _ _ => none

/-- The same with sends that come out as `outcome` says. -/
def FbState.execSend {palette : UInt32 → Pixel} (device : Device palette) (outcome : SendOutcome)
    (s : FbState) : (o : FbOp) → Option (o.Res × FbState)
  | .send _ c =>
      some (outcome.sent, { s with display := device.receive outcome s.framebuffer s.display c })
  | o => s.exec palette o

/-- A drawing callback. -/
inductive Callback where
  | fillrect (rect : FbFillrect)
  | copyarea (area : FbCopyarea)
  | imageblit (image : FbImage)
  | write (content : Image)

def Callback.prog : Callback → FbProg Unit
  | .fillrect rect => displayFillrect rect
  | .copyarea area => displayCopyarea area
  | .imageblit image => displayImageblit image
  | .write content => displayWrite content

/-- An operation of the driver; the last two are about a device. -/
inductive FbEvent where
  | callback (c : Callback)
  | completionWork
  | setUnsyncFlag

/-- The code of an operation. -/
def FbEvent.prog (dev : Nat) : FbEvent → FbProg Unit
  | .callback c => c.prog
  | .completionWork => fbhandlerOnAllTransferDone dev
  | .setUnsyncFlag => fbhandlerSetUnsync dev

/-- The state after an operation. -/
def nextFb {palette : UInt32 → Pixel} (device : Device palette) (dev : Nat) (s : FbState)
    (e : FbEvent) (outcome : SendOutcome) : Option FbState :=
  ((e.prog dev).run (FbState.execSend device outcome) s).map Prod.snd

/-- The states between operations that are all `allowed`. -/
inductive FbRun {palette : UInt32 → Pixel} (device : Device palette) (dev : Nat)
    (allowed : FbState → FbEvent → SendOutcome → Prop) (start : FbState) : FbState → Prop where
  | start : FbRun device dev allowed start start
  | step {s s' : FbState} (e : FbEvent) (outcome : SendOutcome)
      (h : FbRun device dev allowed start s) (he : allowed s e outcome)
      (hnext : nextFb device dev s e outcome = some s') : FbRun device dev allowed start s'

/-! ## Coherence -/

/-- `v` columns (or rows) from `u` on are inside `n`. -/
def FitsSide (u v : UInt32) (n : Nat) : Prop := u.toNat + v.toNat ≤ n

instance (u v : UInt32) (n : Nat) : Decidable (FitsSide u v n) :=
  inferInstanceAs (Decidable (_ ≤ _))

/-- On the screen an `int` holds what the `__u32` held. -/
theorem FitsSide.intOf {u v : UInt32} {n : Nat} (h : FitsSide u v n) (hn : n < 2 ^ 31) :
    intOf u = u.toNat ∧ intOf v = v.toNat := by
  unfold FitsSide at h
  exact ⟨intOf_of_lt (by omega), intOf_of_lt (by omega)⟩

/-- The rectangles of a callback are on the screen. -/
def Callback.OnScreen : Callback → Prop
  | .fillrect rect =>
      FitsSide rect.dx rect.width RP_DISP_DEFAULT_WIDTH ∧
        FitsSide rect.dy rect.height RP_DISP_DEFAULT_HEIGHT
  | .copyarea area =>
      FitsSide area.dx area.width RP_DISP_DEFAULT_WIDTH ∧
        FitsSide area.dy area.height RP_DISP_DEFAULT_HEIGHT ∧
        FitsSide area.sx area.width RP_DISP_DEFAULT_WIDTH ∧
        FitsSide area.sy area.height RP_DISP_DEFAULT_HEIGHT
  | .imageblit image =>
      FitsSide image.dx image.width RP_DISP_DEFAULT_WIDTH ∧
        FitsSide image.dy image.height RP_DISP_DEFAULT_HEIGHT
  | .write _ => True

def FbEvent.OnScreen : FbEvent → Prop
  | .callback c => c.OnScreen
  | _ => True

section Updating

/-! ### What runs an update

Whatever protocol an update keeps to, its callers keep to as well. -/

variable {γ : Type} {P : Protocol FbOp FbOp.Res γ} {F : Fault → Prop} {Q : Unit → γ → Prop} {g : γ}

/-- **A drawing callback** paints, and updates a part of the screen. -/
theorem Callback.prog_wp {c : Callback} {screen : Prop} (hscreen : screen → c.OnScreen)
    (hpaint : ∀ t, P.pre g (.paint t) ∧ P.track g (.paint t) () = g)
    (hupdate : ∀ {x y width height : Int} {hint : UpdateHint},
      (screen → 0 ≤ x ∧ 0 ≤ y ∧ x + width ≤ RP_DISP_DEFAULT_WIDTH ∧
        y + height ≤ RP_DISP_DEFAULT_HEIGHT) →
      (displayUpdate x y width height hint).wp P F Q g) : c.prog.wp P F Q g := by
  have hpainted : ∀ {t : Painting} {p : FbProg Unit}, p.wp P F Q g →
      (Prog.ask (FbOp.paint t) >>= fun _ => p).wp P F Q g := by
    intro t p hp
    refine ⟨(hpaint t).1, fun _ _ => ?_⟩
    rw [(hpaint t).2]
    exact hp
  have hsized : ∀ {t : Painting} {hint : UpdateHint} {dx dy width height : UInt32},
      (screen → FitsSide dx width RP_DISP_DEFAULT_WIDTH ∧
        FitsSide dy height RP_DISP_DEFAULT_HEIGHT) →
      (Prog.ask (FbOp.paint t) >>= fun _ => displayUpdate (intOf dx) (intOf dy) (intOf width)
        (intOf height) hint).wp P F Q g := by
    intro t hint dx dy width height hfits
    apply hpainted
    apply hupdate
    intro h
    obtain ⟨hx, hy⟩ := hfits h
    obtain ⟨hdx, hwidth⟩ := hx.intOf (by decide)
    obtain ⟨hdy, hheight⟩ := hy.intOf (by decide)
    rw [hdx, hdy, hwidth, hheight]
    unfold FitsSide at hx hy
    omega
  cases c with
  | fillrect rect => exact hsized hscreen
  | copyarea area => exact hsized fun h => ⟨(hscreen h).1, (hscreen h).2.1⟩
  | imageblit image => exact hsized hscreen
  | write content => exact hpainted (hupdate fun _ => by decide)

/-- **The completion work** updates the whole display or does nothing, where to look at
the flags changes nothing. -/
theorem fbhandlerOnAllTransferDone_wp {dev : Nat}
    (hhandle : P.pre g (.fbHandle dev) ∧ ∀ r, P.track g (.fbHandle dev) r = g)
    (hdirty : P.pre g .dirtyFlagRead ∧ ∀ r, P.track g .dirtyFlagRead r = g)
    (hunsync : P.pre g .unsyncRead ∧ ∀ r, P.track g .unsyncRead r = g) (hidle : Q () g)
    (hupdate : (displayUpdate 0 0 RP_DISP_DEFAULT_WIDTH RP_DISP_DEFAULT_HEIGHT .none).wp P F Q g) :
    (fbhandlerOnAllTransferDone dev).wp P F Q g := by
  unfold fbhandlerOnAllTransferDone
  rw [wp_ask_bind]
  refine ⟨hhandle.1, fun handle _ => ?_⟩
  rw [hhandle.2]
  cases handle with
  | false => exact hidle
  | true =>
      rw [if_pos rfl, wp_bind]
      unfold anythingPending
      rw [wp_ask_bind]
      refine ⟨hdirty.1, fun dirtyFlag _ => ?_⟩
      rw [hdirty.2]
      cases dirtyFlag with
      | true => exact hupdate
      | false =>
          rw [if_neg Bool.false_ne_true, wp_ask_bind]
          refine ⟨hunsync.1, fun unsyncFlag _ => ?_⟩
          rw [hunsync.2]
          generalize decide (unsyncFlag = 1) = pending
          cases pending with
          | true => exact hupdate
          | false => exact hidle

end Updating

/-- **Coherence.**  Unless a refresh is owed, what the device does not show lies in
the dirty rectangle. -/
def Coherent (s : FbState) : Prop :=
  s.pa.unsyncFlag ≠ 1 → stale s.framebuffer s.display ⊆ s.pa.dirtyRect.places

/-- An accelerated command that is sent makes up for all the device does not show. -/
def Covers (s : FbState) (a : Accelerated) : Prop :=
  (∀ p ∈ a.source, s.framebuffer p = s.display p) ∧
    stale s.framebuffer s.display ⊆ a.target.places

/-- No accelerated command succeeds while something else is stale. -/
def Covered (s : FbState) (e : FbEvent) (outcome : SendOutcome) : Prop :=
  match e with
  | .callback (.fillrect rect) => outcome.sent = true → Covers s (.fillrect rect)
  | .callback (.copyarea area) => outcome.sent = true → Covers s (.copyarea area)
  | _ => True

/-- Between operations, with `dev` bound to the framebuffer. -/
structure Bound (dev : Nat) (s : FbState) : Prop where
  unlocked : s.pa.operationLock = false
  binded : s.pa.bindedUsbdev = some dev
  handle : s.fbHandle dev = true

section Rules

variable {palette : UInt32 → Pixel} {device : Device palette} {outcome : SendOutcome} {dev : Nat}

/-- What a send does to the display, seen from the dirty rectangle. -/
theorem receive_stale {framebuffer display : Image} {rect : Rect} {hint : UpdateHint}
    (clearDirty : Bool) (hstale : stale framebuffer display ⊆ rect.places)
    (hdrawn : ∀ a, hint = .accelerated a → outcome.sent = true →
      stale framebuffer (device.draw a display) = ∅) :
    stale framebuffer (device.receive outcome framebuffer display (hint.send rect clearDirty)) ⊆
      if outcome.sent then ∅ else rect.places := by
  have himage : stale framebuffer (device.receive outcome framebuffer display
      (.image rect clearDirty)) ⊆ if outcome.sent then ∅ else rect.places := by
    cases hsent : outcome.sent with
    | true =>
        have hover : Overwrites rect.places framebuffer display
            (device.receive outcome framebuffer display (.image rect clearDirty)) := by
          constructor
          · intro p hp
            simp [Device.receive, hp, hsent]
          · intro p hp
            exact if_neg hp
        rw [stale_overwrite hstale hover]
        exact Set.empty_subset _
    | false =>
        apply stale_disturb hstale
        intro p hp
        exact if_neg hp
  cases hint with
  | none => exact himage
  | bitblt => exact himage
  | accelerated a =>
      show stale framebuffer (if outcome.sent then device.draw a display else display) ⊆ _
      cases hsent : outcome.sent with
      | true =>
          rw [if_pos rfl, hdrawn a rfl hsent]
          exact Set.empty_subset _
      | false => exact hstale

/-- **Under the lock.**  What was painted before is accounted for, if an
accelerated command that is sent brings the display up to date. -/
theorem displayUpdateLocked_run {s : FbState} {x y width height : Int} {hint : UpdateHint}
    (hbinded : s.pa.bindedUsbdev = some dev)
    (hstale : s.pa.unsyncFlag ≠ 1 → stale s.framebuffer s.display ⊆
      s.pa.dirtyRect.places ∪ (Rect.ofSize x y width height).places)
    (hdrawn : ∀ a, hint = .accelerated a → outcome.sent = true →
      stale s.framebuffer (device.draw a s.display) = ∅) :
    ∃ s', (displayUpdateLocked x y width height hint).run (FbState.execSend device outcome) s =
      some ((), s') ∧ s'.pa.bindedUsbdev = some dev ∧ s'.fbHandle = s.fbHandle ∧ Coherent s' := by
  have hlook : ∀ t : FbState, t.pa.bindedUsbdev = some dev →
      t.execSend device outcome .bindedUsbdev = some (some dev, t) := by
    intro t ht
    rw [← ht]
    rfl
  unfold displayUpdateLocked
  rw [run_ask_bind (hlook s hbinded)]
  simp only []
  rw [run_ask_bind rfl, run_ask_bind rfl, run_ask_bind rfl]
  generalize hrect : (if decide (s.pa.unsyncFlag - 1 = 0) then Rect.full
    else s.pa.dirtyRect.extend x y width height) = rect
  have hcover : stale s.framebuffer s.display ⊆ rect.places := by
    rw [← hrect]
    by_cases hfull : s.pa.unsyncFlag - 1 = 0
    · rw [if_pos (decide_eq_true hfull), Rect.full_places]
      exact Set.subset_univ _
    · rw [if_neg (fun h => hfull (of_decide_eq_true h))]
      have hne : s.pa.unsyncFlag ≠ 1 := by
        intro hone
        rw [hone] at hfull
        exact hfull rfl
      exact (hstale hne).trans (Rect.extend_places _ x y width height)
  split
  · exact ⟨_, rfl, hbinded, rfl, fun _ => hcover⟩
  · have hmarked := hlook { s with pa := { s.pa with
      dirtyRect := rect, dirtyFlag := true, unsyncFlag := s.pa.unsyncFlag - 1 } } hbinded
    have hleft := receive_stale (decide (s.pa.unsyncFlag - 1 = 0)) hcover hdrawn
    rw [run_ask_bind rfl, run_ask_bind hmarked]
    simp only []
    rw [run_ask_bind rfl]
    cases hsent : outcome.sent with
    | true =>
        rw [hsent, if_pos rfl] at hleft
        refine ⟨_, rfl, hbinded, rfl, fun _ => ?_⟩
        exact hleft.trans (Set.empty_subset _)
    | false =>
        rw [hsent] at hleft
        exact ⟨_, rfl, hbinded, rfl, fun _ => hleft⟩

/-- **`_display_update`.**  It comes to its end between its lock and its unlock. -/
theorem displayUpdate_run {s : FbState} {x y width height : Int} {hint : UpdateHint}
    (hbound : Bound dev s)
    (hstale : s.pa.unsyncFlag ≠ 1 → stale s.framebuffer s.display ⊆
      s.pa.dirtyRect.places ∪ (Rect.ofSize x y width height).places)
    (hdrawn : ∀ a, hint = .accelerated a → outcome.sent = true →
      stale s.framebuffer (device.draw a s.display) = ∅) :
    ∃ s', (displayUpdate x y width height hint).run (FbState.execSend device outcome) s =
      some ((), s') ∧ Bound dev s' ∧ Coherent s' := by
  have hlock : s.execSend device outcome .lockOperation =
      some ((), { s with pa := { s.pa with operationLock := true } }) :=
    if_neg (by rw [hbound.unlocked]; exact Bool.false_ne_true)
  obtain ⟨s', hrun, hbinded, hhandle, hcoherent⟩ :=
    displayUpdateLocked_run (s := { s with pa := { s.pa with operationLock := true } })
      (x := x) (y := y) hbound.binded hstale hdrawn
  unfold displayUpdate
  rw [run_ask_bind hlock, run_bind hrun]
  exact ⟨_, rfl, ⟨rfl, hbinded, (congrFun hhandle dev).trans hbound.handle⟩, hcoherent⟩

/-- **A drawing callback** paints and then updates what it painted. -/
theorem paint_displayUpdate_run {s : FbState} {t : Painting} {x y width height : Int}
    {hint : UpdateHint} (hbound : Bound dev s) (hcoherent : Coherent s)
    (htarget : t.target.places ⊆ (Rect.ofSize x y width height).places)
    (hdrawn : ∀ a, hint = .accelerated a → outcome.sent = true →
      stale (t.paint palette s.framebuffer) (device.draw a s.display) = ∅) :
    ∃ s', (Prog.ask (FbOp.paint t) >>= fun _ => displayUpdate x y width height hint).run
      (FbState.execSend device outcome) s = some ((), s') ∧ Bound dev s' ∧ Coherent s' := by
  have hpaint : Bound dev { s with framebuffer := t.paint palette s.framebuffer } :=
    ⟨hbound.unlocked, hbound.binded, hbound.handle⟩
  rw [run_ask_bind rfl]
  apply displayUpdate_run hpaint
  · intro hsync
    have hpainted := stale_paint (hcoherent hsync) (t.paint_changesOnly palette s.framebuffer)
    exact hpainted.trans (Set.union_subset_union_right _ htarget)
  · exact hdrawn

/-- An accelerated change that covers what is stale brings the display up to date. -/
theorem Covers.drawn {s : FbState} {a : Accelerated} (h : Covers s a) :
    stale (a.paint palette s.framebuffer) (device.draw a s.display) = ∅ :=
  stale_replay h.2 (a.paint_changesOnly palette s.framebuffer) (device.frame a s.display)
    (device.draws a s.framebuffer s.display h.1)

theorem anythingPending_run (s : FbState) :
    anythingPending.run (FbState.execSend device outcome) s =
      some (s.pa.dirtyFlag || decide (s.pa.unsyncFlag = 1), s) := by
  unfold anythingPending
  rw [run_ask_bind rfl]
  cases s.pa.dirtyFlag with
  | true => rfl
  | false => rfl

/-- **Step.**  Every operation comes to its end and keeps the display coherent,
if no accelerated command forgets anything. -/
theorem nextFb_coherent {s : FbState} {e : FbEvent} (hbound : Bound dev s)
    (hcoherent : Coherent s) (hscreen : e.OnScreen) (hcovered : Covered s e outcome) :
    ∃ s', nextFb device dev s e outcome = some s' ∧ Bound dev s' ∧ Coherent s' := by
  have hend : ∀ {p : FbProg Unit}, (∃ s', p.run (FbState.execSend device outcome) s = some ((), s') ∧
      Bound dev s' ∧ Coherent s') → ∃ s', (p.run (FbState.execSend device outcome) s).map Prod.snd =
      some s' ∧ Bound dev s' ∧ Coherent s' := by
    intro p h
    obtain ⟨s', hrun, hkept⟩ := h
    exact ⟨s', by rw [hrun]; rfl, hkept⟩
  have hhandle : s.execSend device outcome (.fbHandle dev) = some (true, s) := by
    rw [← hbound.handle]
    rfl
  have hwidth : RP_DISP_DEFAULT_WIDTH < 2 ^ 31 := by decide
  have hheight : RP_DISP_DEFAULT_HEIGHT < 2 ^ 31 := by decide
  have hwhole : ∀ {r : Rect}, r.places ⊆
      (Rect.ofSize 0 0 RP_DISP_DEFAULT_WIDTH RP_DISP_DEFAULT_HEIGHT).places := by
    intro r
    rw [show Rect.ofSize 0 0 RP_DISP_DEFAULT_WIDTH RP_DISP_DEFAULT_HEIGHT = Rect.full from rfl,
      Rect.full_places]
    exact Set.subset_univ _
  cases e with
  | callback c =>
      cases c with
      | fillrect rect =>
          obtain ⟨hx, hy⟩ := hscreen
          obtain ⟨hdx, hw⟩ := hx.intOf hwidth
          obtain ⟨hdy, hh⟩ := hy.intOf hheight
          apply hend
          apply paint_displayUpdate_run hbound hcoherent
          · rw [hdx, hdy, hw, hh]
            exact subset_rfl
          · intro a h hsent
            cases h
            exact (hcovered hsent).drawn
      | copyarea area =>
          obtain ⟨hx, hy, _, _⟩ := hscreen
          obtain ⟨hdx, hw⟩ := hx.intOf hwidth
          obtain ⟨hdy, hh⟩ := hy.intOf hheight
          apply hend
          apply paint_displayUpdate_run hbound hcoherent
          · rw [hdx, hdy, hw, hh]
            exact subset_rfl
          · intro a h hsent
            cases h
            exact (hcovered hsent).drawn
      | imageblit image =>
          obtain ⟨hx, hy⟩ := hscreen
          obtain ⟨hdx, hw⟩ := hx.intOf hwidth
          obtain ⟨hdy, hh⟩ := hy.intOf hheight
          apply hend
          apply paint_displayUpdate_run hbound hcoherent
          · rw [hdx, hdy, hw, hh]
            exact subset_rfl
          · exact nofun
      | write content =>
          apply hend
          exact paint_displayUpdate_run hbound hcoherent hwhole nofun
  | completionWork =>
      apply hend
      show ∃ s', (fbhandlerOnAllTransferDone dev).run _ s = _ ∧ _
      unfold fbhandlerOnAllTransferDone
      rw [run_ask_bind hhandle, if_pos rfl, run_bind (anythingPending_run s)]
      split
      · apply displayUpdate_run hbound
        · exact fun hsync => (hcoherent hsync).trans Set.subset_union_left
        · exact nofun
      · exact ⟨s, rfl, hbound, hcoherent⟩
  | setUnsyncFlag =>
      apply hend
      show ∃ s', (fbhandlerSetUnsync dev).run _ s = _ ∧ _
      unfold fbhandlerSetUnsync
      rw [run_ask_bind hhandle, if_pos rfl]
      refine ⟨_, rfl, ⟨hbound.unlocked, hbound.binded, hbound.handle⟩, ?_⟩
      exact fun hne => absurd rfl hne

/-- **Run.** -/
theorem FbRun.coherent {allowed : FbState → FbEvent → SendOutcome → Prop} {s₀ s : FbState}
    (h : FbRun device dev allowed s₀ s)
    (hallowed : ∀ s e outcome, allowed s e outcome → e.OnScreen ∧ Covered s e outcome)
    (hbound : Bound dev s₀) (hcoherent : Coherent s₀) : Bound dev s ∧ Coherent s := by
  induction h with
  | start => exact ⟨hbound, hcoherent⟩
  | step _ _ _ he hnext ih =>
      obtain ⟨hscreen, hcovered⟩ := hallowed _ _ _ he
      obtain ⟨s', hnext', hkept⟩ := nextFb_coherent ih.1 ih.2 hscreen hcovered
      rw [hnext] at hnext'
      cases hnext'
      exact hkept

/-- **Host and device.**  For every device that draws as the framebuffer does, every
image on either side and every dirty rectangle left over when the device is bound
and a refresh is owed: in every run of drawing, writing, completion works and
failed transfers, with any success of any send, in which no accelerated command
succeeds while something else is stale, all that the device does not show lies in
the dirty rectangle, unless a refresh is owed. -/
theorem display_coherent {s₀ s : FbState} (hbound : Bound dev s₀) (howed : s₀.pa.unsyncFlag = 1)
    (hrun : FbRun device dev (fun s e outcome => e.OnScreen ∧ Covered s e outcome) s₀ s) :
    Coherent s :=
  (hrun.coherent (fun _ _ _ h => h) hbound fun hsync => absurd howed hsync).2

end Rules

/-! ## A device and two runs -/

/-- The device that draws by the same rules on its own image. -/
def Device.alike (palette : UInt32 → Pixel) : Device palette where
  draw a := a.paint palette
  frame a image := a.paint_changesOnly palette image
  draws := by
    intro a framebuffer display hagree p hp
    cases a with
    | fillrect rect =>
        simp only [Accelerated.paint, if_pos hp]
        split
        · rename_i hxor
          have hsource : p ∈ (Accelerated.fillrect rect).source := by
            rw [Accelerated.source, if_pos hxor]
            exact hp
          rw [hagree p hsource]
        · rfl
    | copyarea area =>
        simp only [Accelerated.paint, if_pos hp, pixelAt]
        split
        · rename_i hscreen
          refine (hagree _ ?_).symm
          have htarget := Rect.mem_places.mp hp
          simp only [Accelerated.target, Rect.ofSize] at htarget
          simp only [Accelerated.source, Rect.mem_places, Rect.ofSize]
          omega
        · rfl

/-- A device just bound, which shows something else than the framebuffer. -/
def justBound : FbState where
  pa :=
    { dirtyRect := .empty
      dirtyFlag := false
      operationLock := false
      bindedUsbdev := some 0
      unsyncFlag := 1 }
  fbHandle dev := dev = 0
  framebuffer _ := 0
  display _ := 0xffff

theorem justBound_bound : Bound 0 justBound := ⟨rfl, rfl, rfl⟩

/-- One pixel, as a fill rectangle. -/
def dot : FbFillrect := { dx := 5, dy := 5, width := 1, height := 1, color := 7, rop := ROP_COPY }

def corner : Place := (⟨0, by decide⟩, ⟨0, by decide⟩)

/-- The same device after a write that was sent. -/
def refreshed : FbState :=
  { justBound with
    pa := { justBound.pa with unsyncFlag := 0 }
    framebuffer := fun _ => 3
    display := fun p => if p ∈ Rect.full.places then 3 else 0xffff }

/-- A write that refreshes the whole display, and then a fill rectangle. -/
theorem display_coherent_dot : ∃ s,
    FbRun (.alike fun c => c.toUInt16) 0 (fun s e outcome => e.OnScreen ∧ Covered s e outcome)
      justBound s ∧ s.pa.unsyncFlag ≠ 1 ∧ Coherent s := by
  have hscreen : (FbEvent.callback (.fillrect dot)).OnScreen := ⟨by decide, by decide⟩
  have hwrite : FbRun (.alike fun c => c.toUInt16) 0
      (fun s e outcome => e.OnScreen ∧ Covered s e outcome) justBound refreshed :=
    .step (.callback (.write fun _ => 3)) ⟨true, fun _ => 0⟩ .start ⟨trivial, trivial⟩ rfl
  have hcovers : Covered refreshed (.callback (.fillrect dot)) ⟨true, fun _ => 0⟩ := by
    intro _
    constructor
    · intro p hp
      exact absurd hp (Set.notMem_empty p)
    · apply subset_of_eq_of_subset _ (Set.empty_subset _)
      rw [stale_eq_empty]
      intro p
      have hp : p ∈ Rect.full.places := by
        rw [Rect.full_places]
        exact Set.mem_univ p
      exact (if_pos hp).symm
  have hdot := FbRun.step (.callback (.fillrect dot)) ⟨true, fun _ => 0⟩ hwrite ⟨hscreen, hcovers⟩ rfl
  exact ⟨_, hdot, by decide, display_coherent justBound_bound rfl hdot⟩

/-- **A forgotten refresh.**  A fill rectangle is the first thing that is drawn; it
is sent, and the refresh owed since the device was bound is forgotten. -/
theorem refresh_forgotten : ∃ s,
    FbRun (.alike fun c => c.toUInt16) 0 (fun _ e _ => e.OnScreen) justBound s ∧
      s.pa.unsyncFlag = 0 ∧ s.pa.dirtyRect = .empty ∧ s.framebuffer corner = 0 ∧
      s.display corner = 0xffff ∧ ¬ Coherent s := by
  have hscreen : (FbEvent.callback (.fillrect dot)).OnScreen := ⟨by decide, by decide⟩
  refine ⟨_, .step (.callback (.fillrect dot)) ⟨true, fun _ => 0⟩ .start hscreen rfl,
    rfl, rfl, by decide, by decide, ?_⟩
  intro hcoherent
  have hcovered := hcoherent (by decide) (show corner ∈ _ from by
    show (_ : Pixel) ≠ _
    decide)
  exact absurd hcovered (by decide)

end RpUsbDisp
