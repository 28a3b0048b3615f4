import RpUsbDisp.DeferredIo
import RpUsbDisp.Interleaving
import RpUsbDisp.Runs

/-!
# Updates of the display

Everything that calls `_display_update`, at once and in any order: the drawing
callbacks, the deferred I/O handler with whatever pages, and the completion work.
Status packets and failed transfers set `unsync_flag` in between, without the lock.
Every call is a thread that does one operation at a time, and a send comes out as
it likes.

The dirty rectangle may stand the wrong way round, but no side of it ever sticks out
of the screen, and that is enough for every image that is sent (`sends_in_screen`).
-/

namespace RpUsbDisp

open Programs

/-! ## The world -/

/-- Where an update is: not holding the lock, before it looks at `unsync_flag`,
between that and its send with `clear_dirty` as it has turned out, or behind it. -/
inductive UpdatePhase where
  | outside
  | locked
  | tested (clearDirty : Bool)
  | sent
  deriving DecidableEq

/-- The phase after an operation. -/
def UpdatePhase.next (ph : UpdatePhase) : (o : FbOp) → o.Res → UpdatePhase
  | .lockOperation, _ => .locked
  | .unsyncDecAndTest, clearDirty => .tested clearDirty
  | .send _ _, _ => .sent
  | .unlockOperation, _ => .outside
  | _, _ => ph

/-- The framebuffer driver, and whether `unsync_flag` has been set since the last send
that succeeded. -/
structure RefreshState where
  fb : FbState
  owed : Bool

/-- How a send comes out.  A failed one may have set `unsync_flag`, as the completion
of a submission that was refused does. -/
inductive SendResult where
  | sent
  | failed (unsynced : Bool)
  deriving DecidableEq

/-- `unsync_flag` is set. -/
def RefreshState.unsync (s : RefreshState) : RefreshState :=
  { fb := { s.fb with pa := { s.fb.pa with unsyncFlag := 1 } }, owed := true }

/-- What an operation does; `result` settles a send. -/
def RefreshState.exec (palette : UInt32 → Pixel) (s : RefreshState) :
    (o : FbOp) → SendResult → Option (o.Res × RefreshState)
  | .send _ _, .sent => some (true, { s with owed := false })
  | .send _ _, .failed unsynced => some (false, if unsynced then s.unsync else s)
  | .setUnsync, _ => some ((), s.unsync)
  | o, _ => (s.fb.exec palette o).map fun (r, fb) => (r, { s with fb := fb })

abbrev UpdateWorld : Type := World RefreshState FbOp FbOp.Res Unit UpdatePhase

/-- What makes the framebuffer driver run. -/
inductive UpdateSource (a : Arch) where
  | callback (c : Callback)
  | defio (pfns : List a.Long)
  | transferDone (dev : Nat)
  | setUnsync (dev : Nat)

variable {a : Arch}

def UpdateSource.prog : UpdateSource a → FbProg Unit
  | .callback c => c.prog
  | .defio pfns => (vfbFix a).displayDefioHandler pfns
  | .transferDone dev => fbhandlerOnAllTransferDone dev
  | .setUnsync dev => fbhandlerSetUnsync dev

/-- A call begins, or a thread does its next operation. -/
inductive UpdateEvent (a : Arch) where
  | call (source : UpdateSource a)
  | run (i : Nat) (result : SendResult)

def nextUpdate (palette : UInt32 → Pixel) (w : UpdateWorld) : UpdateEvent a → Option UpdateWorld
  | .call source => some (w.spawn w.shared source.prog .outside)
  | .run i result => w.step (RefreshState.exec palette) UpdatePhase.next i result

/-- The rectangles of the drawing callbacks are on the screen; they may be empty. -/
def UpdateEvent.OnScreen : UpdateEvent a → Prop
  | .call (.callback c) => c.OnScreen
  | _ => True

/-- No update is on its way; `b` is the bound device. -/
structure AtRest (b : Option Nat) (fb : FbState) : Prop where
  unlocked : fb.pa.operationLock = false
  binded : fb.pa.bindedUsbdev = b

/-- The world at rest. -/
def restingWorld (fb : FbState) : UpdateWorld := ⟨⟨fb, false⟩, []⟩

/-! ## The protocol of an update -/

/-- What an update may ask, with `b` for the bound device, and what it may be told;
`screen` says whether all drawing is on the screen. -/
def updateProtocol (b : Option Nat) (screen : Prop) : Protocol FbOp FbOp.Res UpdatePhase where
  pre ph
    | .lockOperation => ph = .outside
    | .unsyncDecAndTest => ph = .locked
    | .setDirtyRect r => screen → r.Within
    | .send _ (.image r clearDirty) => ph = .tested clearDirty ∧
        (screen → InScreen r.left r.top r.right r.bottom) ∧ (clearDirty = true → r = .full)
    | .send _ (.accelerated _) => ∃ clearDirty, ph = .tested clearDirty
    | .unlockOperation => ph ≠ .outside ∧ ph ≠ .tested true
    | _ => True
  answer _
    | .bindedUsbdev, r => r = b
    | .dirtyRect, r => screen → r.Within
    | _, _ => True
  track := UpdatePhase.next

section Programs

variable {b : Option Nat} {screen : Prop} {F : Fault → Prop}

/-- The right way round and inside is on the screen. -/
theorem Rect.Within.inScreen {r : Rect} (h : r.Within) (hinverted : ¬ r.Inverted) :
    InScreen r.left r.top r.right r.bottom := by
  obtain ⟨hleft, htop, hright, hbottom⟩ := h
  obtain ⟨hrows, hcolumns⟩ := not_or.mp hinverted
  exact ⟨hleft, Int.not_lt.mp hcolumns, hright, htop, Int.not_lt.mp hrows, hbottom⟩

theorem full_not_inverted : ¬ Rect.full.Inverted := by decide

/-- **An update** sends what is on the screen, and all of the screen where it has taken
the flag; and it does not let that flag drop. -/
theorem displayUpdate_wp {x y width height : Int} {hint : UpdateHint}
    (hscreen : screen → 0 ≤ x ∧ 0 ≤ y ∧ x + width ≤ RP_DISP_DEFAULT_WIDTH ∧
      y + height ≤ RP_DISP_DEFAULT_HEIGHT) :
    (displayUpdate x y width height hint).wp (updateProtocol b screen) F (fun _ ph => ph = .outside)
      .outside := by
  have hunlock : ∀ ph : UpdatePhase, ph ≠ .outside → ph ≠ .tested true →
      (Prog.ask FbOp.unlockOperation : FbProg Unit).wp (updateProtocol b screen) F
        (fun _ ph => ph = .outside) ph := fun ph hlocked htaken => ⟨⟨hlocked, htaken⟩, fun _ _ => rfl⟩
  unfold displayUpdate
  rw [wp_ask_bind]
  refine ⟨rfl, fun _ _ => ?_⟩
  rw [wp_bind]
  unfold displayUpdateLocked
  rw [wp_ask_bind]
  refine ⟨trivial, fun binded hbinded => ?_⟩
  obtain rfl : binded = b := hbinded
  cases binded with
  | none => exact hunlock .locked nofun nofun
  | some dev =>
      rw [wp_ask_bind]
      refine ⟨rfl, fun clearDirty _ => ?_⟩
      rw [wp_ask_bind]
      refine ⟨trivial, fun old hold => ?_⟩
      generalize hrect : (if clearDirty then Rect.full else old.extend x y width height) = rect
      have hwithin : screen → rect.Within := by
        intro h
        obtain ⟨hx, hy, hwidth, hheight⟩ := hscreen h
        rw [← hrect]
        split
        · exact Rect.full_within
        · exact Rect.Within.extend (hold h) hx hy hwidth hheight
      have hfull : clearDirty = true → rect = .full := fun htaken => by rw [← hrect, if_pos htaken]
      rw [wp_ask_bind]
      refine ⟨hwithin, fun _ _ => ?_⟩
      by_cases hinverted : rect.Inverted
      · rw [if_pos hinverted]
        have hpassed : clearDirty = false := by
          cases clearDirty with
          | false => rfl
          | true => exact absurd (hfull rfl ▸ hinverted) full_not_inverted
        subst hpassed
        exact hunlock (.tested false) nofun nofun
      · rw [if_neg hinverted, wp_ask_bind]
        refine ⟨trivial, fun _ _ => ?_⟩
        rw [wp_ask_bind]
        refine ⟨trivial, fun binded hbinded => ?_⟩
        obtain rfl : binded = some dev := hbinded
        rw [wp_ask_bind]
        constructor
        · cases hint with
          | accelerated a => exact ⟨clearDirty, rfl⟩
          | none => exact ⟨rfl, fun h => (hwithin h).inScreen hinverted, hfull⟩
          | bitblt => exact ⟨rfl, fun h => (hwithin h).inScreen hinverted, hfull⟩
        · intro result _
          cases result with
          | true => exact ⟨trivial, fun _ _ => hunlock .sent nofun nofun⟩
          | false => exact hunlock .sent nofun nofun

/-- A drawing callback. -/
theorem callback_wp {c : Callback} (hscreen : screen → c.OnScreen) :
    c.prog.wp (updateProtocol b screen) F (fun _ ph => ph = .outside) .outside :=
  c.prog_wp hscreen (fun _ => ⟨trivial, rfl⟩) displayUpdate_wp

/-- Any page frame, as that of the first page. -/
def DirtyPage.first (pfn : a.Long) : DirtyPage a := ⟨0, pfn, by rw [Nat.zero_mul]; decide⟩

/-- **The deferred I/O handler**, even where no page counts and the height is negative. -/
theorem defio_wp (pfns : List a.Long) :
    ((vfbFix a).displayDefioHandler pfns).wp (updateProtocol b screen) F (fun _ ph => ph = .outside)
      .outside := by
  obtain ⟨_, _, htop, hbottom⟩ := handlerRect_sides (pfns.map DirtyPage.first)
  have hpfns : (pfns.map DirtyPage.first).map DirtyPage.pfn = pfns := by
    simp [Function.comp_def, DirtyPage.first]
  rw [handlerRect, hpfns, FbFix.defioRect, Rect.ofSize] at htop hbottom
  unfold FbFix.displayDefioHandler
  rw [wp_ask_bind]
  refine ⟨trivial, fun binded _ => ?_⟩
  cases binded with
  | none => exact rfl
  | some dev =>
      refine displayUpdate_wp fun _ => ⟨Int.le_refl 0, htop, by decide, ?_⟩
      dsimp only at hbottom
      omega

/-- The completion work. -/
theorem transferDone_wp (dev : Nat) :
    (fbhandlerOnAllTransferDone dev).wp (updateProtocol b screen) F (fun _ ph => ph = .outside)
      .outside :=
  fbhandlerOnAllTransferDone_wp ⟨trivial, fun _ => rfl⟩ ⟨trivial, fun _ => rfl⟩
    ⟨trivial, fun _ => rfl⟩ rfl (displayUpdate_wp fun _ => by decide)

/-- Setting the flag needs no lock. -/
theorem setUnsync_wp (dev : Nat) :
    (fbhandlerSetUnsync dev).wp (updateProtocol b screen) F (fun _ ph => ph = .outside) .outside := by
  unfold fbhandlerSetUnsync
  rw [wp_ask_bind]
  refine ⟨trivial, fun handle _ => ?_⟩
  cases handle with
  | false => exact rfl
  | true => exact ⟨trivial, fun _ _ => rfl⟩

theorem source_wp {source : UpdateSource a}
    (hscreen : screen → (UpdateEvent.call source).OnScreen) :
    source.prog.wp (updateProtocol b screen) F (fun _ ph => ph = .outside) .outside := by
  cases source with
  | callback c => exact callback_wp hscreen
  | defio pfns => exact defio_wp pfns
  | transferDone dev => exact transferDone_wp dev
  | setUnsync dev => exact setUnsync_wp dev

end Programs

/-! ## The world keeps to the protocol -/

section Worlds

variable {b : Option Nat} {screen : Prop} {palette : UInt32 → Pixel}

/-- Every thread keeps to the protocol, and so does the driver's state. -/
structure Updating (b : Option Nat) (screen : Prop) (w : UpdateWorld) : Prop where
  fine : w.Fine (updateProtocol b screen) (fun _ => False) fun _ ph => ph = .outside
  binded : w.shared.fb.pa.bindedUsbdev = b
  within : screen → w.shared.fb.pa.dirtyRect.Within

theorem restingWorld_updating {fb : FbState} (h : AtRest b fb)
    (hwithin : screen → fb.pa.dirtyRect.Within) : Updating b screen (restingWorld fb) :=
  ⟨fun _ ht => absurd ht List.not_mem_nil, h.binded, hwithin⟩

/-- **An operation** that an update may ask is answered as the protocol says. -/
theorem RefreshState.exec_answer {s s' : RefreshState} {o : FbOp} {r : o.Res} {ph : UpdatePhase}
    {result : SendResult} (hpre : (updateProtocol b screen).pre ph o) (hbinded : s.fb.pa.bindedUsbdev = b)
    (hwithin : screen → s.fb.pa.dirtyRect.Within) (h : s.exec palette o result = some (r, s')) :
    (updateProtocol b screen).answer ph o r ∧ s'.fb.pa.bindedUsbdev = b ∧
      (screen → s'.fb.pa.dirtyRect.Within) := by
  cases o with
  | send dev c =>
      cases result with
      | sent =>
          obtain ⟨rfl, rfl⟩ := Prod.mk.inj (Option.some.inj h)
          exact ⟨trivial, hbinded, hwithin⟩
      | failed unsynced =>
          obtain ⟨rfl, rfl⟩ := Prod.mk.inj (Option.some.inj h)
          cases unsynced <;> exact ⟨trivial, hbinded, hwithin⟩
  | setUnsync =>
      obtain ⟨rfl, rfl⟩ := Prod.mk.inj (Option.some.inj h)
      exact ⟨trivial, hbinded, hwithin⟩
  | setDirtyRect rect =>
      obtain ⟨rfl, rfl⟩ := Prod.mk.inj (Option.some.inj h)
      exact ⟨trivial, hbinded, hpre⟩
  | clearDirtyRect =>
      obtain ⟨rfl, rfl⟩ := Prod.mk.inj (Option.some.inj h)
      exact ⟨trivial, hbinded, fun _ => Rect.empty_within⟩
  | lockOperation =>
      simp only [RefreshState.exec, FbState.exec] at h
      split at h
      · cases h
      · obtain ⟨rfl, rfl⟩ := Prod.mk.inj (Option.some.inj h)
        exact ⟨trivial, hbinded, hwithin⟩
  | bindedUsbdev =>
      obtain ⟨rfl, rfl⟩ := Prod.mk.inj (Option.some.inj h)
      exact ⟨hbinded, hbinded, hwithin⟩
  | dirtyRect =>
      obtain ⟨rfl, rfl⟩ := Prod.mk.inj (Option.some.inj h)
      exact ⟨hwithin, hbinded, hwithin⟩
  | _ =>
      obtain ⟨rfl, rfl⟩ := Prod.mk.inj (Option.some.inj h)
      exact ⟨trivial, hbinded, hwithin⟩

/-- **Step.**  Whatever happens next, the world keeps to the protocol. -/
theorem Updating.next {w w' : UpdateWorld} {e : UpdateEvent a} (h : Updating b screen w)
    (hscreen : screen → e.OnScreen) (hnext : nextUpdate palette w e = some w') :
    Updating b screen w' := by
  cases e with
  | call source =>
      obtain rfl := Option.some.inj hnext
      exact ⟨h.fine.spawn (source_wp hscreen), h.binded, h.within⟩
  | run i result =>
      obtain ⟨o, k, ph, r, s, hi, hexec, rfl⟩ := World.step_some hnext
      obtain ⟨hanswer, hbinded, hwithin⟩ :=
        RefreshState.exec_answer (h.fine.pre hi) h.binded h.within hexec
      exact ⟨h.fine.set hi hanswer s, hbinded, hwithin⟩

/-! ## What is sent -/

/-- The places in the framebuffer that the pointer of `rpusbdisp_usb_try_send_image` steps
over, in its order. -/
def rectPositions (x y right bottom lineWidth : Int) : List Int :=
  (List.range (bottom + 1 - y).toNat).flatMap fun (j : Nat) =>
    (List.range (right + 1 - x).toNat).map fun (i : Nat) => (y + j) * lineWidth + x + i

theorem rectPixels_eq (framebuffer : Int → Pixel) (x y right bottom lineWidth : Int) :
    rectPixels framebuffer x y right bottom lineWidth =
      (rectPositions x y right bottom lineWidth).map framebuffer := by
  simp only [rectPixels, rowPixels, rectPositions, List.map_flatMap, List.map_map,
    Function.comp_def]

/-- **Nothing else is read**: framebuffers that agree on these places are sent alike. -/
theorem trySendImage_reads (dev : Dev) {framebuffer framebuffer' : Int → Pixel}
    {x y right bottom lineWidth : Int} (clearDirty : Bool)
    (h : ∀ pos ∈ rectPositions x y right bottom lineWidth, framebuffer pos = framebuffer' pos) :
    trySendImage dev framebuffer x y right bottom lineWidth clearDirty =
      trySendImage dev framebuffer' x y right bottom lineWidth clearDirty := by
  have hpixels : rectPixels framebuffer x y right bottom lineWidth =
      rectPixels framebuffer' x y right bottom lineWidth := by
    rw [rectPixels_eq, rectPixels_eq]
    exact List.map_congr_left h
  simp only [trySendImage, encodeImage, sendRows_rect, hpixels]

/-- On the screen the pointer stays inside the framebuffer. -/
theorem rectPositions_inside {x y right bottom : Int} (h : InScreen x y right bottom) :
    ∀ pos ∈ rectPositions x y right bottom RP_DISP_DEFAULT_WIDTH,
      0 ≤ pos ∧ pos < RP_DISP_DEFAULT_WIDTH * RP_DISP_DEFAULT_HEIGHT := by
  obtain ⟨hleft, hwidth, hright, htop, hheight, hbottom⟩ := h
  intro pos hpos
  obtain ⟨j, hj, hrow⟩ := List.mem_flatMap.mp hpos
  obtain ⟨i, hi, rfl⟩ := List.mem_map.mp hrow
  rw [List.mem_range] at hi hj
  simp only [RP_DISP_DEFAULT_WIDTH, RP_DISP_DEFAULT_HEIGHT] at hright hbottom ⊢
  omega

/-- **Every image is on the screen.**  Whatever has happened, in whatever order and
however the sends came out, an image that is about to be sent has its sides on the
screen and in order, and every pixel read for it lies in the framebuffer. -/
theorem sends_in_screen {fb : FbState} (hrest : AtRest b fb) (hwithin : fb.pa.dirtyRect.Within)
    {w : UpdateWorld}
    (run : Runs.Run (nextUpdate palette) (fun _ (e : UpdateEvent a) => e.OnScreen)
      (restingWorld fb) w)
    {i dev : Nat} {r : Rect} {clearDirty : Bool} {k : Bool → FbProg Unit} {ph : UpdatePhase}
    (hi : w.threads[i]? = some ⟨.op (.send dev (.image r clearDirty)) k, ph⟩) :
    InScreen r.left r.top r.right r.bottom ∧
      ∀ pos ∈ rectPositions r.left r.top r.right r.bottom RP_DISP_DEFAULT_WIDTH,
        0 ≤ pos ∧ pos < RP_DISP_DEFAULT_WIDTH * RP_DISP_DEFAULT_HEIGHT := by
  have hupdating : Updating b True w :=
    run.invariant (restingWorld_updating hrest fun _ => hwithin)
      fun _ _ _ h hscreen hnext => h.next (fun _ => hscreen) hnext
  obtain ⟨_, hscreen, _⟩ := hupdating.fine.pre hi
  exact ⟨hscreen trivial, rectPositions_inside (hscreen trivial)⟩

/-- A device in step with its framebuffer. -/
def inStep : FbState := { justBound with pa := { justBound.pa with unsyncFlag := 0 } }

theorem inStep_atRest : AtRest (some 0) inStep := ⟨rfl, rfl⟩

/-- A deferred update without a page that counts leaves the dirty rectangle upside
down; then a pixel is drawn. -/
def upsideDown : List (UpdateEvent amd64) :=
  [.call (.defio [0x100000#64])] ++ List.replicate 7 (.run 0 .sent) ++
    [.call (.callback (.imageblit ⟨5, 5, 1, 1, fun _ => 7⟩))] ++ List.replicate 8 (.run 1 .sent)

theorem sends_in_screen_row : ∃ (w : UpdateWorld) (k : Bool → FbProg Unit) (ph : UpdatePhase),
    Runs.after (nextUpdate fun c => c.toUInt16) (restingWorld inStep) upsideDown = some w ∧
      w.threads[1]? = some ⟨.op (.send 0 (.image ⟨0, 5, 319, 5⟩ false)) k, ph⟩ ∧
      InScreen 0 5 319 5 ∧ ∀ pos ∈ rectPositions 0 5 319 5 RP_DISP_DEFAULT_WIDTH,
        0 ≤ pos ∧ pos < RP_DISP_DEFAULT_WIDTH * RP_DISP_DEFAULT_HEIGHT := by
  have hscreen : ∀ e ∈ upsideDown, e.OnScreen := by
    intro e he
    simp only [upsideDown, List.mem_append, List.mem_cons, List.mem_replicate, List.not_mem_nil,
      or_false] at he
    rcases he with ((rfl | ⟨_, rfl⟩) | rfl) | ⟨_, rfl⟩
    · trivial
    · trivial
    · exact ⟨by decide, by decide⟩
    · trivial
  have hrun : Runs.Run (nextUpdate fun c => c.toUInt16) (fun _ (e : UpdateEvent amd64) => e.OnScreen)
      (restingWorld inStep) _ :=
    Runs.Run.start.after upsideDown (Runs.allowedThrough_of_forall hscreen _) rfl
  exact ⟨_, _, _, rfl, rfl,
    sends_in_screen (i := 1) (r := ⟨0, 5, 319, 5⟩) inStep_atRest Rect.empty_within hrun rfl⟩

end Worlds

end RpUsbDisp
