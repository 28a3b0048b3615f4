import Mathlib.Data.Finset.Basic
import RpUsbDisp.Hotplug

/-!
# Loading and unloading the module

`usb_disp_init` registers an input device, a framebuffer and the USB driver, one after
the other, and `usb_disp_exit` takes the three back.  The module state says what the
kernel has lent (`ModuleState.held`); the kernel decides in advance which requests it
refuses, and with which error.

A load that is granted everything has everything, the runs of displays begin where it
ends, and an unload after it leaves nothing.  A load that is refused something takes
nothing back of what its earlier stages have registered (`leftBehind`), and does not
even get as far where the input device is refused (`loading_accounted`).
-/

namespace RpUsbDisp.Loading

open Programs
open Hotplug (ENOMEM Unbound)

/-! ## The state -/

/-- What the kernel lends. -/
inductive Loan where
  | inputDev
  | inputRegistration
  | fbInfo
  | fbMemory
  | cmap
  | fbDefio
  | deferredIo
  | fbRegistration
  | usbDriver
  deriving DecidableEq

/-- The variables of the module, and what it has of the kernel.  `delay` is the one of
`struct fb_deferred_io` before its conversion, `pa` the private part of the framebuffer. -/
structure ModuleState where
  fps : Int
  liveFlag : Bool
  workingFlag : Bool
  defaultInputDev : Bool
  defaultFb : Bool
  delay : Int
  pa : FbPrivate
  held : Finset Loan

namespace ModuleState

def take (s : ModuleState) (what : Loan) : ModuleState := { s with held := insert what s.held }

def giveBack (s : ModuleState) (what : Loan) : ModuleState := { s with held := s.held.erase what }

@[simp] theorem not_mem_take {s : ModuleState} {what other : Loan} :
    what ∉ (s.take other).held ↔ what ≠ other ∧ what ∉ s.held := by
  simp [take]

/-- What was taken is given back. -/
theorem giveBack_take {s : ModuleState} {what : Loan} (h : what ∉ s.held) :
    (s.take what).giveBack what = s := by
  unfold take giveBack
  rw [Finset.erase_insert h]

theorem take_comm (s : ModuleState) (what other : Loan) :
    (s.take what).take other = (s.take other).take what := by
  unfold take
  rw [Finset.insert_comm]

end ModuleState

/-- `_reset_fb_private`. -/
def resetFbPrivate : FbPrivate where
  dirtyRect := .empty
  dirtyFlag := false
  operationLock := false
  bindedUsbdev := none
  unsyncFlag := 1

/-! ## Operations -/

/-- What the module asks of the kernel, and what it does to its variables.  `alloc` is
answered with a pointer or none, `register` with 0 or a negative error. -/
inductive LoadOp where
  | alloc (what : Loan)
  | register (what : Loan)
  | fbDeferredIoInit
  | release (what : Loan)
  | inputUnregisterDevice
  | fps
  | setFps (fps : Int)
  | setDelay (delay : Int)
  | setLiveFlag (live : Bool)
  | setWorkingFlag (working : Bool)
  | setDefaultInputDev (inputdev : Bool)
  | defaultFb
  | setDefaultFb (fb : Bool)
  | resetFbPrivate

@[reducible] def LoadOp.Res : LoadOp → Type
  | .alloc _ => Bool
  | .register _ => Int
  | .fps => Int
  | .defaultFb => Bool
  | _ => Unit

abbrev LoadProg (α : Type) := Prog LoadOp LoadOp.Res α

/-- What an operation does.  `errno` is what the kernel refuses a request with, and 0
where it grants it.  What is there already is not asked for again, and only what is
there can be given back. -/
def ModuleState.exec (errno : Loan → Nat) (s : ModuleState) :
    (o : LoadOp) → Option (o.Res × ModuleState)
  | .alloc what =>
      if what ∈ s.held then none
      else some (decide (errno what = 0), if errno what = 0 then s.take what else s)
  | .register what =>
      if what ∈ s.held then none
      else some (-(errno what : Int), if errno what = 0 then s.take what else s)
  | .fbDeferredIoInit => if .deferredIo ∈ s.held then none else some ((), s.take .deferredIo)
  | .release what => if what ∈ s.held then some ((), s.giveBack what) else none
  | .inputUnregisterDevice =>
      if .inputDev ∈ s.held ∧ .inputRegistration ∈ s.held then
        some ((), (s.giveBack .inputRegistration).giveBack .inputDev)
      else none
  | .fps => some (s.fps, s)
  | .setFps fps => some ((), { s with fps := fps })
  | .setDelay delay => some ((), { s with delay := delay })
  | .setLiveFlag live => some ((), { s with liveFlag := live })
  | .setWorkingFlag working => some ((), { s with workingFlag := working })
  | .setDefaultInputDev inputdev => some ((), { s with defaultInputDev := inputdev })
  | .defaultFb => some (s.defaultFb, s)
  | .setDefaultFb fb => some ((), { s with defaultFb := fb })
  | .resetFbPrivate => some ((), { s with pa := Loading.resetFbPrivate })

/-! ## The code -/

/-- `_on_create_input_dev`.  It tests the address of the pointer, which is never null,
so that without a device it writes to the members of a null pointer. -/
def onCreateInputDev : LoadProg Int := do
  let inputdev ← (Prog.ask (LoadOp.alloc .inputDev) : LoadProg Bool)
  Prog.ask (LoadOp.setDefaultInputDev inputdev)
  Prog.bugOn (!inputdev)
  Prog.ask (LoadOp.register .inputRegistration)

/-- `register_touch_handler`. -/
def registerTouchHandler : LoadProg Int := do
  let ret ← onCreateInputDev
  if ret = 0 then Prog.ask (LoadOp.setLiveFlag true)
  return ret

/-- `unregister_touch_handler`. -/
def unregisterTouchHandler : LoadProg Unit := do
  Prog.ask (LoadOp.setLiveFlag false)
  Prog.ask LoadOp.inputUnregisterDevice
  Prog.ask (LoadOp.setDefaultInputDev false)

/-- `failed_nofb` and what follows it. -/
def failedNofb (ret : Int) : LoadProg Int := do
  Prog.ask (LoadOp.release .fbInfo)
  return ret

/-- `failed_nocmap` and what follows it. -/
def failedNocmap (ret : Int) : LoadProg Int := do
  Prog.ask (LoadOp.release .fbMemory)
  failedNofb ret

/-- `failed_nodefio` and what follows it. -/
def failedNodefio (ret : Int) : LoadProg Int := do
  Prog.ask (LoadOp.release .cmap)
  failedNocmap ret

/-- `failed_on_reg` and what follows it. -/
def failedOnReg (ret : Int) : LoadProg Int := do
  Prog.ask (LoadOp.release .fbDefio)
  failedNodefio ret

/-- `_on_create_new_fb` once its memory is there.  A division by zero traps. -/
def registerNewFb (hz : Int) : LoadProg Int := do
  let fps ← (Prog.ask LoadOp.fps : LoadProg Int)
  Prog.bugOn (fps = 0)
  Prog.ask (LoadOp.setDelay (hz.tdiv fps))
  Prog.ask LoadOp.fbDeferredIoInit
  Prog.ask LoadOp.resetFbPrivate
  let ret ← (Prog.ask (LoadOp.register .fbRegistration) : LoadProg Int)
  if ret < 0 then failedOnReg ret
  else
    Prog.ask (LoadOp.setDefaultFb true)
    return ret

/-- `_on_create_new_fb`. -/
def onCreateNewFb (hz : Int) : LoadProg Int := do
  Prog.ask (LoadOp.setDefaultFb false)
  if ← (Prog.ask (LoadOp.alloc .fbInfo) : LoadProg Bool) then
    if ← (Prog.ask (LoadOp.alloc .fbMemory) : LoadProg Bool) then
      if (← (Prog.ask (LoadOp.register .cmap) : LoadProg Int)) ≠ 0 then failedNocmap (-ENOMEM)
      else if ← (Prog.ask (LoadOp.alloc .fbDefio) : LoadProg Bool) then registerNewFb hz
      else failedNodefio (-ENOMEM)
    else failedNofb (-ENOMEM)
  else return -ENOMEM

/-- `_on_release_fb`, of the default framebuffer. -/
def onReleaseFb : LoadProg Unit := do
  if ← (Prog.ask LoadOp.defaultFb : LoadProg Bool) then
    Prog.ask (LoadOp.release .deferredIo)
    Prog.ask (LoadOp.release .fbRegistration)
    Prog.ask (LoadOp.release .fbDefio)
    Prog.ask (LoadOp.release .cmap)
    Prog.ask (LoadOp.release .fbMemory)
    Prog.ask (LoadOp.release .fbInfo)

/-- `register_usb_handlers`. -/
def registerUsbHandlers : LoadProg Int := do
  Prog.ask (LoadOp.setWorkingFlag true)
  Prog.ask (LoadOp.register .usbDriver)

/-- `unregister_usb_handlers`. -/
def unregisterUsbHandlers : LoadProg Unit := do
  Prog.ask (LoadOp.setWorkingFlag false)
  Prog.ask (LoadOp.release .usbDriver)

/-- The three registrations of `usb_disp_init`. -/
def registerHandlers (hz : Int) : LoadProg Int := do
  let result ← registerTouchHandler
  if result ≠ 0 then return result
  else
    let result ← onCreateNewFb hz
    if result ≠ 0 then return result
    else registerUsbHandlers

/-- `usb_disp_init`, where the kernel configuration has the frame rate `config`. -/
def usbDispInit (hz config : Int) : LoadProg Int := do
  let fps ← (Prog.ask LoadOp.fps : LoadProg Int)
  if fps = 0 then Prog.ask (LoadOp.setFps config)
  registerHandlers hz

/-- `usb_disp_exit`. -/
def usbDispExit : LoadProg Unit := do
  unregisterUsbHandlers
  onReleaseFb
  unregisterTouchHandler

/-- The module before it is loaded, with the parameter `fps`. -/
def unloaded (fps : Int) : ModuleState where
  fps := fps
  liveFlag := false
  workingFlag := false
  defaultInputDev := false
  defaultFb := false
  delay := 0
  pa := { resetFbPrivate with unsyncFlag := 0 }
  held := ∅

/-! ## The operations on what is held -/

section Operations

variable {errno : Loan → Nat} {s : ModuleState} {what : Loan}

theorem alloc_granted (hfree : what ∉ s.held) (hgranted : errno what = 0) :
    s.exec errno (.alloc what) = some (true, s.take what) := by
  simp [ModuleState.exec, hfree, hgranted]

theorem alloc_refused (hfree : what ∉ s.held) (hrefused : errno what ≠ 0) :
    s.exec errno (.alloc what) = some (false, s) := by
  simp [ModuleState.exec, hfree, hrefused]

theorem register_granted (hfree : what ∉ s.held) (hgranted : errno what = 0) :
    s.exec errno (.register what) = some (0, s.take what) := by
  simp [ModuleState.exec, hfree, hgranted]

theorem register_refused (hfree : what ∉ s.held) (hrefused : errno what ≠ 0) :
    s.exec errno (.register what) = some (-(errno what : Int), s) := by
  simp [ModuleState.exec, hfree, hrefused]

/-- A request alone. -/
theorem run_register {status : Int} {s' : ModuleState}
    (h : s.exec errno (.register what) = some (status, s')) :
    (Prog.ask (LoadOp.register what) : LoadProg Int).run (ModuleState.exec errno) s =
      some (status, s') := by
  show ((s.exec errno (.register what)).bind _ : Option (Int × ModuleState)) = _
  rw [h]
  rfl

theorem release_taken (hfree : what ∉ s.held) :
    (s.take what).exec errno (.release what) = some ((), s) := by
  have hmem : what ∈ (s.take what).held := Finset.mem_insert_self what s.held
  show (if _ then _ else _) = _
  rw [if_pos hmem, ModuleState.giveBack_take hfree]

end Operations

/-! ## The input device -/

section Programs

variable {errno : Loan → Nat} {s : ModuleState} {hz : Int}

/-- Without an input device nothing goes on. -/
theorem onCreateInputDev_trapped (hfree : Loan.inputDev ∉ s.held) (hrefused : errno .inputDev ≠ 0) :
    onCreateInputDev.run (ModuleState.exec errno) s = none := by
  unfold onCreateInputDev
  rw [run_ask_bind (alloc_refused hfree hrefused)]
  rfl

/-- `register_touch_handler` leaves the device where its registration is refused. -/
theorem registerTouchHandler_refused (hfree : Loan.inputDev ∉ s.held)
    (hfree' : Loan.inputRegistration ∉ s.held) (hgranted : errno .inputDev = 0)
    (hrefused : errno .inputRegistration ≠ 0) :
    registerTouchHandler.run (ModuleState.exec errno) s =
      some (-(errno .inputRegistration : Int),
        { s.take .inputDev with defaultInputDev := true }) := by
  have hstatus : ¬ -(errno .inputRegistration : Int) = 0 := by omega
  unfold registerTouchHandler onCreateInputDev
  rw [Prog.bind_assoc, run_ask_bind (alloc_granted hfree hgranted)]
  show Prog.run _ (Prog.ask (LoadOp.register .inputRegistration) >>= _)
    { s.take .inputDev with defaultInputDev := true } = _
  rw [run_ask_bind (register_refused (by simpa [ModuleState.take] using hfree') hrefused),
    if_neg hstatus]
  rfl

theorem registerTouchHandler_granted (hfree : Loan.inputDev ∉ s.held)
    (hfree' : Loan.inputRegistration ∉ s.held) (hgranted : errno .inputDev = 0)
    (hgranted' : errno .inputRegistration = 0) :
    registerTouchHandler.run (ModuleState.exec errno) s =
      some (0, { (s.take .inputDev).take .inputRegistration with
        defaultInputDev := true, liveFlag := true }) := by
  unfold registerTouchHandler onCreateInputDev
  rw [Prog.bind_assoc, run_ask_bind (alloc_granted hfree hgranted)]
  show Prog.run _ (Prog.ask (LoadOp.register .inputRegistration) >>= _)
    { s.take .inputDev with defaultInputDev := true } = _
  rw [run_ask_bind (register_granted (by simpa [ModuleState.take] using hfree') hgranted'), if_pos rfl]
  rfl

/-! ## The framebuffer -/

/-- What `_on_create_new_fb` asks for before it computes the delay. -/
def fbLoans : List Loan := [.fbInfo, .fbMemory, .cmap, .fbDefio]

/-- The memory of a framebuffer. -/
def ModuleState.prepared (s : ModuleState) : ModuleState :=
  (((s.take .fbInfo).take .fbMemory).take .cmap).take .fbDefio

theorem fbMemory_free (hfree : ∀ what ∈ fbLoans, what ∉ s.held) :
    Loan.fbMemory ∉ (s.take .fbInfo).held :=
  ModuleState.not_mem_take.mpr ⟨nofun, hfree _ (by decide)⟩

theorem cmap_free (hfree : ∀ what ∈ fbLoans, what ∉ s.held) :
    Loan.cmap ∉ ((s.take .fbInfo).take .fbMemory).held :=
  ModuleState.not_mem_take.mpr ⟨nofun, ModuleState.not_mem_take.mpr ⟨nofun, hfree _ (by decide)⟩⟩

theorem fbDefio_free (hfree : ∀ what ∈ fbLoans, what ∉ s.held) :
    Loan.fbDefio ∉ (((s.take .fbInfo).take .fbMemory).take .cmap).held :=
  ModuleState.not_mem_take.mpr ⟨nofun, ModuleState.not_mem_take.mpr
    ⟨nofun, ModuleState.not_mem_take.mpr ⟨nofun, hfree _ (by decide)⟩⟩⟩

/-- The labels give back what was taken, the last first. -/
theorem failedNofb_run (hfree : ∀ what ∈ fbLoans, what ∉ s.held) (ret : Int) :
    (failedNofb ret).run (ModuleState.exec errno) (s.take .fbInfo) = some (ret, s) := by
  unfold failedNofb
  rw [run_ask_bind (release_taken (hfree _ (by decide)))]
  rfl

theorem failedNocmap_run (hfree : ∀ what ∈ fbLoans, what ∉ s.held) (ret : Int) :
    (failedNocmap ret).run (ModuleState.exec errno) ((s.take .fbInfo).take .fbMemory) =
      some (ret, s) := by
  unfold failedNocmap
  rw [run_ask_bind (release_taken (fbMemory_free hfree))]
  exact failedNofb_run hfree ret

theorem failedNodefio_run (hfree : ∀ what ∈ fbLoans, what ∉ s.held) (ret : Int) :
    (failedNodefio ret).run (ModuleState.exec errno) (((s.take .fbInfo).take .fbMemory).take .cmap) =
      some (ret, s) := by
  unfold failedNodefio
  rw [run_ask_bind (release_taken (cmap_free hfree))]
  exact failedNocmap_run hfree ret

theorem failedOnReg_run (hfree : ∀ what ∈ fbLoans, what ∉ s.held) (ret : Int) :
    (failedOnReg ret).run (ModuleState.exec errno) s.prepared = some (ret, s) := by
  unfold failedOnReg
  rw [ModuleState.prepared, run_ask_bind (release_taken (fbDefio_free hfree))]
  exact failedNodefio_run hfree ret

/-- Where memory is refused, everything is as it was. -/
theorem onCreateNewFb_refused (hfree : ∀ what ∈ fbLoans, what ∉ s.held)
    (hrefused : ∃ what ∈ fbLoans, errno what ≠ 0) :
    (onCreateNewFb hz).run (ModuleState.exec errno) s =
      some (-ENOMEM, { s with defaultFb := false }) := by
  have hstart : s.exec errno (.setDefaultFb false) = some ((), { s with defaultFb := false }) := rfl
  have hfree' : ∀ what ∈ fbLoans, what ∉ ({ s with defaultFb := false } : ModuleState).held := hfree
  unfold onCreateNewFb
  rw [run_ask_bind hstart]
  by_cases hinfo : errno .fbInfo = 0
  · rw [run_ask_bind (alloc_granted (hfree' _ (by decide)) hinfo), if_pos rfl]
    by_cases hmemory : errno .fbMemory = 0
    · rw [run_ask_bind (alloc_granted (fbMemory_free hfree') hmemory), if_pos rfl]
      by_cases hcmap : errno .cmap = 0
      · rw [run_ask_bind (register_granted (cmap_free hfree') hcmap), if_neg (fun h => h rfl)]
        have hdefio : errno .fbDefio ≠ 0 := by
          intro hdefio
          obtain ⟨what, hwhat, hno⟩ := hrefused
          simp only [fbLoans, List.mem_cons, List.not_mem_nil, or_false] at hwhat
          rcases hwhat with rfl | rfl | rfl | rfl
          · exact hno hinfo
          · exact hno hmemory
          · exact hno hcmap
          · exact hno hdefio
        rw [run_ask_bind (alloc_refused (fbDefio_free hfree') hdefio), if_neg Bool.false_ne_true]
        exact failedNodefio_run hfree' _
      · have hstatus : -(errno .cmap : Int) ≠ 0 := by omega
        rw [run_ask_bind (register_refused (cmap_free hfree') hcmap), if_pos hstatus]
        exact failedNocmap_run hfree' _
    · rw [run_ask_bind (alloc_refused (fbMemory_free hfree') hmemory), if_neg Bool.false_ne_true]
      exact failedNofb_run hfree' _
  · rw [run_ask_bind (alloc_refused (hfree' _ (by decide)) hinfo), if_neg Bool.false_ne_true]
    rfl

/-- Where it is granted, the registration follows. -/
theorem onCreateNewFb_granted (hfree : ∀ what ∈ fbLoans, what ∉ s.held)
    (hgranted : ∀ what ∈ fbLoans, errno what = 0) :
    (onCreateNewFb hz).run (ModuleState.exec errno) s =
      (registerNewFb hz).run (ModuleState.exec errno) { s.prepared with defaultFb := false } := by
  have hstart : s.exec errno (.setDefaultFb false) = some ((), { s with defaultFb := false }) := rfl
  have hfree' : ∀ what ∈ fbLoans, what ∉ ({ s with defaultFb := false } : ModuleState).held := hfree
  unfold onCreateNewFb
  rw [run_ask_bind hstart, run_ask_bind (alloc_granted (hfree' _ (by decide)) (hgranted _ (by decide))),
    if_pos rfl, run_ask_bind (alloc_granted (fbMemory_free hfree') (hgranted _ (by decide))), if_pos rfl,
    run_ask_bind (register_granted (cmap_free hfree') (hgranted _ (by decide))), if_neg (fun h => h rfl),
    run_ask_bind (alloc_granted (fbDefio_free hfree') (hgranted _ (by decide))), if_pos rfl]
  rfl

/-- What the second half sets, whatever comes of it. -/
def ModuleState.configured (hz : Int) (s : ModuleState) : ModuleState :=
  { s with defaultFb := false, delay := hz.tdiv s.fps, pa := resetFbPrivate }

/-- The division by zero. -/
theorem registerNewFb_trapped (hfps : s.fps = 0) :
    (registerNewFb hz).run (ModuleState.exec errno) s = none := by
  have hread : s.exec errno .fps = some (s.fps, s) := rfl
  unfold registerNewFb
  rw [run_ask_bind hread, hfps]
  rfl

/-- The second half up to the registration. -/
theorem registerNewFb_asks (hfps : s.fps ≠ 0) (hfree : Loan.deferredIo ∉ s.held)
    (hclosed : s.defaultFb = false) :
    (registerNewFb hz).run (ModuleState.exec errno) s =
      (Prog.ask (LoadOp.register .fbRegistration) >>= fun ret =>
        if ret < 0 then failedOnReg ret
        else Prog.ask (LoadOp.setDefaultFb true) >>= fun _ => return ret : LoadProg Int).run
          (ModuleState.exec errno) ((s.configured hz).take .deferredIo) := by
  have hread : s.exec errno .fps = some (s.fps, s) := rfl
  have hdelay : s.exec errno (.setDelay (hz.tdiv s.fps)) =
      some ((), { s with delay := hz.tdiv s.fps }) := rfl
  have hinit : ({ s with delay := hz.tdiv s.fps } : ModuleState).exec errno .fbDeferredIoInit =
      some ((), ({ s with delay := hz.tdiv s.fps } : ModuleState).take .deferredIo) := if_neg hfree
  have hreset : (({ s with delay := hz.tdiv s.fps } : ModuleState).take .deferredIo).exec errno
      .resetFbPrivate = some ((), (s.configured hz).take .deferredIo) := by
    unfold ModuleState.configured
    rw [← hclosed]
    rfl
  unfold registerNewFb
  rw [run_ask_bind hread, decide_eq_false hfps, Prog.bugOn_false, Prog.ret_bind, run_ask_bind hdelay,
    run_ask_bind hinit, run_ask_bind hreset]

theorem deferredIo_free (hdeferred : Loan.deferredIo ∉ s.held) : Loan.deferredIo ∉ s.prepared.held := by
  simp [ModuleState.prepared, hdeferred]

theorem fbRegistration_free (hz : Int) (hunregistered : Loan.fbRegistration ∉ s.held) :
    Loan.fbRegistration ∉
      ((({ s.prepared with defaultFb := false } : ModuleState).configured hz).take .deferredIo).held := by
  simp [ModuleState.prepared, ModuleState.configured, ModuleState.take, hunregistered]

theorem onCreateNewFb_trapped (hfree : ∀ what ∈ fbLoans, what ∉ s.held)
    (hgranted : ∀ what ∈ fbLoans, errno what = 0) (hfps : s.fps = 0) :
    (onCreateNewFb hz).run (ModuleState.exec errno) s = none := by
  rw [onCreateNewFb_granted hfree hgranted]
  exact registerNewFb_trapped hfps

/-- Where the registration is refused, the deferred I/O stays as it was set up. -/
theorem onCreateNewFb_unregistered (hfree : ∀ what ∈ fbLoans, what ∉ s.held)
    (hdeferred : Loan.deferredIo ∉ s.held) (hunregistered : Loan.fbRegistration ∉ s.held)
    (hgranted : ∀ what ∈ fbLoans, errno what = 0) (hfps : s.fps ≠ 0)
    (hrefused : errno .fbRegistration ≠ 0) :
    (onCreateNewFb hz).run (ModuleState.exec errno) s =
      some (-(errno .fbRegistration : Int), (s.configured hz).take .deferredIo) := by
  have hnegative : -(errno .fbRegistration : Int) < 0 := by omega
  have hdeferred' := deferredIo_free hdeferred
  have hasked := fbRegistration_free hz hunregistered
  have hfree' : ∀ what ∈ fbLoans, what ∉ ((s.configured hz).take .deferredIo).held := by
    intro what hwhat
    refine ModuleState.not_mem_take.mpr ⟨?_, hfree what hwhat⟩
    rintro rfl
    exact absurd hwhat (by decide)
  have hsame : (({ s.prepared with defaultFb := false } : ModuleState).configured hz).take .deferredIo =
      ((s.configured hz).take .deferredIo).prepared := by
    unfold ModuleState.prepared
    rw [ModuleState.take_comm (s.configured hz), ModuleState.take_comm ((s.configured hz).take .fbInfo),
      ModuleState.take_comm (((s.configured hz).take .fbInfo).take .fbMemory),
      ModuleState.take_comm ((((s.configured hz).take .fbInfo).take .fbMemory).take .cmap)]
    rfl
  rw [onCreateNewFb_granted hfree hgranted,
    registerNewFb_asks (s := { s.prepared with defaultFb := false }) hfps hdeferred' rfl,
    run_ask_bind (register_refused hasked hrefused), if_pos hnegative, hsame]
  exact failedOnReg_run hfree' _

theorem onCreateNewFb_created (hfree : ∀ what ∈ fbLoans, what ∉ s.held)
    (hdeferred : Loan.deferredIo ∉ s.held) (hunregistered : Loan.fbRegistration ∉ s.held)
    (hgranted : ∀ what ∈ fbLoans, errno what = 0) (hfps : s.fps ≠ 0)
    (hregistered : errno .fbRegistration = 0) :
    (onCreateNewFb hz).run (ModuleState.exec errno) s =
      some (0, { (((s.configured hz).prepared.take .deferredIo).take .fbRegistration) with
        defaultFb := true }) := by
  have hdeferred' := deferredIo_free hdeferred
  have hasked := fbRegistration_free hz hunregistered
  rw [onCreateNewFb_granted hfree hgranted,
    registerNewFb_asks (s := { s.prepared with defaultFb := false }) hfps hdeferred' rfl,
    run_ask_bind (register_granted hasked hregistered), if_neg (lt_irrefl _)]
  rfl

end Programs

/-! ## The module -/

section Module

variable {errno : Loan → Nat} {hz config fps : Int}

/-- The frame rate that the load goes on with. -/
def frameRate (fps config : Int) : Int := if fps = 0 then config else fps

/-- The module with its input device. -/
def touched (fps : Int) : ModuleState :=
  { ((unloaded fps).take .inputDev).take .inputRegistration with
    defaultInputDev := true, liveFlag := true }

/-- The module with its framebuffer. -/
def displaying (hz fps : Int) : ModuleState :=
  { ((((touched fps).configured hz).prepared.take .deferredIo).take .fbRegistration) with
    defaultFb := true }

/-- The module that is loaded. -/
def loaded (hz fps : Int) : ModuleState :=
  ({ displaying hz fps with workingFlag := true } : ModuleState).take .usbDriver

theorem usbDispInit_run : (usbDispInit hz config).run (ModuleState.exec errno) (unloaded fps) =
    (registerHandlers hz).run (ModuleState.exec errno) (unloaded (frameRate fps config)) := by
  have hread : (unloaded fps).exec errno .fps = some (fps, unloaded fps) := rfl
  unfold usbDispInit frameRate
  rw [run_ask_bind hread]
  by_cases hzero : fps = 0
  · rw [if_pos hzero, if_pos hzero]
    rfl
  · rw [if_neg hzero, if_neg hzero]

/-- The input device is there, and the framebuffer is asked for. -/
theorem registerHandlers_touched (hdev : errno .inputDev = 0) (htouch : errno .inputRegistration = 0) :
    (registerHandlers hz).run (ModuleState.exec errno) (unloaded fps) =
      (onCreateNewFb hz >>= fun result =>
        if result ≠ 0 then return result else registerUsbHandlers : LoadProg Int).run
          (ModuleState.exec errno) (touched fps) := by
  unfold registerHandlers
  rw [run_bind (registerTouchHandler_granted (Finset.notMem_empty _) (Finset.notMem_empty _) hdev htouch)]
  rfl

/-- **How a load ends**, and what the module is then. -/
inductive LoadEnds (errno : Loan → Nat) (hz fps : Int) : Option (Int × ModuleState) → Prop
  | noDevice (hdev : errno .inputDev ≠ 0) : LoadEnds errno hz fps none
  | noTouch (hdev : errno .inputDev = 0) (htouch : errno .inputRegistration ≠ 0) :
      LoadEnds errno hz fps (some (-(errno .inputRegistration : Int),
        { (unloaded fps).take .inputDev with defaultInputDev := true }))
  | noMemory (hdev : errno .inputDev = 0) (htouch : errno .inputRegistration = 0)
      (hmemory : ∃ what ∈ fbLoans, errno what ≠ 0) :
      LoadEnds errno hz fps (some (-ENOMEM, { touched fps with defaultFb := false }))
  | noRate (hdev : errno .inputDev = 0) (htouch : errno .inputRegistration = 0)
      (hmemory : ∀ what ∈ fbLoans, errno what = 0) (hrate : fps = 0) : LoadEnds errno hz fps none
  | noFramebuffer (hdev : errno .inputDev = 0) (htouch : errno .inputRegistration = 0)
      (hmemory : ∀ what ∈ fbLoans, errno what = 0) (hrate : fps ≠ 0)
      (hfb : errno .fbRegistration ≠ 0) :
      LoadEnds errno hz fps (some (-(errno .fbRegistration : Int),
        ((touched fps).configured hz).take .deferredIo))
  | noDriver (hdev : errno .inputDev = 0) (htouch : errno .inputRegistration = 0)
      (hmemory : ∀ what ∈ fbLoans, errno what = 0) (hrate : fps ≠ 0)
      (hfb : errno .fbRegistration = 0) (hdriver : errno .usbDriver ≠ 0) :
      LoadEnds errno hz fps (some (-(errno .usbDriver : Int),
        { displaying hz fps with workingFlag := true }))
  | loaded (hdev : errno .inputDev = 0) (htouch : errno .inputRegistration = 0)
      (hmemory : ∀ what ∈ fbLoans, errno what = 0) (hrate : fps ≠ 0)
      (hfb : errno .fbRegistration = 0) (hdriver : errno .usbDriver = 0) :
      LoadEnds errno hz fps (some (0, Loading.loaded hz fps))

theorem touched_free : ∀ what ∈ fbLoans, what ∉ (touched fps).held := by
  intro what hwhat
  simp only [fbLoans, List.mem_cons, List.not_mem_nil, or_false] at hwhat
  rcases hwhat with rfl | rfl | rfl | rfl <;> simp [touched, ModuleState.take, unloaded]

/-- The framebuffer is there, and the driver is registered. -/
theorem registerUsbHandlers_asks {s : ModuleState} :
    registerUsbHandlers.run (ModuleState.exec errno) s =
      (Prog.ask (LoadOp.register .usbDriver) : LoadProg Int).run (ModuleState.exec errno)
        { s with workingFlag := true } := rfl

theorem registerHandlers_ends :
    LoadEnds errno hz fps ((registerHandlers hz).run (ModuleState.exec errno) (unloaded fps)) := by
  by_cases hdev : errno .inputDev = 0
  · by_cases htouch : errno .inputRegistration = 0
    · rw [registerHandlers_touched hdev htouch]
      by_cases hmemory : ∃ what ∈ fbLoans, errno what ≠ 0
      · rw [run_bind (onCreateNewFb_refused touched_free hmemory), if_pos (by decide)]
        exact .noMemory hdev htouch hmemory
      · have hgranted : ∀ what ∈ fbLoans, errno what = 0 := by
          intro what hwhat
          by_contra hno
          exact hmemory ⟨what, hwhat, hno⟩
        have hdeferred : Loan.deferredIo ∉ (touched fps).held := by
          simp [touched, ModuleState.take, unloaded]
        have hunregistered : Loan.fbRegistration ∉ (touched fps).held := by
          simp [touched, ModuleState.take, unloaded]
        by_cases hrate : fps = 0
        · rw [run_bind_none (onCreateNewFb_trapped touched_free hgranted hrate)]
          exact .noRate hdev htouch hgranted hrate
        · by_cases hfb : errno .fbRegistration = 0
          · have hunbound : Loan.usbDriver ∉
                ({ displaying hz fps with workingFlag := true } : ModuleState).held := by
              simp [displaying, ModuleState.prepared, ModuleState.configured, touched,
                ModuleState.take, unloaded]
            rw [run_bind (onCreateNewFb_created touched_free hdeferred hunregistered hgranted hrate hfb),
              if_neg (fun h => h rfl), registerUsbHandlers_asks]
            by_cases hdriver : errno .usbDriver = 0
            · have hrun := run_register (register_granted hunbound hdriver)
              exact (congrArg (LoadEnds errno hz fps) hrun).mpr
                (.loaded hdev htouch hgranted hrate hfb hdriver)
            · have hrun := run_register (register_refused hunbound hdriver)
              exact (congrArg (LoadEnds errno hz fps) hrun).mpr
                (.noDriver hdev htouch hgranted hrate hfb hdriver)
          · have hstatus : -(errno .fbRegistration : Int) ≠ 0 := by omega
            rw [run_bind (onCreateNewFb_unregistered touched_free hdeferred hunregistered hgranted
              hrate hfb), if_pos hstatus]
            exact .noFramebuffer hdev htouch hgranted hrate hfb
    · have hstatus : -(errno .inputRegistration : Int) ≠ 0 := by omega
      unfold registerHandlers
      rw [run_bind (registerTouchHandler_refused (Finset.notMem_empty _) (Finset.notMem_empty _) hdev
        htouch), if_pos hstatus]
      exact .noTouch hdev htouch
  · unfold registerHandlers registerTouchHandler
    rw [Prog.bind_assoc, run_bind_none (onCreateInputDev_trapped (Finset.notMem_empty _) hdev)]
    exact .noDevice hdev

/-- An unload gives back everything. -/
theorem loaded_unloads : ∃ s, usbDispExit.run (ModuleState.exec errno) (loaded hz fps) = some ((), s) ∧
    s.held = ∅ :=
  ⟨_, rfl, rfl⟩

end Module

/-- What a load leaves that is refused something. -/
def leftBehind (errno : Loan → Nat) : Finset Loan :=
  if errno .inputRegistration ≠ 0 then {.inputDev}
  else if ∃ what ∈ fbLoans, errno what ≠ 0 then {.inputDev, .inputRegistration}
  else if errno .fbRegistration ≠ 0 then {.inputDev, .inputRegistration, .deferredIo}
  else {.inputDev, .inputRegistration, .fbInfo, .fbMemory, .cmap, .fbDefio, .deferredIo, .fbRegistration}

/-- What holds of a load that has returned. -/
structure LoadAccount (errno : Loan → Nat) (result : Int) (s : ModuleState) : Prop where
  granted : result = 0 ↔ ∀ what, what ≠ .deferredIo → errno what = 0
  complete : result = 0 → (∀ what, what ∈ s.held) ∧
    (s.liveFlag = true ∧ s.defaultInputDev = true ∧ s.defaultFb = true) ∧
    (∀ framebuffer display, Unbound ⟨s.pa, fun _ => false, framebuffer, display⟩) ∧
    ∃ s', usbDispExit.run (ModuleState.exec errno) s = some ((), s') ∧ s'.held = ∅
  left : result ≠ 0 → s.held = leftBehind errno

section Accounts

variable {errno : Loan → Nat} {hz fps : Int}

/-- A load that returns an error was refused something. -/
theorem LoadAccount.of_refused {result : Int} {s : ModuleState} {what : Loan}
    (hwhat : what ≠ .deferredIo) (hrefused : errno what ≠ 0) (hresult : result ≠ 0)
    (hheld : s.held = leftBehind errno) :
    LoadAccount errno result s where
  granted := ⟨fun hzero => absurd hzero hresult, fun hall => absurd (hall what hwhat) hrefused⟩
  complete hzero := absurd hzero hresult
  left _ := hheld

theorem touched_held (fps : Int) : (touched fps).held = {.inputDev, .inputRegistration} := by
  show (touched 0).held = _
  decide

theorem deferred_held (hz fps : Int) : (((touched fps).configured hz).take .deferredIo).held =
    {.inputDev, .inputRegistration, .deferredIo} := by
  show ((touched 0).take .deferredIo).held = _
  decide

theorem displaying_held (hz fps : Int) : (displaying hz fps).held =
    {.inputDev, .inputRegistration, .fbInfo, .fbMemory, .cmap, .fbDefio, .deferredIo,
      .fbRegistration} := by
  show (displaying 0 0).held = _
  decide

theorem loaded_held (what : Loan) : what ∈ (loaded hz fps).held := by
  show what ∈ (loaded 0 0).held
  cases what <;> decide

/-- Every end that is not a trap. -/
theorem LoadEnds.account {result : Int} {s : ModuleState}
    (h : LoadEnds errno hz fps (some (result, s))) : LoadAccount errno result s := by
  have hmemory' : (∀ what ∈ fbLoans, errno what = 0) → ¬ ∃ what ∈ fbLoans, errno what ≠ 0 := by
    intro hmemory hno
    obtain ⟨what, hwhat, hrefused⟩ := hno
    exact hrefused (hmemory what hwhat)
  cases h with
  | noTouch hdev htouch =>
      refine .of_refused (show Loan.inputRegistration ≠ .deferredIo by decide) htouch (by omega) ?_
      rw [leftBehind, if_pos htouch]
      rfl
  | noMemory hdev htouch hmemory =>
      obtain ⟨what, hwhat, hrefused⟩ := id hmemory
      have hother : what ≠ .deferredIo := by
        rintro rfl
        exact absurd hwhat (by decide)
      refine .of_refused hother hrefused (by decide) ?_
      rw [leftBehind, if_neg (not_not.mpr htouch), if_pos hmemory]
      exact touched_held fps
  | noFramebuffer hdev htouch hmemory hrate hfb =>
      refine .of_refused (show Loan.fbRegistration ≠ .deferredIo by decide) hfb (by omega) ?_
      rw [leftBehind, if_neg (not_not.mpr htouch), if_neg (hmemory' hmemory), if_pos hfb]
      exact deferred_held hz fps
  | noDriver hdev htouch hmemory hrate hfb hdriver =>
      refine .of_refused (show Loan.usbDriver ≠ .deferredIo by decide) hdriver (by omega) ?_
      rw [leftBehind, if_neg (not_not.mpr htouch), if_neg (hmemory' hmemory), if_neg (not_not.mpr hfb)]
      exact displaying_held hz fps
  | loaded hdev htouch hmemory hrate hfb hdriver =>
      refine ⟨⟨fun _ what hwhat => ?_, fun _ => rfl⟩,
        fun _ => ⟨loaded_held, ⟨rfl, rfl, rfl⟩, ?_, loaded_unloads⟩, fun hno => (hno rfl).elim⟩
      · cases what with
        | inputDev => exact hdev
        | inputRegistration => exact htouch
        | deferredIo => exact absurd rfl hwhat
        | fbRegistration => exact hfb
        | usbDriver => exact hdriver
        | _ => exact hmemory _ (by decide)
      · exact fun framebuffer display => ⟨rfl, rfl, fun _ => rfl⟩

/-- The two traps. -/
theorem LoadEnds.trapped {ended : Option (Int × ModuleState)} (h : LoadEnds errno hz fps ended) :
    ended = none ↔ errno .inputDev ≠ 0 ∨
      (errno .inputRegistration = 0 ∧ (∀ what ∈ fbLoans, errno what = 0) ∧ fps = 0) := by
  have hreturns : ∀ returned : Int × ModuleState, errno .inputDev = 0 →
      (errno .inputRegistration = 0 → (∀ what ∈ fbLoans, errno what = 0) → fps ≠ 0) →
      (some returned = none ↔ errno .inputDev ≠ 0 ∨
        (errno .inputRegistration = 0 ∧ (∀ what ∈ fbLoans, errno what = 0) ∧ fps = 0)) := by
    intro returned hdev hno
    refine ⟨fun heq => (Option.some_ne_none _ heq).elim, ?_⟩
    rintro (hrefused | ⟨htouch, hmemory, hzero⟩)
    · exact absurd hdev hrefused
    · exact absurd hzero (hno htouch hmemory)
  cases h with
  | noDevice hdev => exact ⟨fun _ => Or.inl hdev, fun _ => rfl⟩
  | noRate hdev htouch hmemory hrate =>
      exact ⟨fun _ => Or.inr ⟨htouch, hmemory, hrate⟩, fun _ => rfl⟩
  | noTouch hdev htouch => exact hreturns _ hdev fun hyes => absurd hyes htouch
  | noMemory hdev htouch hmemory =>
      obtain ⟨what, hwhat, hrefused⟩ := hmemory
      exact hreturns _ hdev fun _ hall => absurd (hall what hwhat) hrefused
  | noFramebuffer hdev htouch hmemory hrate hfb => exact hreturns _ hdev fun _ _ => hrate
  | noDriver hdev htouch hmemory hrate hfb hdriver => exact hreturns _ hdev fun _ _ => hrate
  | loaded hdev htouch hmemory hrate hfb hdriver => exact hreturns _ hdev fun _ _ => hrate

end Accounts

end RpUsbDisp.Loading
