import Mathlib.Logic.Function.Basic
import RpUsbDisp.TicketPool
import RpUsbDisp.Updates

/-!
# Displays that come and go

The driver with any number of displays: `rpusbdisp_probe` and
`rpusbdisp_disconnect` next to the drawing callbacks, the completion works, and the
completions of display and status URBs.  Everything is a thread of atomic
operations, and every send is the whole call it is.

A display is named by the allocation of its `struct rpusbdisp_dev`, so no name
comes back.  `info` says what probing reads off its descriptors.  Of the device
list, the touch handler, and what is given back to the kernel only the calls are
kept.
-/

namespace RpUsbDisp.Hotplug

open Programs

/-! ## The state -/

/-- The USB core's side of a display: not probed yet, in `rpusbdisp_probe`, driven,
in `rpusbdisp_disconnect`, or not driven any more. -/
inductive CoreState where
  | unknown
  | probing
  | attached
  | leaving
  | gone
  deriving DecidableEq

/-- `struct rpusbdisp_dev`, and what the kernel has of it: the status URB, its
completion handlers that have not returned, whether `completion_work` is queued and
how often it runs.  The last three fields are the history of its removal: whether
`usb_kill_urb` and `cancel_delayed_work_sync` have returned, and how many tickets have
been released. -/
structure DisplayState where
  usb : UsbState
  urbStatusFailCount : Nat
  statusInFlight : Bool
  statusHandlers : Nat
  workQueued : Bool
  workRunning : Nat
  core : CoreState
  killed : Bool
  cancelled : Bool
  taken : Nat

/-- What `kzalloc` hands out. -/
def DisplayState.zero : DisplayState where
  usb := ⟨false, ⟨[], 0, 0⟩, []⟩
  urbStatusFailCount := 0
  statusInFlight := false
  statusHandlers := 0
  workQueued := false
  workRunning := 0
  core := .unknown
  killed := false
  cancelled := false
  taken := 0

/-- `_mutex_devreg`, the framebuffer driver, and the displays. -/
structure HostState where
  devreg : Bool
  fb : FbState
  dev : Nat → DisplayState

namespace HostState

/-- Another state of display `d`. -/
def setDev (s : HostState) (d : Nat) (x : DisplayState) : HostState :=
  { s with dev := Function.update s.dev d x }

@[simp] theorem setDev_same (s : HostState) (d : Nat) (x : DisplayState) :
    (s.setDev d x).dev d = x := by
  simp [setDev]

theorem setDev_other (s : HostState) {d d' : Nat} (x : DisplayState) (h : d' ≠ d) :
    (s.setDev d x).dev d' = s.dev d' := by
  simp [setDev, h]

@[simp] theorem setDev_fb (s : HostState) (d : Nat) (x : DisplayState) : (s.setDev d x).fb = s.fb := rfl

@[simp] theorem setDev_devreg (s : HostState) (d : Nat) (x : DisplayState) :
    (s.setDev d x).devreg = s.devreg := rfl

end HostState

/-! ## Operations -/

/-- What may be refused: memory, the two endpoints, a URB, and the endpoint behind a pipe. -/
inductive Request where
  | kzalloc
  | endpoints
  | usbAllocUrb
  | usbPipeEndpoint

/-- Calls that leave this state alone. -/
inductive Aside where
  | addUsbdevToList
  | delUsbdevFromList
  | touchhandlerOnNewDevice
  | touchhandlerOnRemoveDevice
  | touchhandlerSendTsEvent (x y : UInt32) (touch : Bool)
  | usbClearHalt
  | usbFreeUrb
  | freeTicket (t : Ticket)

/-- What a thread does atomically to one display. -/
inductive DisplayOp where
  | usb (o : UsbOp)
  | request (what : Request)
  | aside (what : Aside)
  | allocDispTickets
  | setAlive (alive : Bool)
  | statusFailCount
  | setStatusFailCount (count : Nat)
  | submitStatusUrb
  | killStatusUrb
  | cancelDelayedWorkSync
  | dispUrbCount
  | takeTicket
  | kfree
  | statusHandled
  | workDone
  | probed (retval : Int)
  | disconnected

@[reducible] def DisplayOp.Res : DisplayOp → Type
  | .usb o => o.Res
  | .request _ => Bool
  | .allocDispTickets => Bool
  | .statusFailCount => Nat
  | .submitStatusUrb => Int
  | .dispUrbCount => Nat
  | .takeTicket => Ticket
  | _ => Unit

/-- What a thread of the driver does atomically.  `callDisplay` begins a
`rpusbdisp_usb_try_` call, whose own operations follow; the answer is the framebuffer
it reads. -/
inductive HostOp where
  | fb (o : FbOp)
  | dev (d : Nat) (o : DisplayOp)
  | callDisplay (d : Nat) (c : Send)
  | lockDevreg
  | unlockDevreg
  | setBindedUsbdev (binded : Option Nat)
  | setFbhandle (d : Nat) (handle : Bool)

@[reducible] def HostOp.Res : HostOp → Type
  | .fb o => o.Res
  | .dev _ o => o.Res
  | .callDisplay _ _ => Int → Pixel
  | _ => Unit

abbrev HostProg (α : Type) := Prog HostOp HostOp.Res α

/-- What the kernel decides: how a submission comes out, whether a request is granted,
and the buffers there are for tickets. -/
structure HostChoice where
  submit : SubmitResult := .submitted
  granted : Bool := true
  buffers : Buffers := .zeros 0 (Nat.zero_le _)

/-- What `usb_submit_urb` returns. -/
def HostChoice.status (c : HostChoice) : Int :=
  match c.submit with
  | .submitted => 0
  | .refused status => if status = 0 then -1 else status

/-- `schedule_delayed_work` reaches beyond the display pipe. -/
def DisplayState.notify (x : DisplayState) : UsbOp → DisplayState
  | .scheduleCompletionWork => { x with workQueued := true }
  | _ => x

/-- What an operation does to a display.  The end of the status URB and its handler
is waited for, and so are the end of the running work and a ticket in the pool. -/
def DisplayState.exec (dev : Dev) (x : DisplayState) :
    (o : DisplayOp) → HostChoice → Option (o.Res × DisplayState)
  | .usb o, c => (x.usb.exec o c.submit).map fun r => (r.1, { x.notify o with usb := r.2 })
  | .request _, c => some (c.granted, x)
  | .aside _, _ => some ((), x)
  | .allocDispTickets, c =>
      some (decide (0 < c.buffers.list.length),
        { x with usb := { x.usb with pool := allocDispTicketsPool dev c.buffers.list } })
  | .setAlive alive, _ => some ((), { x with usb := { x.usb with isAlive := alive } })
  | .statusFailCount, _ => some (x.urbStatusFailCount, x)
  | .setStatusFailCount count, _ => some ((), { x with urbStatusFailCount := count })
  | .submitStatusUrb, c =>
      some (c.status, { x with statusInFlight := x.statusInFlight || c.submit = .submitted })
  | .killStatusUrb, _ =>
      if x.statusInFlight ∨ x.statusHandlers ≠ 0 then none else some ((), { x with killed := true })
  | .cancelDelayedWorkSync, _ =>
      if x.workRunning ≠ 0 then none
      else some ((), { x with workQueued := false, cancelled := true })
  | .dispUrbCount, _ => some (x.usb.pool.dispUrbCount, x)
  | .takeTicket, _ =>
      match x.usb.pool.availiableCount, x.usb.pool.list with
      | n + 1, t :: rest =>
          some (t, { x with
            usb := { x.usb with
              pool := { x.usb.pool with list := rest, availiableCount := n } }
            taken := x.taken + 1 })
      | _, _ => none
  | .kfree, _ => some ((), x)
  | .statusHandled, _ => some ((), { x with statusHandlers := x.statusHandlers - 1 })
  | .workDone, _ => some ((), { x with workRunning := x.workRunning - 1 })
  | .probed retval, _ => some ((), { x with core := if retval = 0 then .attached else .gone })
  | .disconnected, _ => some ((), { x with core := .gone })

/-- What an operation does.  A lock that is taken is waited for. -/
def HostState.exec (info : Nat → Dev) (palette : UInt32 → Pixel) (s : HostState) :
    (o : HostOp) → HostChoice → Option (o.Res × HostState)
  | .fb o, _ => (s.fb.exec palette o).map fun r => (r.1, { s with fb := r.2 })
  | .dev d o, c => ((s.dev d).exec (info d) o c).map fun r => (r.1, s.setDev d r.2)
  | .callDisplay _ _, _ => some (Image.memory s.fb.framebuffer, s)
  | .lockDevreg, _ => if s.devreg then none else some ((), { s with devreg := true })
  | .unlockDevreg, _ => some ((), { s with devreg := false })
  | .setBindedUsbdev binded, _ =>
      some ((), { s with fb := { s.fb with pa := { s.fb.pa with bindedUsbdev := binded } } })
  | .setFbhandle d handle, _ =>
      some ((), { s with fb := { s.fb with fbHandle := Function.update s.fb.fbHandle d handle } })

/-! ## The code -/

/-- A part of the framebuffer driver that sends nothing. -/
def framebufferPart {α : Type} (p : FbProg α) : HostProg α :=
  p.expand fun o => Prog.ask (HostOp.fb o)

/-- An operation of the display pipe of `dev`; `fbhandler_set_unsync_flag` is code. -/
def usbProg (dev : Nat) : (o : UsbOp) → HostProg o.Res
  | .setUnsyncFlag => framebufferPart (fbhandlerSetUnsync dev)
  | o => Prog.ask (HostOp.dev dev (.usb o))

/-- A part of the display pipe of `dev`. -/
def pipe {α : Type} (dev : Nat) (p : UsbProg α) : HostProg α :=
  p.expand (usbProg dev)

/-- The `rpusbdisp_usb_try_` call of a send. -/
def sendProg (info : Nat → Dev) (dev : Nat) (c : Send) : HostProg Bool := do
  let framebuffer ← (Prog.ask (HostOp.callDisplay dev c) : HostProg (Int → Pixel))
  pipe dev ((c.command framebuffer).prog (info dev))

/-- An operation of the framebuffer driver, where a send is a whole call. -/
def fbProg (info : Nat → Dev) : (o : FbOp) → HostProg o.Res
  | .send dev c => sendProg info dev c
  | o => Prog.ask (HostOp.fb o)

/-- A part of the framebuffer driver. -/
def drawing {α : Type} (info : Nat → Dev) (p : FbProg α) : HostProg α :=
  p.expand (fbProg info)

/-- `fbhandler_on_new_device`. -/
def fbhandlerOnNewDevice (dev : Nat) : HostProg Int := do
  Prog.ask HostOp.lockDevreg
  match ← (Prog.ask (HostOp.fb .bindedUsbdev) : HostProg (Option Nat)) with
  | some _ =>
      Prog.ask HostOp.unlockDevreg
      return -1
  | none =>
      Prog.ask (HostOp.fb .lockOperation)
      Prog.ask (HostOp.setBindedUsbdev (some dev))
      Prog.ask (HostOp.setFbhandle dev true)
      Prog.ask (HostOp.fb .unlockOperation)
      Prog.ask HostOp.unlockDevreg
      return 0

/-- `fbhandler_on_remove_device`; there is no other framebuffer than the default one. -/
def fbhandlerOnRemoveDevice (dev : Nat) : HostProg Unit := do
  let fb ← (Prog.ask (HostOp.fb (.fbHandle dev)) : HostProg Bool)
  Prog.ask HostOp.lockDevreg
  if fb then
    Prog.ask (HostOp.fb .lockOperation)
    Prog.ask (HostOp.setBindedUsbdev none)
    Prog.ask (HostOp.setFbhandle dev false)
    Prog.ask (HostOp.fb .unlockOperation)
  Prog.ask HostOp.unlockDevreg

def ENOMEM : Int := 12
def EPIPE : Int := 32

def RPUSBDISP_STATUS_QUERY_RETRY_COUNT : Nat := 4

def RPUSBDISP_STATUS_TYPE_NORMAL : UInt8 := 0

def RPUSBDISP_TOUCH_STATUS_PRESSED : UInt8 := 1

/-- `struct rpusbdisp_status_normal_packet_t`, as the status buffer reads. -/
structure StatusNormalPacket where
  packetType : UInt8
  displayStatus : UInt8
  touchStatus : UInt8
  touchX : UInt32
  touchY : UInt32

/-- `_status_start_querying`. -/
def statusStartQuerying (dev : Nat) : HostProg Unit := do
  if ← (Prog.ask (HostOp.dev dev (.usb .isAlive)) : HostProg Bool) then
    let failCount ← (Prog.ask (HostOp.dev dev .statusFailCount) : HostProg Nat)
    if failCount ≥ RPUSBDISP_STATUS_QUERY_RETRY_COUNT then return ()
    else if ← (Prog.ask (HostOp.dev dev (.request .usbPipeEndpoint)) : HostProg Bool) then
      let status ← (Prog.ask (HostOp.dev dev .submitStatusUrb) : HostProg Int)
      if status ≠ 0 then
        if status = -EPIPE then Prog.ask (HostOp.dev dev (.aside .usbClearHalt))
        let failCount ← (Prog.ask (HostOp.dev dev .statusFailCount) : HostProg Nat)
        Prog.ask (HostOp.dev dev (.setStatusFailCount (failCount + 1)))

/-- `_on_parse_status_packet`. -/
def onParseStatusPacket (dev : Nat) (packet : StatusNormalPacket) : HostProg Unit := do
  if packet.packetType = RPUSBDISP_STATUS_TYPE_NORMAL then
    if packet.displayStatus &&& RPUSBDISP_DISPLAY_STATUS_DIRTY_FLAG ≠ 0 then
      framebufferPart (fbhandlerSetUnsync dev)
      Prog.ask (HostOp.dev dev (.usb .scheduleCompletionWork))
    Prog.ask (HostOp.dev dev (.aside (.touchhandlerSendTsEvent packet.touchX packet.touchY
      (packet.touchStatus = RPUSBDISP_TOUCH_STATUS_PRESSED))))

/-- `_on_status_query_finished`; `packet` is what the status buffer holds by then. -/
def onStatusQueryFinished (dev : Nat) (status : Int) (packet : StatusNormalPacket) :
    HostProg Unit := do
  if ← (Prog.ask (HostOp.dev dev (.usb .isAlive)) : HostProg Bool) then
    if status = 0 then onParseStatusPacket dev packet
    else Prog.ask (HostOp.dev dev (.setStatusFailCount RPUSBDISP_STATUS_QUERY_RETRY_COUNT))
    let failCount ← (Prog.ask (HostOp.dev dev .statusFailCount) : HostProg Nat)
    if failCount < RPUSBDISP_STATUS_QUERY_RETRY_COUNT then statusStartQuerying dev

/-- `_on_display_transfer_finished_delaywork`. -/
def onDisplayTransferFinishedDelaywork (info : Nat → Dev) (dev : Nat) : HostProg Unit := do
  if ← (Prog.ask (HostOp.dev dev (.usb .isAlive)) : HostProg Bool) then
    drawing info (fbhandlerOnAllTransferDone dev)

/-- `_on_new_usb_device`. -/
def onNewUsbDevice (dev : Nat) : HostProg Int := do
  if ← (Prog.ask (HostOp.dev dev (.request .usbAllocUrb)) : HostProg Bool) then
    if ← (Prog.ask (HostOp.dev dev .allocDispTickets) : HostProg Bool) then
      Prog.ask (HostOp.dev dev (.aside .addUsbdevToList))
      Prog.ask (HostOp.dev dev (.setAlive true))
      statusStartQuerying dev
      let _ ← fbhandlerOnNewDevice dev
      Prog.ask (HostOp.dev dev (.aside .touchhandlerOnNewDevice))
      framebufferPart (fbhandlerSetUnsync dev)
      Prog.ask (HostOp.dev dev (.usb .scheduleCompletionWork))
      return 0
    else
      Prog.ask (HostOp.dev dev (.aside .usbFreeUrb))
      return -ENOMEM
  else return -ENOMEM

/-- `rpusbdisp_probe`. -/
def rpusbdispProbe (dev : Nat) : HostProg Int := do
  if ← (Prog.ask (HostOp.dev dev (.request .kzalloc)) : HostProg Bool) then
    if ← (Prog.ask (HostOp.dev dev (.request .endpoints)) : HostProg Bool) then
      if (← onNewUsbDevice dev) ≠ 0 then
        Prog.ask (HostOp.dev dev .kfree)
        return -ENOMEM
      else return 0
    else
      Prog.ask (HostOp.dev dev .kfree)
      return -ENOMEM
  else return -ENOMEM

/-- The loop of `_on_release_disp_tickets_pool`. -/
def releaseTickets (dev : Nat) : Nat → HostProg Unit
  | 0 => return ()
  | ticketsCount + 1 => do
      let ticket ← (Prog.ask (HostOp.dev dev .takeTicket) : HostProg Ticket)
      Prog.ask (HostOp.dev dev (.aside (.freeTicket ticket)))
      releaseTickets dev ticketsCount

/-- `_on_release_disp_tickets_pool`. -/
def onReleaseDispTicketsPool (dev : Nat) : HostProg Unit := do
  let ticketsCount ← (Prog.ask (HostOp.dev dev .dispUrbCount) : HostProg Nat)
  releaseTickets dev ticketsCount

/-- `_on_del_usb_device`. -/
def onDelUsbDevice (dev : Nat) : HostProg Unit := do
  Prog.ask (HostOp.dev dev (.setAlive false))
  Prog.ask (HostOp.dev dev (.aside .touchhandlerOnRemoveDevice))
  fbhandlerOnRemoveDevice dev
  Prog.ask (HostOp.dev dev .killStatusUrb)
  Prog.ask (HostOp.dev dev .cancelDelayedWorkSync)
  Prog.ask (HostOp.dev dev (.aside .delUsbdevFromList))
  onReleaseDispTicketsPool dev
  Prog.ask (HostOp.dev dev (.aside .usbFreeUrb))

/-- `rpusbdisp_disconnect`. -/
def rpusbdispDisconnect (dev : Nat) : HostProg Unit := do
  onDelUsbDevice dev
  Prog.ask (HostOp.dev dev .kfree)

/-! ## The threads -/

/-- The USB core probes a display. -/
def usbProbe (dev : Nat) : HostProg Unit := do
  let retval ← rpusbdispProbe dev
  Prog.ask (HostOp.dev dev (.probed retval))

/-- The USB core takes a display away. -/
def usbDisconnect (dev : Nat) : HostProg Unit := do
  rpusbdispDisconnect dev
  Prog.ask (HostOp.dev dev .disconnected)

/-- A worker runs the completion work. -/
def workThread (info : Nat → Dev) (dev : Nat) : HostProg Unit := do
  onDisplayTransferFinishedDelaywork info dev
  Prog.ask (HostOp.dev dev .workDone)

/-- The USB core gives back a status URB. -/
def statusThread (dev : Nat) (status : Int) (packet : StatusNormalPacket) : HostProg Unit := do
  onStatusQueryFinished dev status packet
  Prog.ask (HostOp.dev dev .statusHandled)

/-- The USB core gives back a display URB. -/
def urbThread (info : Nat → Dev) (dev : Nat) (ticket : Ticket) : HostProg Unit :=
  pipe dev (onDisplayTransferFinished (info dev) ticket)

/-! ## Where a thread is -/

/-- How far a display's probing or removal is: before its tickets are allocated, before
it is bound, between the two stores that bind it, and after; before
`fbhandler_on_remove_device` reads its handle, with the handle as it is by then, between
the two stores that unbind it, past `usb_kill_urb`, past `cancel_delayed_work_sync`,
and in the release loop with its count and the tickets taken. -/
inductive LifePhase where
  | allocating
  | probing
  | binding
  | probed
  | leaving
  | handle (bound : Bool)
  | unbinding
  | killed
  | cancelled
  | draining (ticketsCount taken : Nat)
  deriving DecidableEq

/-- The phase after an operation. -/
def LifePhase.next (ph : LifePhase) : (o : HostOp) → o.Res → LifePhase
  | .dev _ .allocDispTickets, allocated => if allocated then .probing else ph
  | .fb (.fbHandle _), bound => if ph = .leaving then .handle bound else ph
  | .setBindedUsbdev binded, _ => if binded.isSome then .binding else .unbinding
  | .setFbhandle _ bound, _ => if bound then .probed else .handle false
  | .dev _ .killStatusUrb, _ => .killed
  | .dev _ .cancelDelayedWorkSync, _ => .cancelled
  | .dev _ .dispUrbCount, ticketsCount => .draining ticketsCount 0
  | .dev _ .takeTicket, _ =>
      match ph with
      | .draining ticketsCount taken => .draining ticketsCount (taken + 1)
      | ph => ph
  | _, _ => ph

/-- What a thread is there for: drawing, the probing or removal of a display, its
completion work, a status URB, or a display URB, where it may have to schedule the work
next.  In the end it is over. -/
inductive Role where
  | drawing
  | life (dev : Nat) (ph : LifePhase)
  | work (dev : Nat)
  | status (dev : Nat)
  | urb (dev : Nat) (announcing : Bool)
  | over
  deriving DecidableEq

/-- The role after an operation. -/
def Role.next : Role → (o : HostOp) → o.Res → Role
  | _, .dev _ (.probed _), _ => .over
  | _, .dev _ .disconnected, _ => .over
  | _, .dev _ .workDone, _ => .over
  | _, .dev _ .statusHandled, _ => .over
  | .life d ph, o, r => .life d (ph.next o r)
  | .urb d _, .dev _ (.usb (.returnTicket t)), allFinished =>
      .urb d (allFinished && t.transferUrb.status = 0)
  | .urb d _, .dev _ (.usb .scheduleCompletionWork), _ => .urb d false
  | role, _, _ => role

/-- The two mutexes a thread may hold, and `binded_usbdev` as it has found it under
one of them. -/
structure Locks where
  registering : Bool := false
  locked : Bool := false
  known : Option (Option Nat) := none

/-- The locks after an operation. -/
def Locks.next (l : Locks) : (o : HostOp) → o.Res → Locks
  | .lockDevreg, _ => { l with registering := true }
  | .unlockDevreg, _ => { l with registering := false, known := none }
  | .fb .lockOperation, _ => { l with locked := true }
  | .fb .unlockOperation, _ =>
      { l with locked := false, known := if l.registering then l.known else none }
  | .fb .bindedUsbdev, binded =>
      if l.locked || l.registering then { l with known := some binded } else l
  | .setBindedUsbdev binded, _ => { l with known := some binded }
  | _, _ => l

/-- The display call a thread is in, or the completion of a display URB, and of which
display. -/
abbrev Serving : Type := Option (Nat × Call)

/-- What is served after an operation. -/
def Serving.next (serving : Serving) : (o : HostOp) → o.Res → Serving
  | .callDisplay d c, framebuffer =>
      some (d, Call.start (.command (c.command framebuffer)))
  | .dev _ (.usb o), r => serving.map fun s => (s.1, s.2.track o r)
  | .fb .unlockOperation, _ => none
  | _, _ => serving

/-- The ghost state of a thread. -/
structure Ghost where
  role : Role
  locks : Locks := {}
  serving : Serving := none

def Ghost.next (g : Ghost) (o : HostOp) (r : o.Res) : Ghost where
  role := g.role.next o r
  locks := g.locks.next o r
  serving := g.serving.next o r

/-! ## Runs -/

abbrev HostWorld : Type := World HostState HostOp HostOp.Res Unit Ghost

variable {a : Arch}

/-- A drawing callback or the deferred I/O handler starts, a display is plugged in or
pulled out, its completion work starts, its `k`-th display URB in flight or its
status URB completes, thread `i` does its next operation. -/
inductive HostEvent (a : Arch) where
  | callback (c : Callback)
  | defio (pfns : List a.Long)
  | probe (dev : Nat)
  | disconnect (dev : Nat)
  | startWork (dev : Nat)
  | complete (dev k : Nat) (status : Int)
  | statusComplete (dev : Nat) (status : Int) (packet : StatusNormalPacket)
  | run (i : Nat) (choice : HostChoice)

/-- The world after an event, if the event can happen. -/
def nextHost (info : Nat → Dev) (palette : UInt32 → Pixel) (w : HostWorld) :
    HostEvent a → Option HostWorld
  | .callback c => some (w.spawn w.shared (drawing info c.prog) { role := .drawing })
  | .defio pfns =>
      some (w.spawn w.shared (drawing info ((vfbFix a).displayDefioHandler pfns))
        { role := .drawing })
  | .probe d =>
      if (w.shared.dev d).core = .unknown then
        some (w.spawn (w.shared.setDev d { w.shared.dev d with core := .probing }) (usbProbe d)
          { role := .life d .allocating })
      else none
  | .disconnect d =>
      if (w.shared.dev d).core = .attached then
        some (w.spawn (w.shared.setDev d { w.shared.dev d with core := .leaving })
          (usbDisconnect d) { role := .life d .leaving })
      else none
  | .startWork d =>
      if (w.shared.dev d).workQueued then
        some (w.spawn
          (w.shared.setDev d { w.shared.dev d with
            workQueued := false, workRunning := (w.shared.dev d).workRunning + 1 })
          (workThread info d) { role := .work d })
      else none
  | .complete d k status =>
      match (w.shared.dev d).usb.inFlight[k]? with
      | some t =>
          some (w.spawn
            (w.shared.setDev d { w.shared.dev d with
              usb := { (w.shared.dev d).usb with
                inFlight := (w.shared.dev d).usb.inFlight.eraseIdx k } })
            (urbThread info d (t.setStatus status))
            { role := .urb d false
              serving := some (d,
                { Call.start (.completion (t.setStatus status)) with held := [t.id] }) })
      | none => none
  | .statusComplete d status packet =>
      if (w.shared.dev d).statusInFlight then
        some (w.spawn
          (w.shared.setDev d { w.shared.dev d with
            statusInFlight := false, statusHandlers := (w.shared.dev d).statusHandlers + 1 })
          (statusThread d status packet) { role := .status d })
      else none
  | .run i choice => w.step (HostState.exec info palette) Ghost.next i choice

/-- What an event starts, unless it lets a thread run: the display that it changes, what this
display becomes, and the thread. -/
inductive Starts (info : Nat → Dev) (w : HostWorld) :
    HostEvent a → Nat → DisplayState → HostProg Unit → Ghost → Prop
  | callback (c : Callback) :
      Starts info w (.callback c) 0 (w.shared.dev 0) (drawing info c.prog) { role := .drawing }
  | defio (pfns : List a.Long) :
      Starts info w (.defio pfns) 0 (w.shared.dev 0)
        (drawing info ((vfbFix a).displayDefioHandler pfns)) { role := .drawing }
  | probe {d : Nat} (hunknown : (w.shared.dev d).core = .unknown) :
      Starts info w (.probe d) d { w.shared.dev d with core := .probing } (usbProbe d)
        { role := .life d .allocating }
  | disconnect {d : Nat} (hattached : (w.shared.dev d).core = .attached) :
      Starts info w (.disconnect d) d { w.shared.dev d with core := .leaving } (usbDisconnect d)
        { role := .life d .leaving }
  | startWork {d : Nat} (hqueued : (w.shared.dev d).workQueued = true) :
      Starts info w (.startWork d) d
        { w.shared.dev d with
          workQueued := false, workRunning := (w.shared.dev d).workRunning + 1 }
        (workThread info d) { role := .work d }
  | complete {d k : Nat} {status : Int} {t : Ticket}
      (hflight : (w.shared.dev d).usb.inFlight[k]? = some t) :
      Starts info w (.complete d k status) d
        { w.shared.dev d with
          usb := { (w.shared.dev d).usb with
            inFlight := (w.shared.dev d).usb.inFlight.eraseIdx k } }
        (urbThread info d (t.setStatus status))
        { role := .urb d false
          serving := some (d,
            { Call.start (.completion (t.setStatus status)) with held := [t.id] }) }
  | statusComplete {d : Nat} {status : Int} {packet : StatusNormalPacket}
      (hflight : (w.shared.dev d).statusInFlight = true) :
      Starts info w (.statusComplete d status packet) d
        { w.shared.dev d with
          statusInFlight := false, statusHandlers := (w.shared.dev d).statusHandlers + 1 }
        (statusThread d status packet) { role := .status d }

/-- **What can happen**: a thread runs, or one starts. -/
theorem nextHost_some {info : Nat → Dev} {palette : UInt32 → Pixel} {w w' : HostWorld}
    {e : HostEvent a} (h : nextHost info palette w e = some w') :
    (∃ i c, e = .run i c) ∨
      ∃ d x p g, Starts info w e d x p g ∧ w' = w.spawn (w.shared.setDev d x) p g := by
  have hsame : w.shared.setDev 0 (w.shared.dev 0) = w.shared := by
    simp [HostState.setDev]
  cases e with
  | run i c => exact Or.inl ⟨i, c, rfl⟩
  | callback c =>
      cases h
      exact Or.inr ⟨_, _, _, _, .callback c, by rw [hsame]⟩
  | defio pfns =>
      cases h
      exact Or.inr ⟨_, _, _, _, .defio pfns, by rw [hsame]⟩
  | probe d =>
      obtain ⟨hunknown, heq⟩ := Option.ite_none_right_eq_some.mp h
      exact Or.inr ⟨_, _, _, _, .probe hunknown, (Option.some.inj heq).symm⟩
  | disconnect d =>
      obtain ⟨hattached, heq⟩ := Option.ite_none_right_eq_some.mp h
      exact Or.inr ⟨_, _, _, _, .disconnect hattached, (Option.some.inj heq).symm⟩
  | startWork d =>
      obtain ⟨hqueued, heq⟩ := Option.ite_none_right_eq_some.mp h
      exact Or.inr ⟨_, _, _, _, .startWork hqueued, (Option.some.inj heq).symm⟩
  | complete d k status =>
      simp only [nextHost] at h
      split at h
      · rename_i t hflight
        exact Or.inr ⟨_, _, _, _, .complete hflight, (Option.some.inj h).symm⟩
      · cases h
  | statusComplete d status packet =>
      obtain ⟨hflight, heq⟩ := Option.ite_none_right_eq_some.mp h
      exact Or.inr ⟨_, _, _, _, .statusComplete hflight, (Option.some.inj heq).symm⟩

/-- What a start does to the state a display has for the USB core. -/
theorem Starts.core {info : Nat → Dev} {w : HostWorld} {e : HostEvent a} {d : Nat} {x : DisplayState}
    {p : HostProg Unit} {g : Ghost} (h : Starts info w e d x p g) :
    x.core = (w.shared.dev d).core ∨
      ((w.shared.dev d).core = .unknown ∧ x.core = .probing ∧ e = .probe d) ∨
      ((w.shared.dev d).core = .attached ∧ x.core = .leaving) := by
  cases h with
  | probe hunknown => exact Or.inr (Or.inl ⟨hunknown, rfl, rfl⟩)
  | disconnect hattached => exact Or.inr (Or.inr ⟨hattached, rfl⟩)
  | _ => exact Or.inl rfl

/-- A display that is neither probed nor removed after a start was so before. -/
theorem Starts.settled {info : Nat → Dev} {w : HostWorld} {e : HostEvent a} {d d' : Nat}
    {x : DisplayState} {p : HostProg Unit} {g : Ghost} {core : CoreState}
    (h : Starts info w e d x p g) (hafter : ((w.shared.setDev d x).dev d').core = core)
    (hprobing : core ≠ .probing) (hleaving : core ≠ .leaving) : (w.shared.dev d').core = core := by
  by_cases hd : d' = d
  · subst hd
    rw [HostState.setDev_same] at hafter
    rcases h.core with hsame | ⟨_, hnow, _⟩ | ⟨_, hnow⟩
    · exact hsame.symm.trans hafter
    · exact absurd (hafter.symm.trans hnow) hprobing
    · exact absurd (hafter.symm.trans hnow) hleaving
  · rw [w.shared.setDev_other x hd] at hafter
    exact hafter

/-- The framebuffer before any display has come, as `_reset_fb_private` leaves it. -/
structure Unbound (fb : FbState) : Prop where
  unlocked : fb.pa.operationLock = false
  binded : fb.pa.bindedUsbdev = none
  handle : ∀ d, fb.fbHandle d = false

/-- The world before any display has come. -/
def loadedHost (fb : FbState) : HostWorld := ⟨⟨false, fb, fun _ => .zero⟩, []⟩

end RpUsbDisp.Hotplug
