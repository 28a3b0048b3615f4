import Mathlib.Tactic.ByContra
import RpUsbDisp.Framing
import RpUsbDisp.Programs
import RpUsbDisp.Protocol

/-!
# Tickets and the two short commands

The display pipe of `usbhandlers.c`.  A *ticket* is a bulk URB with a transfer
buffer of its own.  Tickets are bought from a pool, filled, submitted, and go
back to the pool when their transfer is over.

What the code does to the pool, to the USB core and to the work queue are the
atomic operations `UsbOp`; everything between two of them touches only tickets
the call holds.  `callProtocol` says what a call may ask of a ticket, and its
ghost state `Call` keeps the ids a call owes and the bytes it has submitted.
-/

namespace RpUsbDisp

open Programs Framing

/-! ## Constants -/

def PAGE_SIZE : Nat := 4096
def RPUSBDISP_MAX_TRANSFER_TICKETS_COUNT : Nat := 10
def RPUSBDISP_MAX_TRANSFER_SIZE : Nat := PAGE_SIZE * 16 - 512

def RP_DISP_DEFAULT_HEIGHT : Nat := 240
def RP_DISP_DEFAULT_WIDTH : Nat := 320
def RP_DISP_DEFAULT_PIXEL_BITS : Nat := 16
def RP_DISP_FEATURE_RLE_FWVERSION : UInt16 := 0x0104

/-! ## Data -/

/-- What the display path reads of `struct rpusbdisp_dev`, and the byte order of
the machine it runs on. -/
structure Dev where
  dispOutEpMaxSize : Nat
  packetSizeFactor : Nat
  deviceFwver : UInt16
  host : HostOrder

/-- A bulk URB. -/
structure Urb where
  transferBuffer : List UInt8
  transferBufferLength : Nat
  status : Int
  deriving DecidableEq

/-- `struct rpusbdisp_disp_ticket`; its address is the `id`. -/
structure Ticket where
  id : Nat
  transferUrb : Urb
  deriving DecidableEq

namespace Ticket

def setBuffer (t : Ticket) (buffer : List UInt8) : Ticket :=
  { t with transferUrb := { t.transferUrb with transferBuffer := buffer } }

def setLength (t : Ticket) (length : Nat) : Ticket :=
  { t with transferUrb := { t.transferUrb with transferBufferLength := length } }

def setStatus (t : Ticket) (status : Int) : Ticket :=
  { t with transferUrb := { t.transferUrb with status := status } }

/-- The bytes a submission of the ticket puts on the bus. -/
def transfer (t : Ticket) : List UInt8 :=
  t.transferUrb.transferBuffer.take t.transferUrb.transferBufferLength

/-- The size of the ticket's buffer. -/
def room (t : Ticket) : Nat := t.transferUrb.transferBuffer.length

@[simp] theorem setBuffer_id (t : Ticket) (b : List UInt8) : (t.setBuffer b).id = t.id := rfl
@[simp] theorem setLength_id (t : Ticket) (n : Nat) : (t.setLength n).id = t.id := rfl
@[simp] theorem setStatus_id (t : Ticket) (s : Int) : (t.setStatus s).id = t.id := rfl
@[simp] theorem setLength_room (t : Ticket) (n : Nat) : (t.setLength n).room = t.room := rfl
@[simp] theorem setStatus_room (t : Ticket) (s : Int) : (t.setStatus s).room = t.room := rfl
@[simp] theorem setBuffer_room (t : Ticket) (b : List UInt8) : (t.setBuffer b).room = b.length := rfl

/-- A ticket as the pool hands it out: its buffer is whole, and its transfer
length is what a full set of packets takes. -/
structure Ready (dev : Dev) (size : Nat) (t : Ticket) : Prop where
  room_eq : t.room = size
  length_eq : t.transferUrb.transferBufferLength = dev.packetSizeFactor * dev.dispOutEpMaxSize

end Ticket

/-! ## Operations -/

/-- The places in the source that submit a display URB. -/
inductive SubmitSite where
  | copyArea
  | drawRect
  | fullUrb
  | finalFlush
  deriving DecidableEq

/-- What `usb_submit_urb` says.  A refused URB shows some status, of which
nothing is known. -/
inductive SubmitResult where
  | submitted
  | refused (status : Int)
  deriving DecidableEq

/-- What the display path does atomically: it reads `dev->is_alive`, runs one of
the two critical sections of the pool, submits a URB, sets the framebuffer's
`unsync_flag`, and schedules `completion_work`. -/
inductive UsbOp where
  | isAlive
  | sellTickets (requiredCount : Nat)
  | returnTicket (t : Ticket)
  | submitUrb (site : SubmitSite) (t : Ticket)
  | setUnsyncFlag
  | scheduleCompletionWork

@[reducible] def UsbOp.Res : UsbOp → Type
  | .isAlive => Bool
  | .sellTickets _ => Option (List Ticket)
  | .returnTicket _ => Bool
  | .submitUrb _ _ => SubmitResult
  | .setUnsyncFlag => Unit
  | .scheduleCompletionWork => Unit

abbrev UsbProg (α : Type) := Prog UsbOp UsbOp.Res α

/-- `dev->is_alive`. -/
abbrev isAlive : UsbProg Bool := Prog.ask UsbOp.isAlive

/-- `usb_submit_urb`. -/
abbrev usbSubmitUrb (site : SubmitSite) (ticket : Ticket) : UsbProg SubmitResult :=
  Prog.ask (UsbOp.submitUrb site ticket)

/-- `fbhandler_set_unsync_flag`. -/
abbrev fbhandlerSetUnsyncFlag : UsbProg Unit := Prog.ask UsbOp.setUnsyncFlag

/-- `schedule_delayed_work` on the pool's `completion_work`. -/
abbrev scheduleCompletionWork : UsbProg Unit := Prog.ask UsbOp.scheduleCompletionWork

/-! ## Buying and returning -/

/-- `_sell_disp_tickets`: the bundle, or nothing. -/
def sellDispTickets (requiredCount : Nat) : UsbProg (Option (List Ticket)) := do
  if ← isAlive then
    if requiredCount = 0 then return none
    else Prog.ask (UsbOp.sellTickets requiredCount)
  else return none

/-- `_return_disp_tickets`: whether all tickets are back. -/
abbrev returnDispTickets (ticket : Ticket) : UsbProg Bool :=
  Prog.ask (UsbOp.returnTicket ticket)

/-- `_on_display_transfer_finished`: the completion handler, which the submit
paths also call when a submission is refused. -/
def onDisplayTransferFinished (dev : Dev) (ticket : Ticket) : UsbProg Unit := do
  if ticket.transferUrb.status ≠ 0 then
    if ← isAlive then fbhandlerSetUnsyncFlag
  let ticket := ticket.setLength (dev.packetSizeFactor * dev.dispOutEpMaxSize)
  let allFinished ← returnDispTickets ticket
  if allFinished ∧ ticket.transferUrb.status = 0 then
    scheduleCompletionWork

/-- A store into a transfer buffer.  Outside the buffer it is a memory fault. -/
def storeBuffer (ticket : Ticket) (pos : Nat) (bytes : List UInt8) : UsbProg Ticket :=
  match writeAt ticket.transferUrb.transferBuffer pos bytes with
  | some buffer => .ret (ticket.setBuffer buffer)
  | none => .fault .oops

/-- Write a packet into a ticket and submit `length` bytes of it; a refused ticket
is taken back. -/
def submitSingle (dev : Dev) (site : SubmitSite) (length : Nat) (packet : List UInt8)
    (ticket : Ticket) : UsbProg Bool := do
  let ticket ← storeBuffer ticket 0 packet
  let ticket := ticket.setLength length
  match ← usbSubmitUrb site ticket with
  | .submitted => return true
  | .refused status =>
      onDisplayTransferFinished dev (ticket.setStatus status)
      return false

/-- What the two short commands share: buy one ticket, check that the packet fits
a bulk packet, and submit it. -/
def trySingle (dev : Dev) (site : SubmitSite) (sizeofPacket length : Nat) (packet : List UInt8) :
    UsbProg Bool := do
  match ← sellDispTickets 1 with
  | none => return false
  | some bundle =>
      Prog.bugOn (sizeofPacket > dev.dispOutEpMaxSize)
      match bundle with
      | [] => .fault .oops
      | ticket :: _ => submitSingle dev site length packet ticket

/-- The packet of `rpusbdisp_usb_try_copy_area`. -/
def copyareaPacket (dev : Dev) (sx sy dx dy width height : Int) : CopyareaPacket :=
  { cmdFlag := RPUSBDISP_DISPCMD_COPY_AREA ||| RPUSBDISP_CMD_FLAG_START
    sx := cpuToLe16 dev.host (.ofInt sx)
    sy := cpuToLe16 dev.host (.ofInt sy)
    dx := cpuToLe16 dev.host (.ofInt dx)
    dy := cpuToLe16 dev.host (.ofInt dy)
    width := cpuToLe16 dev.host (.ofInt width)
    height := cpuToLe16 dev.host (.ofInt height) }

/-- `rpusbdisp_usb_try_copy_area`, which sends one byte more than the packet to
get round a bug of firmware 1.03. -/
def tryCopyArea (dev : Dev) (sx sy dx dy width height : Int) : UsbProg Bool :=
  trySingle dev .copyArea sizeofCopyareaPacket (sizeofCopyareaPacket + 1)
    ((copyareaPacket dev sx sy dx dy width height).toBytes dev.host)

/-- The packet of `rpusbdisp_usb_try_draw_rect`. -/
def fillrectPacket (dev : Dev) (x y right bottom : Int) (color : Pixel) (operation : UInt8) :
    FillrectPacket :=
  { cmdFlag := RPUSBDISP_DISPCMD_RECT ||| RPUSBDISP_CMD_FLAG_START
    left := cpuToLe16 dev.host (.ofInt x)
    top := cpuToLe16 dev.host (.ofInt y)
    right := cpuToLe16 dev.host (.ofInt right)
    bottom := cpuToLe16 dev.host (.ofInt bottom)
    color565 := cpuToLe16 dev.host color
    operation := operation }

/-- `rpusbdisp_usb_try_draw_rect`. -/
def tryDrawRect (dev : Dev) (x y right bottom : Int) (color : Pixel) (operation : UInt8) :
    UsbProg Bool :=
  trySingle dev .drawRect sizeofFillrectPacket sizeofFillrectPacket
    ((fillrectPacket dev x y right bottom color operation).toBytes dev.host)

/-! ## The protocol of a call -/

/-- The three display commands and their arguments. -/
inductive Command where
  | sendImage (framebuffer : Int → Pixel) (x y right bottom lineWidth : Int) (clearDirty : Bool)
  | drawRect (x y right bottom : Int) (color : Pixel) (operation : UInt8)
  | copyArea (sx sy dx dy width height : Int)

/-- What runs over the pool: a command, or the completion handler of a URB. -/
inductive Task where
  | command (c : Command)
  | completion (ticket : Ticket)

/-- The ghost state of a call: the ids of the tickets it owes, the bytes it has
submitted URB by URB, whether a submission was refused, and whether that was the
final one while more tickets were held. -/
structure Call where
  task : Task
  held : List Nat
  sent : List (List UInt8)
  failed : Bool
  stranded : Bool

/-- A call that has not bought anything yet. -/
def Call.start (task : Task) : Call := ⟨task, [], [], false, false⟩

/-- A refused submission leaves tickets behind if it is the final one of a
bundle that has more. -/
def Call.strands (g : Call) (site : SubmitSite) (t : Ticket) : Bool :=
  site = .finalFlush && g.held ≠ [t.id]

/-- How an answer changes what a call owes and has sent. -/
def Call.track (g : Call) : (o : UsbOp) → o.Res → Call
  | .sellTickets _, some ts => { g with held := g.held ++ ts.map Ticket.id }
  | .returnTicket t, _ => { g with held := g.held.erase t.id }
  | .submitUrb _ t, .submitted =>
      { g with held := g.held.erase t.id, sent := g.sent ++ [t.transfer] }
  | .submitUrb site t, .refused _ =>
      { g with failed := true, stranded := g.stranded || g.strands site t }
  | _, _ => g

/-- No answer changes what a call is for. -/
theorem Call.track_task (g : Call) (o : UsbOp) (r : o.Res) : (g.track o r).task = g.task := by
  cases o with
  | sellTickets n =>
      cases r with
      | none => rfl
      | some ts => rfl
  | submitUrb site t =>
      cases r with
      | submitted => rfl
      | refused status => rfl
  | _ => rfl

/-- What a call may ask, and what it may be told: only tickets it owes go back
or out, they keep their buffers, what goes back is ready to be sold again, and a
sale hands out as many ready tickets as were asked for.  Only who owes a ticket
reports a failed transfer. -/
def callProtocol (dev : Dev) (size : Nat) : Protocol UsbOp UsbOp.Res Call where
  pre g
    | .sellTickets n => 0 < n
    | .setUnsyncFlag => g.held ≠ []
    | .returnTicket t => t.id ∈ g.held ∧ t.Ready dev size
    | .submitUrb _ t => t.id ∈ g.held ∧ t.room = size
    | _ => True
  answer _
    | .sellTickets n, r => ∀ ts, r = some ts → ts.length = n ∧ ∀ t ∈ ts, t.Ready dev size
    | _, _ => True
  track := Call.track

section Rules

variable {dev : Dev} {size : Nat} {F : Fault → Prop} {g : Call}

/-- A sale: either nothing was bought, or the call owes the bundle. -/
theorem sellDispTickets_wp {n : Nat} {Q : Option (List Ticket) → Call → Prop}
    (hnone : Q none g)
    (hsome : ∀ ts : List Ticket, 0 < n → ts.length = n → (∀ t ∈ ts, t.Ready dev size) →
      Q (some ts) { g with held := g.held ++ ts.map Ticket.id }) :
    (sellDispTickets n).wp (callProtocol dev size) F Q g := by
  unfold sellDispTickets
  rw [wp_ask_bind]
  refine ⟨trivial, fun alive _ => ?_⟩
  cases alive with
  | false => exact hnone
  | true =>
      by_cases hn : n = 0
      · rw [if_pos rfl, if_pos hn]
        exact hnone
      · rw [if_pos rfl, if_neg hn]
        refine ⟨Nat.pos_of_ne_zero hn, fun r hr => ?_⟩
        cases r with
        | none => exact hnone
        | some ts =>
            obtain ⟨hlen, hready⟩ := hr ts rfl
            exact hsome ts (by omega) hlen hready

/-- The completion handler takes its ticket off the caller's account. -/
theorem onDisplayTransferFinished_wp {t : Ticket} {Q : Unit → Call → Prop}
    (hheld : t.id ∈ g.held) (hroom : t.room = size)
    (hQ : Q () { g with held := g.held.erase t.id }) :
    (onDisplayTransferFinished dev t).wp (callProtocol dev size) F Q g := by
  have hreturn : (do
      let allFinished ← returnDispTickets
        (t.setLength (dev.packetSizeFactor * dev.dispOutEpMaxSize))
      if allFinished = true ∧ t.transferUrb.status = 0 then
        scheduleCompletionWork : UsbProg Unit).wp (callProtocol dev size) F Q g := by
    rw [wp_ask_bind]
    refine ⟨⟨hheld, hroom, rfl⟩, fun allFinished _ => ?_⟩
    split
    · exact ⟨trivial, fun _ _ => hQ⟩
    · exact hQ
  unfold onDisplayTransferFinished
  by_cases hstatus : t.transferUrb.status = 0
  · rw [if_neg (fun hne => hne hstatus)]
    exact hreturn
  · rw [if_pos hstatus, wp_ask_bind]
    refine ⟨trivial, fun alive _ => ?_⟩
    cases alive with
    | false => exact hreturn
    | true => exact ⟨List.ne_nil_of_mem hheld, fun _ _ => hreturn⟩

/-- A store inside the buffer, or a fault. -/
theorem storeBuffer_wp {P : Protocol UsbOp UsbOp.Res Call} {t : Ticket} {pos : Nat}
    {bytes : List UInt8} {Q : Ticket → Call → Prop}
    (hstored : ∀ buffer, writeAt t.transferUrb.transferBuffer pos bytes = some buffer →
      Q (t.setBuffer buffer) g)
    (hfault : t.room < pos + bytes.length → F .oops) :
    (storeBuffer t pos bytes).wp P F Q g := by
  unfold storeBuffer
  cases hstore : writeAt t.transferUrb.transferBuffer pos bytes with
  | some buffer => exact hstored buffer hstore
  | none =>
      apply hfault
      by_contra hle
      obtain ⟨buffer, hbuffer⟩ := writeAt_isSome (Nat.le_of_not_lt hle)
      rw [hstore] at hbuffer
      cases hbuffer

/-- A bought ticket is submitted and begins with the packet, or it is refused and
taken back. -/
theorem submitSingle_wp {site : SubmitSite} {length : Nat} {packet : List UInt8} {ticket : Ticket}
    {Q : Bool → Call → Prop} (hsite : site ≠ .finalFlush) (hlength : packet.length ≤ length)
    (hheld : g.held = [ticket.id]) (hready : ticket.Ready dev size)
    (hsmall : size < packet.length → F .oops)
    (hsent : ∀ bytes : List UInt8, bytes.take packet.length = packet →
      Q true { g with held := [], sent := g.sent ++ [bytes] })
    (hrefused : Q false { g with held := [], failed := true }) :
    (submitSingle dev site length packet ticket).wp (callProtocol dev size) F Q g := by
  have hmem : ticket.id ∈ g.held := by
    rw [hheld]
    exact List.mem_singleton_self _
  have herase : g.held.erase ticket.id = [] := by
    rw [hheld]
    exact List.erase_cons_head ticket.id []
  unfold submitSingle
  rw [wp_bind]
  apply storeBuffer_wp
  · intro buffer hstore
    have hbuffer : buffer.length = size := (writeAt_length hstore).trans hready.room_eq
    have htake : buffer.take packet.length = packet := by
      have := writeAt_take hstore
      rwa [Nat.zero_add, List.take_zero, List.nil_append] at this
    rw [wp_ask_bind]
    refine ⟨⟨hmem, hbuffer⟩, fun r _ => ?_⟩
    cases r with
    | submitted =>
        show Q true { g with
          held := g.held.erase ticket.id, sent := g.sent ++ [buffer.take length] }
        rw [herase]
        apply hsent
        rw [List.take_take, Nat.min_eq_left hlength, htake]
    | refused status =>
        have hstrands : decide (site = .finalFlush) = false := decide_eq_false hsite
        rw [wp_bind]
        apply onDisplayTransferFinished_wp
        · exact hmem
        · exact hbuffer
        · show Q false { g with
            held := g.held.erase ticket.id
            failed := true
            stranded := g.stranded || (decide (site = .finalFlush) && _) }
          rw [herase, hstrands, Bool.false_and, Bool.or_false]
          exact hrefused
  · intro hroom
    rw [hready.room_eq, Nat.zero_add] at hroom
    exact hsmall hroom

/-- **The short commands.**  One URB that begins with the packet is submitted, or
nothing is; nothing is held afterwards. -/
theorem trySingle_wp {site : SubmitSite} {sizeofPacket length : Nat} {packet : List UInt8}
    {task : Task} {Q : Bool → Call → Prop} (hsite : site ≠ .finalFlush)
    (hpacket : packet.length = sizeofPacket) (hlength : sizeofPacket ≤ length)
    (hbug : sizeofPacket > dev.dispOutEpMaxSize → F .oops)
    (hsmall : size < sizeofPacket → F .oops)
    (hunsold : Q false (Call.start task))
    (hsent : ∀ bytes : List UInt8, bytes.take sizeofPacket = packet →
      Q true { Call.start task with sent := [bytes] })
    (hrefused : Q false { Call.start task with failed := true }) :
    (trySingle dev site sizeofPacket length packet).wp (callProtocol dev size) F Q
      (Call.start task) := by
  unfold trySingle
  rw [wp_bind]
  apply sellDispTickets_wp
  · exact hunsold
  · intro ts _ hlen hready
    obtain ⟨ticket, rfl⟩ : ∃ ticket, ts = [ticket] := List.length_eq_one_iff.mp hlen
    simp only []
    rw [wp_bugOn_bind]
    constructor
    · intro htoobig
      exact hbug (of_decide_eq_true htoobig)
    · intro _
      subst hpacket
      exact submitSingle_wp hsite hlength rfl (hready ticket List.mem_cons_self) hsmall hsent
        hrefused

end Rules

end RpUsbDisp
