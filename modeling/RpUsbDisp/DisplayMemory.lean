import Mathlib.Data.Multiset.Range
import RpUsbDisp.Bookkeeping
import RpUsbDisp.Binding

/-!
# What a display takes of the kernel

A display has memory for its `struct rpusbdisp_dev`, a reference to its `struct usb_device`,
a status URB, and tickets, each of them with a URB and a transfer buffer.  The books of a
display say what of it has been got and not been given back.

`memoryProtocol` says what the probing and the removal of one display may get and give
back, stage by stage; every other thread leaves the books of the display alone.
-/

namespace RpUsbDisp.Hotplug

open Programs

/-! ## The books -/

/-- What the kernel lends for a display.  A ticket is in circulation, until the release
loop has taken it off the pool to give it back. -/
inductive Possession where
  | struct
  | usbDevice
  | statusUrb
  | ticket (id : Nat)
  | leaving (id : Nat)
  deriving DecidableEq

/-- What an operation on a display gets.  `usb_get_dev` comes right after the `kzalloc`
and is never refused. -/
def DisplayOp.gets : (o : DisplayOp) → o.Res → HostChoice → Multiset Possession
  | .request .kzalloc, granted, _ => if granted then {.struct, .usbDevice} else 0
  | .request .usbAllocUrb, granted, _ => if granted then {.statusUrb} else 0
  | .allocDispTickets, _, c => (Multiset.range c.buffers.list.length).map .ticket
  | .takeTicket, ticket, _ => {.leaving ticket.id}
  | _, _, _ => 0

/-- What an operation gives back, whatever it is answered. -/
def DisplayOp.frees : DisplayOp → Multiset Possession
  | .aside .usbFreeUrb => {.statusUrb}
  | .aside (.freeTicket ticket) => {.leaving ticket.id}
  | .kfree => {.struct}
  | _ => 0

/-- What leaves the books with an operation. -/
def DisplayOp.gives : (o : DisplayOp) → o.Res → Multiset Possession
  | .takeTicket, ticket => {.ticket ticket.id}
  | o, _ => o.frees

/-- The books of all displays. -/
abbrev Books : Type := Nat → Multiset Possession

/-- The books after an operation. -/
def Books.entry (books : Books) : (o : HostOp) → o.Res → HostChoice → Books
  | .dev d o, r, c => Function.update books d (books d - o.gives r + o.gets r c)
  | _, _, _ => books

/-- A world and its books after an event. -/
def nextBooked {a : Arch} (info : Nat → Dev) (palette : UInt32 → Pixel) (s : HostWorld × Books)
    (e : HostEvent a) : Option (HostWorld × Books) :=
  (nextHost info palette s.1 e).map fun w =>
    (w, match e with
      | .run i c => s.1.enter (HostState.exec info palette) Books.entry i c s.2
      | _ => s.2)

/-! ## The protocol -/

/-- What there is of tickets: none yet or any more, all of them, or so many that the
release loop has not taken, beside the one in its hand. -/
inductive Pool where
  | none
  | whole
  | left (count : Nat) (hand : Option Nat)
  deriving DecidableEq

/-- What the probing or the removal of a display has got. -/
structure Share where
  struct : Bool := false
  usbDevice : Bool := false
  statusUrb : Bool := false
  pool : Pool := .none
  deriving DecidableEq

/-- Everything a display needs. -/
def Share.full : Share := ⟨true, true, true, .whole⟩

/-- All but the reference has been given back. -/
def Share.Returned (s : Share) : Prop :=
  s.struct = false ∧ s.statusUrb = false ∧ (s.pool = .none ∨ s.pool = .left 0 none)

/-- Operations that the books are about, and the ends of a life. -/
def DisplayOp.Booked : DisplayOp → Bool
  | .request .kzalloc => true
  | .request .usbAllocUrb => true
  | .allocDispTickets => true
  | .dispUrbCount => true
  | .takeTicket => true
  | .aside .usbFreeUrb => true
  | .aside (.freeTicket _) => true
  | .kfree => true
  | .probed _ => true
  | .disconnected => true
  | _ => false

/-- What may be done to a display whose share is `s`. -/
def Share.May (s : Share) : DisplayOp → Prop
  | .request .kzalloc => s = {}
  | .request .usbAllocUrb => s.statusUrb = false
  | .allocDispTickets => s.pool = .none
  | .dispUrbCount => s.pool = .whole
  | .takeTicket => ∃ count, s.pool = .left (count + 1) none
  | .aside .usbFreeUrb => s.statusUrb = true
  | .aside (.freeTicket ticket) => ∃ count, s.pool = .left count (some ticket.id)
  | .kfree => s.struct = true
  | .probed retval => if retval = 0 then s = .full else s.Returned ∧ s.pool = .none
  | .disconnected => s.Returned ∧ s.usbDevice = true
  | _ => True

/-- The share after an operation. -/
def Share.next (s : Share) : (o : DisplayOp) → o.Res → Option Share
  | .request .kzalloc, granted => some { s with struct := granted, usbDevice := granted }
  | .request .usbAllocUrb, granted => some { s with statusUrb := granted }
  | .allocDispTickets, allocated => some { s with pool := if allocated then .whole else .none }
  | .dispUrbCount, count => some { s with pool := .left count none }
  | .takeTicket, ticket =>
      match s.pool with
      | .left (count + 1) _ => some { s with pool := .left count (some ticket.id) }
      | _ => some s
  | .aside .usbFreeUrb, _ => some { s with statusUrb := false }
  | .aside (.freeTicket _), _ =>
      match s.pool with
      | .left count _ => some { s with pool := .left count none }
      | _ => some s
  | .kfree, _ => some { s with struct := false }
  | .probed _, _ => none
  | .disconnected, _ => none
  | _, _ => some s

/-- **The protocol** of the memory of display `d`.  A thread has its share, or nothing to
do with it. -/
def memoryProtocol (d : Nat) : Protocol HostOp HostOp.Res (Option Share) where
  pre share
    | .dev e o => e = d → match share with
        | some s => s.May o
        | none => o.Booked = false
    | _ => True
  answer _ _ _ := True
  track share
    | .dev e o, r => if e = d then share.bind fun s => s.next o r else share
    | _, _ => share

/-- What a thread of display `e` has got for display `d`. -/
def Share.for (s : Share) (e d : Nat) : Option Share :=
  if e = d then some s else none

section Programs

/-! ## The programs keep to it -/

variable {d e : Nat} {F : Fault → Prop} {share : Option Share} {s : Share}

/-- Operations that the books are not about leave every share alone. -/
theorem Share.unbooked {o : DisplayOp} (h : o.Booked = false) :
    s.May o ∧ ∀ r : o.Res, s.next o r = some s := by
  cases o with
  | request what =>
      cases what with
      | kzalloc => cases h
      | usbAllocUrb => cases h
      | _ => exact ⟨trivial, fun _ => rfl⟩
  | aside what =>
      cases what with
      | usbFreeUrb => cases h
      | freeTicket ticket => cases h
      | _ => exact ⟨trivial, fun _ => rfl⟩
  | allocDispTickets => cases h
  | dispUrbCount => cases h
  | takeTicket => cases h
  | kfree => cases h
  | probed retval => cases h
  | disconnected => cases h
  | _ => exact ⟨trivial, fun _ => rfl⟩

/-- Such operations are anybody's. -/
theorem memory_unbooked {o : DisplayOp} (h : o.Booked = false) :
    (memoryProtocol d).pre share (.dev e o) ∧
      ∀ r : o.Res, (memoryProtocol d).track share (.dev e o) r = share := by
  cases share with
  | none => exact ⟨fun _ => h, fun r => ite_self _⟩
  | some s =>
      obtain ⟨hmay, hnext⟩ := Share.unbooked (s := s) h
      refine ⟨fun _ => hmay, fun r => ?_⟩
      show (if e = d then s.next o r else some s) = some s
      rw [hnext r, ite_self]

/-- Such an operation and what follows it. -/
theorem books_quiet {α : Type} {o : DisplayOp} {f : o.Res → HostProg α} {Q : α → Option Share → Prop}
    (hquiet : o.Booked = false) (h : ∀ r, (f r).wp (memoryProtocol d) F Q share) :
    (Prog.ask (HostOp.dev e o) >>= f).wp (memoryProtocol d) F Q share := by
  have hunbooked : (memoryProtocol d).pre share (.dev e o) ∧
      ∀ r : o.Res, (memoryProtocol d).track share (.dev e o) r = share := memory_unbooked hquiet
  obtain ⟨hpre, htrack⟩ := hunbooked
  refine ⟨hpre, fun r _ => ?_⟩
  rw [htrack r]
  exact h r

/-- An operation on the share, and what follows it. -/
theorem books_ask {α : Type} {o : DisplayOp} {f : o.Res → HostProg α} {Q : α → Option Share → Prop}
    (hmay : s.May o)
    (h : ∀ r, ∃ s', s.next o r = some s' ∧ (f r).wp (memoryProtocol d) F Q (s'.for e d)) :
    (Prog.ask (HostOp.dev e o) >>= f).wp (memoryProtocol d) F Q (s.for e d) := by
  by_cases he : e = d
  · subst he
    unfold Share.for at h ⊢
    simp only [if_true] at h ⊢
    refine ⟨fun _ => hmay, fun r _ => ?_⟩
    obtain ⟨s', hnext, hrest⟩ := h r
    have htrack : (memoryProtocol e).track (some s) (.dev e o) r = some s' := by
      show (if e = e then s.next o r else some s) = some s'
      rw [if_pos rfl, hnext]
    rw [htrack]
    exact hrest
  · unfold Share.for at h ⊢
    simp only [if_neg he] at h ⊢
    refine ⟨fun heq => absurd heq he, fun r _ => ?_⟩
    obtain ⟨_, _, hrest⟩ := h r
    have htrack : (memoryProtocol d).track none (.dev e o) r = none := if_neg he
    rw [htrack]
    exact hrest

/-- The last operation on a share. -/
theorem books_last {o : DisplayOp} (hmay : s.May o) :
    (Prog.ask (HostOp.dev e o) : HostProg o.Res).wp (memoryProtocol d) F (fun _ _ => True)
      (s.for e d) := by
  refine ⟨?_, fun _ _ => trivial⟩
  by_cases he : e = d
  · unfold Share.for
    rw [if_pos he]
    exact fun _ => hmay
  · exact fun heq => absurd heq he

/-- A part of the framebuffer driver that sends nothing. -/
theorem framebufferPart_books {α : Type} (p : FbProg α) :
    (framebufferPart p).wp (memoryProtocol d) (fun _ => True) (fun _ share' => share' = share)
      share := by
  unfold framebufferPart
  induction p with
  | ret a => exact rfl
  | fault f => exact trivial
  | op o k ih => exact ⟨trivial, fun r _ => ih r⟩

/-- A part of the display pipe. -/
theorem pipe_books {α : Type} (p : UsbProg α) :
    (pipe e p).wp (memoryProtocol d) (fun _ => True) (fun _ share' => share' = share) share := by
  unfold pipe
  induction p with
  | ret a => exact rfl
  | fault f => exact trivial
  | op o k ih =>
      rw [Prog.expand]
      cases o with
      | setUnsyncFlag =>
          rw [wp_bind]
          apply wp_mono (framebufferPart_books _) (fun _ he => he)
          intro r share' heq
          rw [heq]
          exact ih r
      | _ => exact books_quiet rfl ih

/-- A part of the framebuffer driver. -/
theorem drawing_books {α : Type} {info : Nat → Dev} (p : FbProg α) :
    (drawing info p).wp (memoryProtocol d) (fun _ => True) (fun _ share' => share' = share)
      share := by
  unfold drawing
  induction p with
  | ret a => exact rfl
  | fault f => exact trivial
  | op o k ih =>
      rw [Prog.expand]
      cases o with
      | send dev c =>
          rw [wp_bind]
          refine ⟨trivial, fun framebuffer _ => ?_⟩
          apply wp_mono (pipe_books _) (fun _ he => he)
          intro r share' heq
          rw [heq]
          exact ih r
      | _ => exact ⟨trivial, fun r _ => ih r⟩

/-- `_status_start_querying`. -/
theorem statusStartQuerying_books :
    (statusStartQuerying e).wp (memoryProtocol d) F (fun _ share' => share' = share) share := by
  have hcount : (do
      let failCount ← (Prog.ask (HostOp.dev e .statusFailCount) : HostProg Nat)
      Prog.ask (HostOp.dev e (.setStatusFailCount (failCount + 1))) : HostProg Unit).wp
      (memoryProtocol d) F (fun _ share' => share' = share) share :=
    books_quiet rfl fun _ => ⟨(memory_unbooked rfl).1, fun _ _ => (memory_unbooked rfl).2 _⟩
  unfold statusStartQuerying
  refine books_quiet rfl fun alive => ?_
  split
  · refine books_quiet rfl fun failCount => ?_
    split
    · exact rfl
    · refine books_quiet rfl fun granted => ?_
      split
      · refine books_quiet rfl fun status => ?_
        split
        · split
          · exact books_quiet rfl fun _ => hcount
          · exact hcount
        · exact rfl
      · exact rfl
  · exact rfl

/-- `fbhandler_on_new_device`. -/
theorem fbhandlerOnNewDevice_books :
    (fbhandlerOnNewDevice e).wp (memoryProtocol d) F (fun _ share' => share' = share) share := by
  refine ⟨trivial, fun _ _ => ⟨trivial, fun binded _ => ?_⟩⟩
  cases binded with
  | some other => exact ⟨trivial, fun _ _ => rfl⟩
  | none =>
      exact ⟨trivial, fun _ _ => ⟨trivial, fun _ _ => ⟨trivial, fun _ _ => ⟨trivial, fun _ _ =>
        ⟨trivial, fun _ _ => rfl⟩⟩⟩⟩⟩

/-- `fbhandler_on_remove_device`. -/
theorem fbhandlerOnRemoveDevice_books :
    (fbhandlerOnRemoveDevice e).wp (memoryProtocol d) F (fun _ share' => share' = share) share := by
  refine ⟨trivial, fun handle _ => ⟨trivial, fun _ _ => ?_⟩⟩
  cases handle with
  | false => exact ⟨trivial, fun _ _ => rfl⟩
  | true =>
      exact ⟨trivial, fun _ _ => ⟨trivial, fun _ _ => ⟨trivial, fun _ _ => ⟨trivial, fun _ _ =>
        ⟨trivial, fun _ _ => rfl⟩⟩⟩⟩⟩

/-! ### Probing and removal -/

/-- **`_on_new_usb_device`** gets everything, or gives back what it has got. -/
theorem onNewUsbDevice_books :
    (onNewUsbDevice e).wp (memoryProtocol d) (fun _ => True)
      (fun retval share => share = (if retval = 0 then Share.full else ⟨true, true, false, .none⟩).for e d)
      ((Share.mk true true false .none).for e d) := by
  have hrefused : -ENOMEM ≠ 0 := by decide
  unfold onNewUsbDevice
  refine books_ask (o := .request .usbAllocUrb) rfl fun granted => ⟨_, rfl, ?_⟩
  cases granted with
  | false => exact (congrArg (fun s : Share => s.for e d) (if_neg hrefused)).symm
  | true =>
      refine books_ask (o := .allocDispTickets) rfl fun allocated => ⟨_, rfl, ?_⟩
      cases allocated with
      | false =>
          refine books_ask (o := .aside .usbFreeUrb) rfl fun _ => ⟨_, rfl, ?_⟩
          exact (congrArg (fun s : Share => s.for e d) (if_neg hrefused)).symm
      | true =>
          refine books_quiet (o := .aside .addUsbdevToList) rfl fun _ => books_quiet rfl fun _ => ?_
          rw [wp_bind]
          apply wp_mono statusStartQuerying_books (fun _ he => he)
          intro _ _ heq
          obtain rfl := heq
          rw [wp_bind]
          apply wp_mono fbhandlerOnNewDevice_books (fun _ he => he)
          intro _ _ heq
          obtain rfl := heq
          refine books_quiet rfl fun _ => ?_
          rw [wp_bind]
          apply wp_mono (framebufferPart_books _) (fun _ he => he)
          intro _ _ heq
          obtain rfl := heq
          exact books_quiet rfl fun _ => rfl

/-- **A probing** that fails gives everything back but the reference. -/
theorem probe_books :
    (usbProbe e).wp (memoryProtocol d) (fun _ => True) (fun _ _ => True) (Share.for {} e d) := by
  have hfailed : -ENOMEM ≠ 0 := by decide
  have hprobed : ∀ s : Share, s.Returned ∧ s.pool = .none →
      (Prog.ask (HostOp.dev e (.probed (-ENOMEM))) : HostProg Unit).wp (memoryProtocol d)
        (fun _ => True) (fun _ _ => True) (s.for e d) := by
    intro s hreturned
    apply books_last
    have hmay : s.May (.probed (-ENOMEM)) ↔ s.Returned ∧ s.pool = .none := by
      rw [Share.May, if_neg hfailed]
    exact hmay.mpr hreturned
  have hfree : (Prog.ask (HostOp.dev e .kfree) >>= fun _ =>
      Prog.ask (HostOp.dev e (.probed (-ENOMEM))) : HostProg Unit).wp (memoryProtocol d)
        (fun _ => True) (fun _ _ => True) ((Share.mk true true false .none).for e d) :=
    books_ask (o := .kfree) rfl fun _ => ⟨_, rfl, hprobed _ ⟨⟨rfl, rfl, Or.inl rfl⟩, rfl⟩⟩
  unfold usbProbe rpusbdispProbe
  refine books_ask (o := .request .kzalloc) rfl fun granted => ⟨_, rfl, ?_⟩
  cases granted with
  | false => exact hprobed _ ⟨⟨rfl, rfl, Or.inl rfl⟩, rfl⟩
  | true =>
      refine books_quiet (o := .request .endpoints) rfl fun endpoints => ?_
      cases endpoints with
      | false => exact hfree
      | true =>
          show ((onNewUsbDevice e >>= _) >>= _).wp _ _ _ _
          rw [Prog.bind_assoc, wp_bind]
          apply wp_mono onNewUsbDevice_books (fun _ he => he)
          intro retval share heq
          rw [heq]
          by_cases hzero : retval = 0
          · rw [if_pos hzero, if_neg (fun hne => hne hzero)]
            exact books_last (o := .probed 0) rfl
          · rw [if_neg hzero, if_pos hzero]
            exact hfree

/-- The release loop gives back the tickets one after the other. -/
theorem releaseTickets_books (count : Nat) :
    (releaseTickets e count).wp (memoryProtocol d) F
      (fun _ share => share = Share.for { s with pool := .left 0 none } e d)
      (Share.for { s with pool := .left count none } e d) := by
  induction count with
  | zero => exact rfl
  | succ count ih =>
      refine books_ask (o := .takeTicket) ⟨count, rfl⟩ fun ticket => ⟨_, rfl, ?_⟩
      exact books_ask (o := .aside (.freeTicket ticket)) ⟨count, rfl⟩ fun _ => ⟨_, rfl, ih⟩

/-- **A removal** gives everything back but the reference. -/
theorem disconnect_books :
    (usbDisconnect e).wp (memoryProtocol d) (fun _ => True) (fun _ _ => True)
      (Share.full.for e d) := by
  unfold usbDisconnect rpusbdispDisconnect onDelUsbDevice
  refine books_quiet (o := .setAlive false) rfl fun _ => ?_
  refine books_quiet (o := .aside .touchhandlerOnRemoveDevice) rfl fun _ => ?_
  show (((fbhandlerOnRemoveDevice e >>= _) >>= _) >>= _).wp _ _ _ _
  rw [Prog.bind_assoc, Prog.bind_assoc, wp_bind]
  apply wp_mono fbhandlerOnRemoveDevice_books (fun _ he => he)
  intro _ _ heq
  obtain rfl := heq
  refine books_quiet rfl fun _ => books_quiet rfl fun _ => ?_
  refine books_quiet (o := .aside .delUsbdevFromList) rfl fun _ => ?_
  refine books_ask (o := .dispUrbCount) rfl fun ticketsCount => ⟨_, rfl, ?_⟩
  show ((releaseTickets e ticketsCount >>= _) >>= _).wp _ _ _ _
  rw [Prog.bind_assoc, wp_bind]
  apply wp_mono (releaseTickets_books ticketsCount) (fun _ he => he)
  intro _ _ heq
  obtain rfl := heq
  refine books_ask (o := .aside .usbFreeUrb) rfl fun _ => ⟨_, rfl, ?_⟩
  refine books_ask (o := .kfree) rfl fun _ => ⟨_, rfl, ?_⟩
  exact books_last (o := .disconnected) ⟨⟨rfl, rfl, Or.inr rfl⟩, rfl⟩

/-! ### The other threads -/

/-- The completion work. -/
theorem work_books {info : Nat → Dev} :
    (workThread info e).wp (memoryProtocol d) (fun _ => True) (fun _ _ => True) none := by
  have hdone : (Prog.ask (HostOp.dev e .workDone) : HostProg Unit).wp (memoryProtocol d)
      (fun _ => True) (fun _ _ => True) none := ⟨fun _ => rfl, fun _ _ => trivial⟩
  unfold workThread onDisplayTransferFinishedDelaywork
  rw [wp_bind]
  refine books_quiet (o := .usb .isAlive) rfl fun alive => ?_
  cases alive with
  | false => exact hdone
  | true =>
      apply wp_mono (drawing_books _) (fun _ he => he)
      intro _ _ heq
      rw [heq]
      exact hdone

/-- The completion handler of a status URB. -/
theorem status_books (status : Int) (packet : StatusNormalPacket) :
    (statusThread e status packet).wp (memoryProtocol d) (fun _ => True) (fun _ _ => True) none := by
  have hdone : (Prog.ask (HostOp.dev e .statusHandled) : HostProg Unit).wp (memoryProtocol d)
      (fun _ => True) (fun _ _ => True) none := ⟨fun _ => rfl, fun _ _ => trivial⟩
  have htouch : ∀ touch, (Prog.ask (HostOp.dev e (.aside (.touchhandlerSendTsEvent
      packet.touchX packet.touchY touch))) : HostProg Unit).wp (memoryProtocol d) (fun _ => True)
      (fun _ share => share = none) none :=
    fun touch => ⟨(memory_unbooked rfl).1, fun _ _ => (memory_unbooked rfl).2 _⟩
  have hparse : (onParseStatusPacket e packet).wp (memoryProtocol d) (fun _ => True)
      (fun _ share => share = none) none := by
    unfold onParseStatusPacket
    split
    · split
      · rw [wp_bind]
        apply wp_mono (framebufferPart_books _) (fun _ he => he)
        intro _ _ heq
        rw [heq]
        exact books_quiet rfl fun _ => htouch _
      · exact htouch _
    · exact rfl
  have hagain : (do
      let failCount ← (Prog.ask (HostOp.dev e .statusFailCount) : HostProg Nat)
      if failCount < RPUSBDISP_STATUS_QUERY_RETRY_COUNT then
        statusStartQuerying e : HostProg Unit).wp (memoryProtocol d) (fun _ => True)
      (fun _ share => share = none) none := by
    refine books_quiet rfl fun failCount => ?_
    split
    · exact statusStartQuerying_books
    · exact rfl
  unfold statusThread
  rw [wp_bind]
  apply wp_mono (Q := fun _ share => share = none) _ (fun _ he => he)
  · intro _ _ heq
    rw [heq]
    exact hdone
  · unfold onStatusQueryFinished
    refine books_quiet rfl fun alive => ?_
    cases alive with
    | false => exact rfl
    | true =>
        rw [if_pos rfl]
        split
        · rw [wp_bind]
          apply wp_mono hparse (fun _ he => he)
          intro _ _ heq
          rw [heq]
          exact hagain
        · exact books_quiet rfl fun _ => hagain

end Programs

end RpUsbDisp.Hotplug
