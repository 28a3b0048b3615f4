import RpUsbDisp.Interleaving
import RpUsbDisp.SendImage

/-!
# The ticket pool under concurrent calls

Display commands, URB completions and the unplugging of the device run over one
ticket pool in any order.  A call and a completion handler are threads that take
one atomic operation at a time; what the pool's two critical sections, the USB
core and the `is_alive` flag do is `UsbState.exec`.

`Sound` holds in every run: every thread keeps to the protocol, and what lies in
the pool can be sold.  It carries the specifications of the single calls over to
runs, so what a call has sent can be read off its own specification.  `Balanced`
holds as long as no final submission is refused while its bundle has a further
ticket.  It says that no ticket is lost or doubled.
-/

namespace RpUsbDisp

open Programs Framing

/-! ## The shared state -/

/-- What `struct rpusbdisp_disp_ticket_pool` says about tickets. -/
structure TicketPool where
  list : List Ticket
  dispUrbCount : Nat
  availiableCount : Nat

/-- The critical section of `_sell_disp_tickets`. -/
def TicketPool.sell (pool : TicketPool) (requiredCount : Nat) : Option (List Ticket) × TicketPool :=
  if requiredCount > pool.availiableCount then (none, pool)
  else
    (some (pool.list.take requiredCount),
      { pool with
        list := pool.list.drop requiredCount
        availiableCount := pool.availiableCount - requiredCount })

/-- A pool that has enough sells its first tickets. -/
theorem TicketPool.sell_enough {pool : TicketPool} {n : Nat} (h : n ≤ pool.availiableCount) :
    (pool.sell n).1 = some (pool.list.take n) := by
  rw [TicketPool.sell, if_neg (Nat.not_lt.mpr h)]

/-- The critical section of `_return_disp_tickets`: whether all are back. -/
def TicketPool.giveBack (pool : TicketPool) (ticket : Ticket) : Bool × TicketPool :=
  (pool.availiableCount + 1 = pool.dispUrbCount,
    { pool with
      list := pool.list ++ [ticket]
      availiableCount := pool.availiableCount + 1 })

/-- `_on_alloc_disp_tickets_pool`, with one ticket for every buffer the kernel
had, in their order. -/
def allocDispTicketsPool (dev : Dev) (buffers : List (List UInt8)) : TicketPool :=
  { list := buffers.mapIdx fun id buffer =>
      { id := id
        transferUrb :=
          { transferBuffer := buffer
            transferBufferLength := dev.packetSizeFactor * dev.dispOutEpMaxSize
            status := 0 } }
    dispUrbCount := buffers.length
    availiableCount := buffers.length }

/-- The flag of the device, its pool, and the URBs the USB core has. -/
structure UsbState where
  isAlive : Bool
  pool : TicketPool
  inFlight : List Ticket

/-- What an operation does; `choice` is the USB core's answer to a submission. -/
def UsbState.exec (s : UsbState) : (o : UsbOp) → SubmitResult → Option (o.Res × UsbState)
  | .isAlive, _ => some (s.isAlive, s)
  | .sellTickets n, _ => some ((s.pool.sell n).1, { s with pool := (s.pool.sell n).2 })
  | .returnTicket t, _ => some ((s.pool.giveBack t).1, { s with pool := (s.pool.giveBack t).2 })
  | .submitUrb _ t, .submitted => some (.submitted, { s with inFlight := s.inFlight ++ [t] })
  | .submitUrb _ _, .refused status => some (.refused status, s)
  | .setUnsyncFlag, _ => some ((), s)
  | .scheduleCompletionWork, _ => some ((), s)

/-! ## Runs -/

/-- The program of a command. -/
def Command.prog (dev : Dev) : Command → UsbProg Bool
  | .sendImage framebuffer x y right bottom lineWidth clearDirty =>
      trySendImage dev framebuffer x y right bottom lineWidth clearDirty
  | .drawRect x y right bottom color operation => tryDrawRect dev x y right bottom color operation
  | .copyArea sx sy dx dy width height => tryCopyArea dev sx sy dx dy width height

/-- The completion handler as a thread. -/
def completionProg (dev : Dev) (ticket : Ticket) : UsbProg Bool := do
  onDisplayTransferFinished dev ticket
  return true

abbrev UsbWorld := World UsbState UsbOp UsbOp.Res Bool Call

/-- A command is called, the `k`-th URB in flight completes, thread `i` does its
next operation or has returned, the device is unplugged. -/
inductive UsbEvent where
  | call (c : Command)
  | complete (k : Nat) (status : Int)
  | run (i : Nat) (choice : SubmitResult)
  | finish (i : Nat)
  | unplug

/-- The world after an event, if the event can happen. -/
def nextWorld (dev : Dev) (w : UsbWorld) : UsbEvent → Option UsbWorld
  | .call c => some (w.spawn w.shared (c.prog dev) (Call.start (.command c)))
  | .complete k status =>
      match w.shared.inFlight[k]? with
      | some t =>
          some (w.spawn { w.shared with inFlight := w.shared.inFlight.eraseIdx k }
            (completionProg dev (t.setStatus status))
            { Call.start (.completion (t.setStatus status)) with held := [t.id] })
      | none => none
  | .run i choice => w.step UsbState.exec Call.track i choice
  | .finish i => w.finish i
  | .unplug => some { w with shared := { w.shared with isAlive := false } }

/-- The worlds that can be reached by events that are all `allowed`. -/
inductive Run (dev : Dev) (allowed : UsbWorld → UsbEvent → Prop) (start : UsbWorld) : UsbWorld → Prop where
  | start : Run dev allowed start start
  | step {w w' : UsbWorld} {e : UsbEvent} (h : Run dev allowed start w) (he : allowed w e)
      (hnext : nextWorld dev w e = some w') : Run dev allowed start w'

/-- The world after the pool was allocated: no call, nothing in flight. -/
def freshWorld (dev : Dev) (buffers : List (List UInt8)) : UsbWorld :=
  { shared := { isAlive := true, pool := allocDispTicketsPool dev buffers, inFlight := [] }
    threads := [] }

/-! ## What holds in every run -/

/-- What is on the wire after an image was sent. -/
structure ImageOnWire (dev : Dev) (framebuffer : Int → Pixel) (x y right bottom lineWidth : Int)
    (clearDirty : Bool) (sent : List (List UInt8)) : Prop where
  commands : ∀ i packet, (cut dev.dispOutEpMaxSize sent.flatten)[i]? = some packet →
    packet.head? = some
      (let cmd := if dev.rlemode then RPUSBDISP_DISPCMD_BITBLT_RLE else RPUSBDISP_DISPCMD_BITBLT
      if i = 0 then
        if clearDirty then cmd ||| RPUSBDISP_CMD_FLAG_START ||| RPUSBDISP_CMD_FLAG_CLEARDITY
        else cmd ||| RPUSBDISP_CMD_FLAG_START
      else cmd)
  payload : ∃ payload : List UInt8,
    ((cut dev.dispOutEpMaxSize sent.flatten).map List.tail).flatten =
      le16 (.ofInt x) ++ le16 (.ofInt y) ++ le16 (.ofInt (right + 1 - x)) ++
        le16 (.ofInt (bottom + 1 - y)) ++ [RPUSBDISP_OPERATION_COPY] ++ payload ∧
    if dev.rlemode then
      rleDecode payload = some (rectPixels framebuffer x y right bottom lineWidth)
    else payload = (rectPixels framebuffer x y right bottom lineWidth).flatMap le16

/-- What a call that has returned leaves behind. -/
structure Call.Done (dev : Dev) (size : Nat) (ok : Bool) (g : Call) : Prop where
  held : g.held = [] ∨ g.stranded = true
  onWire : ∀ framebuffer x y right bottom lineWidth clearDirty,
    g.task = .command (.sendImage framebuffer x y right bottom lineWidth clearDirty) →
    ok = true → dev.Regular size → InScreen x y right bottom →
    ImageOnWire dev framebuffer x y right bottom lineWidth clearDirty g.sent

/-- What holds of the shared state alone: only ready tickets are for sale, the
counter counts them, and what is in flight has its buffer. -/
structure UsbState.Sound (dev : Dev) (size : Nat) (s : UsbState) : Prop where
  ready : ∀ t ∈ s.pool.list, t.Ready dev size
  count : s.pool.availiableCount = s.pool.list.length
  flying : ∀ t ∈ s.inFlight, t.room = size

/-- **The invariant of every run.** -/
structure Sound (dev : Dev) (size : Nat) (w : UsbWorld) : Prop where
  shared : w.shared.Sound dev size
  fine : w.Fine (callProtocol dev size) (fun _ => True) (Call.Done dev size)

section Specs

variable {dev : Dev} {size : Nat}

/-- The packets of an image, read the way a device reads them. -/
theorem imageOnWire_of_sent {framebuffer : Int → Pixel} {x y right bottom lineWidth : Int}
    {clearDirty : Bool} {plan : Plan} {header : BitbltPacket} {g : Call} (hreg : dev.Regular size)
    (hheader : header = bitbltHeader dev dev.rlemode x y right bottom clearDirty)
    (hfirst : plan.first = header.cmdFlag)
    (hmark : plan.mark =
      if dev.rlemode then RPUSBDISP_DISPCMD_BITBLT_RLE else RPUSBDISP_DISPCMD_BITBLT)
    (hsent : g.sent.flatten = plan.first :: stuff plan.mark dev.payload (imageBody dev header
      ((rectPixels framebuffer x y right bottom lineWidth).map (cpuToLe16 dev.host)))
      dev.payload) :
    ImageOnWire dev framebuffer x y right bottom lineWidth clearDirty g.sent := by
  have hle : 10 ≤ dev.dispOutEpMaxSize := hreg.header_le
  have hpay : 0 < dev.payload := by
    show 0 < dev.dispOutEpMaxSize - 1
    omega
  have hmps : dev.dispOutEpMaxSize = dev.payload + 1 := by
    show dev.dispOutEpMaxSize = dev.dispOutEpMaxSize - 1 + 1
    omega
  generalize hpixels : rectPixels framebuffer x y right bottom lineWidth = pixels at hsent
  have hcut : cut dev.dispOutEpMaxSize g.sent.flatten = frames plan.first plan.mark dev.payload
      (imageBody dev header (pixels.map (cpuToLe16 dev.host))) := by
    rw [hmps, hsent, cut_stuff _ _ hpay]
  constructor
  · intro i packet hpacket
    rw [hcut, frames, List.getElem?_map] at hpacket
    obtain ⟨j, hj, rfl⟩ := Option.map_eq_some_iff.mp hpacket
    obtain ⟨hlt, rfl⟩ := List.getElem?_eq_some_iff.mp hj
    rw [List.getElem_range, List.head?_cons, hfirst, hmark, hheader]
    cases clearDirty <;> rfl
  · refine ⟨imagePayload dev (pixels.map (cpuToLe16 dev.host)), ?_, ?_⟩
    · rw [hcut, frames_payload _ _ hpay, imageBody]
      congr 1
      rw [hheader, BitbltPacket.toBytes]
      simp only [bitbltHeader, store16_cpuToLe16]
      rfl
    · have hback : cpuToLe16 dev.host ∘ cpuToLe16 dev.host = id :=
        funext (cpuToLe16_cpuToLe16 dev.host)
      rw [hpixels, imagePayload]
      cases dev.rlemode with
      | false =>
          show (pixels.map (cpuToLe16 dev.host)).flatMap (store16 dev.host) = pixels.flatMap le16
          rw [flatMap_store16, List.map_map, hback, List.map_id]
      | true =>
          show rleDecode (rleBytes dev.host (pixels.map (cpuToLe16 dev.host))) = some pixels
          rw [rleDecode_rleBytes, List.map_map, hback, List.map_id]

/-- Every command keeps to the protocol and leaves nothing it could return. -/
theorem command_wp (c : Command) :
    (c.prog dev).wp (callProtocol dev size) (fun _ => True) (Call.Done dev size)
      (Call.start (.command c)) := by
  have hother : ∀ g : Call, g.held = [] ∨ g.stranded = true → (∀ framebuffer x y right bottom
      lineWidth clearDirty, g.task ≠
        .command (.sendImage framebuffer x y right bottom lineWidth clearDirty)) →
      ∀ ok, Call.Done dev size ok g := by
    intro g hheld htask ok
    refine ⟨hheld, ?_⟩
    intro framebuffer x y right bottom lineWidth clearDirty himage
    exact absurd himage (htask framebuffer x y right bottom lineWidth clearDirty)
  cases c with
  | sendImage framebuffer x y right bottom lineWidth clearDirty =>
      have hspec : (trySendImage dev framebuffer x y right bottom lineWidth clearDirty).wp
          (callProtocol dev size) (fun _ => True)
          (fun ok g => (g.held = [] ∨ g.stranded = true) ∧ (ok = true → dev.Regular size →
            InScreen x y right bottom →
            ImageOnWire dev framebuffer x y right bottom lineWidth clearDirty g.sent))
          (Call.start (.command
            (.sendImage framebuffer x y right bottom lineWidth clearDirty))) := by
        apply trySendImage_wp rfl rfl
        · exact fun _ _ => trivial
        · exact fun _ => trivial
        · exact fun _ _ _ _ => trivial
        · intro hzero
          refine ⟨Or.inl rfl, fun _ _ hin => ?_⟩
          obtain ⟨hsize, hpos, _⟩ := imageSize_eq hin framebuffer lineWidth
          omega
        · exact ⟨Or.inl rfl, fun hfalse => absurd hfalse Bool.false_ne_true⟩
        · intro n g hsent
          refine ⟨Or.inl hsent.held, fun _ hreg hin => ?_⟩
          obtain ⟨_, hpos, _⟩ := imageSize_eq hin framebuffer lineWidth
          refine imageOnWire_of_sent hreg rfl rfl rfl (hsent.sent hreg ?_)
          apply bodyNonempty_of_pixels
          intro hnil
          rw [List.map_eq_nil_iff.mp hnil] at hpos
          exact absurd hpos (Nat.lt_irrefl 0)
        · intro n g hfailed
          exact ⟨hfailed.held, fun hfalse => absurd hfalse Bool.false_ne_true⟩
      have hkeep := wp_keeps Call.task (fun g o r _ => Call.track_task g o r) hspec
      apply wp_mono hkeep (fun _ he => he)
      intro ok g h
      obtain ⟨⟨hheld, hwire⟩, htask⟩ := h
      refine ⟨hheld, ?_⟩
      intro framebuffer' x' y' right' bottom' lineWidth' clearDirty' himage
      rw [htask] at himage
      cases himage
      exact hwire
  | drawRect x y right bottom color operation =>
      apply trySingle_wp
      · decide
      · exact FillrectPacket.toBytes_length dev.host _
      · exact Nat.le_refl _
      · exact fun _ => trivial
      · exact fun _ => trivial
      · exact hother _ (Or.inl rfl) (by intros; exact nofun) _
      · intro bytes _
        exact hother _ (Or.inl rfl) (by intros; exact nofun) _
      · exact hother _ (Or.inl rfl) (by intros; exact nofun) _
  | copyArea sx sy dx dy width height =>
      apply trySingle_wp
      · decide
      · exact CopyareaPacket.toBytes_length dev.host _
      · exact Nat.le_succ _
      · exact fun _ => trivial
      · exact fun _ => trivial
      · exact hother _ (Or.inl rfl) (by intros; exact nofun) _
      · intro bytes _
        exact hother _ (Or.inl rfl) (by intros; exact nofun) _
      · exact hother _ (Or.inl rfl) (by intros; exact nofun) _

/-- The completion handler returns its ticket. -/
theorem completion_wp {t : Ticket} (hroom : t.room = size) :
    (completionProg dev t).wp (callProtocol dev size) (fun _ => True) (Call.Done dev size)
      { Call.start (.completion t) with held := [t.id] } := by
  unfold completionProg
  rw [wp_bind]
  apply onDisplayTransferFinished_wp
  · exact List.mem_singleton_self _
  · exact hroom
  · have hnil : [t.id].erase t.id = [] := List.erase_cons_head t.id []
    refine ⟨Or.inl hnil, ?_⟩
    exact fun _ _ _ _ _ _ _ himage => nomatch himage

end Specs

section Soundness

variable {dev : Dev} {size : Nat}

/-- **Operations.**  What the protocol allows to be asked is answered as the
protocol says, and the shared state stays sound. -/
theorem UsbState.Sound.exec {s s' : UsbState} (h : s.Sound dev size) {o : UsbOp} {r : o.Res}
    {choice : SubmitResult} {g : Call} (hpre : (callProtocol dev size).pre g o)
    (hexec : s.exec o choice = some (r, s')) :
    (callProtocol dev size).answer g o r ∧ s'.Sound dev size := by
  obtain ⟨hready, hcount, hflying⟩ := h
  cases o with
  | sellTickets n =>
      cases hexec
      unfold TicketPool.sell
      split
      · refine ⟨fun ts hts => ?_, hready, hcount, hflying⟩
        cases hts
      · rename_i hn
        refine ⟨fun ts hts => ?_, ?_, ?_, hflying⟩
        · cases hts
          refine ⟨List.length_take_of_le (by omega), fun t ht => ?_⟩
          exact hready t (List.mem_of_mem_take ht)
        · exact fun t ht => hready t (List.mem_of_mem_drop ht)
        · show s.pool.availiableCount - n = (s.pool.list.drop n).length
          rw [hcount, List.length_drop]
  | returnTicket t =>
      cases hexec
      refine ⟨trivial, fun u hu => ?_, ?_, hflying⟩
      · rcases List.mem_append.mp hu with hu | hu
        · exact hready u hu
        · rw [List.mem_singleton.mp hu]
          exact hpre.2
      · show s.pool.availiableCount + 1 = (s.pool.list ++ [t]).length
        rw [hcount, List.length_append, List.length_singleton]
  | submitUrb site t =>
      cases choice with
      | submitted =>
          cases hexec
          refine ⟨trivial, hready, hcount, fun u hu => ?_⟩
          rcases List.mem_append.mp hu with hu | hu
          · exact hflying u hu
          · rw [List.mem_singleton.mp hu]
            exact hpre.2
      | refused status =>
          cases hexec
          exact ⟨trivial, hready, hcount, hflying⟩
  | isAlive =>
      cases hexec
      exact ⟨trivial, hready, hcount, hflying⟩
  | setUnsyncFlag =>
      cases hexec
      exact ⟨trivial, hready, hcount, hflying⟩
  | scheduleCompletionWork =>
      cases hexec
      exact ⟨trivial, hready, hcount, hflying⟩

/-- **Step.** -/
theorem Sound.step {w w' : UsbWorld} (h : Sound dev size w) {e : UsbEvent}
    (hnext : nextWorld dev w e = some w') : Sound dev size w' := by
  cases e with
  | call c =>
      cases hnext
      exact ⟨h.shared, h.fine.spawn (command_wp c)⟩
  | complete k status =>
      simp only [nextWorld] at hnext
      split at hnext
      · rename_i t hk
        cases hnext
        have hroom : (t.setStatus status).room = size :=
          h.shared.flying t (List.mem_of_getElem? hk)
        refine ⟨⟨h.shared.ready, h.shared.count, fun u hu => ?_⟩,
          h.fine.spawn (completion_wp hroom)⟩
        exact h.shared.flying u (List.mem_of_mem_eraseIdx hu)
      · cases hnext
  | run i choice =>
      obtain ⟨o, k, g, r, s, hi, hexec, rfl⟩ := World.step_some hnext
      obtain ⟨hanswer, hshared⟩ := h.shared.exec (h.fine.pre hi) hexec
      exact ⟨hshared, h.fine.set hi hanswer s⟩
  | finish i =>
      obtain ⟨_, _, _, rfl⟩ := World.finish_some hnext
      exact ⟨h.shared, h.fine.erase i⟩
  | unplug =>
      cases hnext
      exact ⟨⟨h.shared.ready, h.shared.count, h.shared.flying⟩, h.fine⟩

/-- **Run.** -/
theorem Run.sound {allowed : UsbWorld → UsbEvent → Prop} {w₀ w : UsbWorld}
    (h : Run dev allowed w₀ w) (h₀ : Sound dev size w₀) : Sound dev size w := by
  induction h with
  | start => exact h₀
  | step _ _ hnext ih => exact ih.step hnext

/-- The buffers `usb_alloc_coherent` hands out. -/
structure Buffers where
  list : List (List UInt8)
  size_eq : ∀ b ∈ list, b.length = RPUSBDISP_MAX_TRANSFER_SIZE
  count_le : list.length ≤ RPUSBDISP_MAX_TRANSFER_TICKETS_COUNT

/-- A pool may have one ticket. -/
theorem one_le_maxTickets : 1 ≤ RPUSBDISP_MAX_TRANSFER_TICKETS_COUNT := by
  decide

/-- `n` buffers of zeros. -/
def Buffers.zeros (n : Nat) (hn : n ≤ RPUSBDISP_MAX_TRANSFER_TICKETS_COUNT) : Buffers where
  list := List.replicate n (List.replicate RPUSBDISP_MAX_TRANSFER_SIZE 0)
  size_eq := by
    intro b hb
    rw [List.eq_of_mem_replicate hb, List.length_replicate]
  count_le := by rwa [List.length_replicate]

theorem freshWorld_sound (dev : Dev) (buffers : Buffers) :
    Sound dev RPUSBDISP_MAX_TRANSFER_SIZE (freshWorld dev buffers.list) where
  shared :=
    { ready := by
        intro t ht
        obtain ⟨id, hid, rfl⟩ := List.mem_mapIdx.mp ht
        exact ⟨buffers.size_eq _ (List.getElem_mem hid), rfl⟩
      count := List.length_mapIdx.symm
      flying := fun t ht => absurd ht List.not_mem_nil }
  fine := fun t ht => absurd ht List.not_mem_nil

end Soundness

section SoloRuns

/-! ## One call by itself -/

variable {dev : Dev} {size : Nat} {F : Fault → Prop}

/-- An operation moves tickets and makes none. -/
theorem UsbState.exec_moves {s s' : UsbState} {o : UsbOp} {r : o.Res} {choice : SubmitResult}
    {g : Call} (hpre : (callProtocol dev size).pre g o) (hexec : s.exec o choice = some (r, s')) :
    (s'.pool.list.map Ticket.id ++ (g.track o r).held ++ s'.inFlight.map Ticket.id).Perm
        (s.pool.list.map Ticket.id ++ g.held ++ s.inFlight.map Ticket.id) ∧
      s'.pool.dispUrbCount = s.pool.dispUrbCount := by
  cases o with
  | sellTickets n =>
      cases hexec
      unfold TicketPool.sell
      split
      · exact ⟨List.Perm.refl _, rfl⟩
      · refine ⟨?_, rfl⟩
        show ((s.pool.list.drop n).map Ticket.id ++ (g.held ++ (s.pool.list.take n).map Ticket.id) ++
          s.inFlight.map Ticket.id).Perm _
        have hsplit : s.pool.list.map Ticket.id =
            (s.pool.list.take n).map Ticket.id ++ (s.pool.list.drop n).map Ticket.id := by
          rw [← List.map_append, List.take_append_drop]
        rw [hsplit, List.perm_iff_count]
        intro a
        simp only [List.count_append]
        omega
  | returnTicket t =>
      cases hexec
      refine ⟨?_, rfl⟩
      show ((s.pool.list ++ [t]).map Ticket.id ++ g.held.erase t.id ++
        s.inFlight.map Ticket.id).Perm _
      have hheld := List.perm_iff_count.mp (List.perm_cons_erase hpre.1)
      rw [List.perm_iff_count]
      intro a
      have ha := hheld a
      simp only [List.map_append, List.map_cons, List.map_nil, List.count_append,
        List.count_cons, List.count_nil] at ha ⊢
      omega
  | submitUrb site t =>
      cases choice with
      | submitted =>
          cases hexec
          refine ⟨?_, rfl⟩
          show (s.pool.list.map Ticket.id ++ g.held.erase t.id ++
            (s.inFlight ++ [t]).map Ticket.id).Perm _
          have hheld := List.perm_iff_count.mp (List.perm_cons_erase hpre.1)
          rw [List.perm_iff_count]
          intro a
          have ha := hheld a
          simp only [List.map_append, List.map_cons, List.map_nil, List.count_append,
            List.count_cons, List.count_nil] at ha ⊢
          omega
      | refused status =>
          cases hexec
          exact ⟨List.Perm.refl _, rfl⟩
  | isAlive =>
      cases hexec
      exact ⟨List.Perm.refl _, rfl⟩
  | setUnsyncFlag =>
      cases hexec
      exact ⟨List.Perm.refl _, rfl⟩
  | scheduleCompletionWork =>
      cases hexec
      exact ⟨List.Perm.refl _, rfl⟩

/-- A call that runs alone, with one answer to all its submissions, gets to its
end, and what this answer keeps up holds there. -/
theorem runs_through {choice : SubmitResult} {E : UsbState → Call → Prop}
    (hE : ∀ {s s' g o} {r : UsbOp.Res o}, E s g → (callProtocol dev size).pre g o →
      s.exec o choice = some (r, s') → E s' (g.track o r))
    {p : UsbProg Bool} {Q : Bool → Call → Prop} {s : UsbState} {g : Call}
    (hp : p.wp (callProtocol dev size) F Q g) (hs : s.Sound dev size) (he : E s g) :
    ∃ s' q g', World.Steps UsbState.exec Call.track ⟨s, [⟨p, g⟩]⟩ ⟨s', [⟨q, g'⟩]⟩ ∧
      s'.Sound dev size ∧ E s' g' ∧
      ((∃ ok, q = .ret ok ∧ Q ok g') ∨ ∃ e, q = .fault e ∧ F e) := by
  have hexec : ∀ (s : UsbState) (g : Call) (o : UsbOp), s.Sound dev size ∧ E s g →
      (callProtocol dev size).pre g o → ∃ r s', s.exec o choice = some (r, s') ∧
        (callProtocol dev size).answer g o r ∧ s'.Sound dev size ∧ E s' (g.track o r) := by
    intro s g o h hpre
    obtain ⟨hs, he⟩ := h
    obtain ⟨r, s', hrun⟩ : ∃ r s', s.exec o choice = some (r, s') := by
      cases o with
      | submitUrb site t =>
          cases choice with
          | submitted => exact ⟨_, _, rfl⟩
          | refused status => exact ⟨_, _, rfl⟩
      | _ => exact ⟨_, _, rfl⟩
    obtain ⟨hanswer, hs'⟩ := hs.exec hpre hrun
    exact ⟨r, s', hrun, hanswer, hs', hE he hpre hrun⟩
  obtain ⟨s', q, g', hsteps, ⟨hs', he'⟩, hend⟩ :=
    World.runs_alone (fun _ _ => choice) (fun s g => s.Sound dev size ∧ E s g) hexec hp
      ⟨hs, he⟩
  exact ⟨s', q, g', hsteps, hs', he', hend⟩

/-- Steps of threads are a run. -/
theorem Run.steps {w₀ w w' : UsbWorld} (h : Run dev (fun _ _ => True) w₀ w)
    (hsteps : World.Steps UsbState.exec Call.track w w') : Run dev (fun _ _ => True) w₀ w' := by
  induction hsteps with
  | refl => exact h
  | tail _ hstep ih =>
      obtain ⟨i, choice, hnext⟩ := hstep
      exact .step (e := .run i choice) ih trivial hnext

/-- A bought bundle brings an image to its command header. -/
theorem trySendImage_bought (framebuffer : Int → Pixel) {x y right bottom : Int} (lineWidth : Int)
    (clearDirty : Bool) {n : Nat} (hsize : imageSize x y right bottom ≠ 0)
    (hrequired : requiredTicketsCount dev (imageSize x y right bottom) dev.rlemode = some n)
    (hpos : 0 < n) (hmax : n ≤ RPUSBDISP_MAX_TRANSFER_TICKETS_COUNT) :
    ∃ (k : Bool → UsbProg Bool) (k' : Option (List Ticket) → UsbProg Bool),
      trySendImage dev framebuffer x y right bottom lineWidth clearDirty = .op .isAlive k ∧
      k true = .op (.sellTickets n) k' ∧ k' none = .ret false ∧
      ∀ ticket later, k' (some (ticket :: later)) =
        encodeImage dev framebuffer x y right bottom lineWidth clearDirty
          { ticket := ticket
            later := later
            advanced := false
            encodedPos := 0
            packetPos := 0
            urbbuffer := 0
            rlemode := dev.rlemode } := by
  have hzero : n ≠ 0 := Nat.ne_of_gt hpos
  unfold trySendImage bitbltEncoderInit sellDispTickets
  rw [if_neg hsize, hrequired]
  simp only [if_neg (Nat.not_lt.mpr hmax), if_neg hzero]
  exact ⟨_, _, rfl, rfl, rfl, fun _ _ => rfl⟩

/-- **An image in an untouched pool.**  It buys its bundle, and whatever answer
its submissions get, it runs to its end, with every ticket accounted for. -/
theorem image_runs (hreg : dev.Regular RPUSBDISP_MAX_TRANSFER_SIZE) (buffers : Buffers)
    (framebuffer : Int → Pixel) (x y right bottom lineWidth : Int) (clearDirty : Bool)
    {body : List UInt8} {n : Nat} (hsize : imageSize x y right bottom ≠ 0)
    (hrequired : requiredTicketsCount dev (imageSize x y right bottom) dev.rlemode = some n)
    (hpos : 0 < n) (hmax : n ≤ buffers.list.length)
    (hbody : body = imageBody dev (bitbltHeader dev dev.rlemode x y right bottom clearDirty)
      ((rectPixels framebuffer x y right bottom lineWidth).map (cpuToLe16 dev.host)))
    (hroom : body.length < n * dev.urbPayload) (choice : SubmitResult)
    {E : UsbState → Call → Prop}
    (hE : ∀ {s s' g o} {r : UsbOp.Res o}, E s g → s.exec o choice = some (r, s') →
      E s' (g.track o r))
    (hstart : E (freshWorld dev buffers.list).shared (Call.start
      (.command (.sendImage framebuffer x y right bottom lineWidth clearDirty)))) :
    ∃ s ok g, Run dev (fun _ _ => True) (freshWorld dev buffers.list) ⟨s, [⟨.ret ok, g⟩]⟩ ∧
      g.task = .command (.sendImage framebuffer x y right bottom lineWidth clearDirty) ∧
      s.Sound dev RPUSBDISP_MAX_TRANSFER_SIZE ∧ E s g ∧
      (s.pool.list.length + g.held.length + s.inFlight.length = buffers.list.length ∧
        s.pool.dispUrbCount = buffers.list.length) ∧
      ((ok = true → ImageSent dev (imagePlan dev RPUSBDISP_MAX_TRANSFER_SIZE n body.length
        (bitbltHeader dev dev.rlemode x y right bottom clearDirty)) body g) ∧
      (ok = false → ImageFailed dev (imagePlan dev RPUSBDISP_MAX_TRANSFER_SIZE n body.length
        (bitbltHeader dev dev.rlemode x y right bottom clearDirty)) g)) := by
  have hten : n ≤ RPUSBDISP_MAX_TRANSFER_TICKETS_COUNT := Nat.le_trans hmax buffers.count_le
  obtain ⟨k, k', hprog, hsell, _, hbought⟩ :=
    trySendImage_bought framebuffer lineWidth clearDirty hsize hrequired hpos hten
  generalize htask : Task.command
    (.sendImage framebuffer x y right bottom lineWidth clearDirty) = task at hstart ⊢
  -- the call, the look at the flag and the sale
  have hcall : Run dev (fun _ _ => True) (freshWorld dev buffers.list)
      ⟨(freshWorld dev buffers.list).shared, [⟨.op .isAlive k, Call.start task⟩]⟩ := by
    apply Run.step (e := .call (.sendImage framebuffer x y right bottom lineWidth clearDirty))
      .start trivial
    rw [← hprog, ← htask]
    rfl
  have halive : Run dev (fun _ _ => True) (freshWorld dev buffers.list)
      ⟨(freshWorld dev buffers.list).shared, [⟨.op (.sellTickets n) k', Call.start task⟩]⟩ := by
    apply Run.step (e := .run 0 choice) hcall trivial
    rw [← hsell]
    rfl
  obtain ⟨ticket, later, hbundle⟩ :
      ∃ ticket later, (allocDispTicketsPool dev buffers.list).list.take n = ticket :: later := by
    apply List.exists_cons_of_ne_nil
    intro hnil
    have hlen := congrArg List.length hnil
    rw [List.length_take, allocDispTicketsPool, List.length_mapIdx, List.length_nil] at hlen
    omega
  generalize hs₁ : ({ (freshWorld dev buffers.list).shared with
    pool := ((allocDispTicketsPool dev buffers.list).sell n).2 } : UsbState) = s₁
  have hexec : (freshWorld dev buffers.list).shared.exec (.sellTickets n) choice =
      some (some (ticket :: later), s₁) := by
    have hsale : ((allocDispTicketsPool dev buffers.list).sell n).1 =
        some (ticket :: later) := by
      rw [← hbundle]
      exact TicketPool.sell_enough hmax
    rw [← hs₁, ← hsale]
    rfl
  have hsold : Run dev (fun _ _ => True) (freshWorld dev buffers.list)
      ⟨s₁, [⟨k' (some (ticket :: later)),
        (Call.start task).track (.sellTickets n) (some (ticket :: later))⟩]⟩ := by
    apply Run.step (e := .run 0 choice) halive trivial
    simp [nextWorld, World.step, hexec]
  have hsound := freshWorld_sound dev buffers
  have hpre : (callProtocol dev RPUSBDISP_MAX_TRANSFER_SIZE).pre (Call.start task)
    (.sellTickets n) := hpos
  obtain ⟨hanswer, hshared⟩ := hsound.shared.exec hpre hexec
  obtain ⟨hlen, hready⟩ := hanswer _ rfl
  have hfresh : Fresh dev RPUSBDISP_MAX_TRANSFER_SIZE n dev.rlemode
      { ticket := ticket, later := later, advanced := false, encodedPos := 0, packetPos := 0,
        urbbuffer := 0, rlemode := dev.rlemode }
      ((Call.start task).track (.sellTickets n) (some (ticket :: later))) :=
    Fresh.sold hready hlen
  have hspec : (k' (some (ticket :: later))).wp (callProtocol dev RPUSBDISP_MAX_TRANSFER_SIZE)
      (fun _ => False) (fun ok g =>
        (ok = true → ImageSent dev (imagePlan dev RPUSBDISP_MAX_TRANSFER_SIZE n body.length
          (bitbltHeader dev dev.rlemode x y right bottom clearDirty)) body g) ∧
        (ok = false → ImageFailed dev (imagePlan dev RPUSBDISP_MAX_TRANSFER_SIZE n body.length
          (bitbltHeader dev dev.rlemode x y right bottom clearDirty)) g))
      ((Call.start task).track (.sellTickets n) (some (ticket :: later))) := by
    rw [hbought]
    apply encodeImage_wp rfl hbody hfresh
    · exact fun hirregular => absurd hreg hirregular
    · exact fun hfull => absurd hroom (Nat.not_lt.mpr hfull)
    · exact fun _ hsent => ⟨fun _ => hsent, by simp⟩
    · exact fun _ hfailed => ⟨by simp, fun _ => hfailed⟩
  have hkeep := wp_keeps Call.task (fun g o r _ => Call.track_task g o r) hspec
  -- the rest of the call, by itself
  obtain ⟨hmoves, hurbs⟩ := UsbState.exec_moves hpre hexec
  have hcount : (allocDispTicketsPool dev buffers.list).list.length = buffers.list.length :=
    List.length_mapIdx
  obtain ⟨s, q, g, hsteps, hsound', ⟨he, hsum, hurbs'⟩, hend⟩ := runs_through
    (E := fun s g => E s g ∧
      s.pool.list.length + g.held.length + s.inFlight.length = buffers.list.length ∧
      s.pool.dispUrbCount = buffers.list.length)
    (fun hall hpre hexec => by
      obtain ⟨he, hsum, hcount⟩ := hall
      obtain ⟨hmoves, hurbs⟩ := UsbState.exec_moves hpre hexec
      have hlen := hmoves.length_eq
      simp only [List.length_append, List.length_map] at hlen
      exact ⟨hE he hexec, by omega, hurbs.trans hcount⟩)
    hkeep hshared
    ⟨hE hstart hexec, by
      have hlen := hmoves.length_eq
      simp only [List.length_append, List.length_map] at hlen
      rw [hlen]
      exact hcount, hurbs⟩
  rcases hend with ⟨ok, rfl, hfailed, htask'⟩ | ⟨_, _, hfalse⟩
  · exact ⟨s, ok, g, hsold.steps hsteps, htask', hsound', he, ⟨hsum, hurbs'⟩, hfailed⟩
  · exact hfalse.elim

end SoloRuns

section Wire

/-! ## What is on the wire -/

/-- **Wire correctness.**  For every packet size a bitblt header fits, in every
run over the pool: once a call that sends a rectangle of the screen has returned
1, the URBs it submitted, taken together and cut into bulk packets, are the
command, the header and the pixels of the rectangle. -/
theorem image_on_wire {mps : Nat} (hlo : sizeofBitbltPacket ≤ mps)
    (hhi : mps ≤ RPUSBDISP_MAX_TRANSFER_SIZE) {fwver : UInt16} {host : HostOrder}
    {buffers : Buffers} {w : UsbWorld}
    (hrun : Run (.attached mps fwver host) (fun _ _ => True)
      (freshWorld (.attached mps fwver host) buffers.list) w)
    {i : Nat} {g : Call} (hreturned : w.threads[i]? = some ⟨.ret true, g⟩)
    {framebuffer : Int → Pixel} {x y right bottom lineWidth : Int} {clearDirty : Bool}
    (htask : g.task =
      .command (.sendImage framebuffer x y right bottom lineWidth clearDirty))
    (hin : InScreen x y right bottom) :
    ImageOnWire (.attached mps fwver host) framebuffer x y right bottom lineWidth clearDirty
      g.sent := by
  have hsound := hrun.sound (freshWorld_sound _ buffers)
  have hdone := hsound.fine.ret hreturned
  exact hdone.onWire _ _ _ _ _ _ _ htask rfl (Dev.attached_regular fwver host hlo hhi) hin

theorem gradient_body_length (header : BitbltPacket) :
    (imageBody (.attached 64 0x0103 .little) header
      ((rectPixels gradient 0 0 319 239 320).map (cpuToLe16 .little))).length = 153609 := by
  -- Without run-length encoding nothing is saved.
  have hworst := (imageBody_length (.attached 64 0x0103 .little) header
    ((rectPixels gradient 0 0 319 239 320).map (cpuToLe16 .little))).2.mpr
      (fun hmode => absurd hmode (by decide))
  rw [hworst, List.length_map, rectPixels_length]
  rfl

/-- A full screen reaches the wire, in a run where all its submissions succeed: 240 rows
in 2439 packets, more than two tickets hold. -/
theorem screen_on_wire : ∃ (w : UsbWorld) (g : Call),
    Run (.attached 64 0x0103 .little) (fun _ _ => True)
      (freshWorld (.attached 64 0x0103 .little) (Buffers.zeros 10 (by decide)).list) w ∧
    w.threads[0]? = some ⟨.ret true, g⟩ ∧
    2 * RPUSBDISP_MAX_TRANSFER_SIZE < g.sent.flatten.length ∧
    ImageOnWire (.attached 64 0x0103 .little) gradient 0 0 319 239 320 true g.sent := by
  have hin : InScreen 0 0 319 239 :=
    ⟨by decide, by decide, by decide, by decide, by decide, by decide⟩
  have hreg : (Dev.attached 64 0x0103 .little).Regular RPUSBDISP_MAX_TRANSFER_SIZE :=
    Dev.attached_regular 0x0103 .little (by decide) (by decide)
  have hkeeps : ∀ {s s' : UsbState} {g : Call} {o : UsbOp} {r : o.Res}, g.failed = false →
      s.exec o .submitted = some (r, s') → (g.track o r).failed = false := by
    intro s s' g o r hunfailed hexec
    cases o with
    | sellTickets n =>
        cases r with
        | none => exact hunfailed
        | some ts => exact hunfailed
    | submitUrb site t =>
        cases hexec
        exact hunfailed
    | _ => exact hunfailed
  have hlength := gradient_body_length
    (bitbltHeader (.attached 64 0x0103 .little) (Dev.attached 64 0x0103 .little).rlemode 0 0 319 239 true)
  generalize hbody : imageBody (.attached 64 0x0103 .little) _ _ = body at hlength
  have hlong : BodyNonempty body := by
    show 9 < body.length
    omega
  have hurb : (Dev.attached 64 0x0103 .little).urbPayload = 64008 := rfl
  obtain ⟨s, ok, g, hrun, htask, _, hunfailed, _, hsent, hfailed⟩ :=
    image_runs hreg (Buffers.zeros 10 (by decide)) gradient 0 0 319 239 320 true
      (by decide) (show _ = some 3 by decide) (by decide) (by decide) hbody.symm (by omega)
      .submitted (E := fun _ g => g.failed = false) hkeeps rfl
  have hok : ok = true := by
    by_contra hne
    have hfail := (hfailed (Bool.eq_false_iff.mpr hne)).failed
    rw [hunfailed] at hfail
    cases hfail
  subst hok
  refine ⟨_, g, hrun, rfl, ?_, image_on_wire (i := 0) (by decide) (by decide) hrun rfl htask hin⟩
  have hpayload : (Dev.attached 64 0x0103 .little).payload = 63 := rfl
  have hmax : RPUSBDISP_MAX_TRANSFER_SIZE = 65024 := rfl
  rw [(hsent rfl).sent hreg hlong, List.length_cons, hpayload,
    stuff_length _ (by decide) _ (by decide) (Nat.le_refl 63), hlength, hmax]
  decide

end Wire

section Conservation

/-! ## No ticket is lost -/

variable {dev : Dev} {size : Nat}

/-- A final submission is only refused when the call holds no other ticket. -/
def Tight (w : UsbWorld) : UsbEvent → Prop
  | .run i (.refused _) => ∀ t k g, w.threads[i]? = some ⟨.op (.submitUrb .finalFlush t) k, g⟩ →
      g.held = [t.id]
  | _ => True

/-- **Conservation.**  Every one of the `n` tickets is in exactly one place: in the
pool, with a call that is not over (or a completion handler), or in flight; the
counter counts the pool; a call that has returned holds nothing; and when nothing
runs and nothing is in flight, all tickets are for sale. -/
structure Conserved (n : Nat) (w : UsbWorld) : Prop where
  once : (w.shared.pool.list.map Ticket.id ++ holdings Call.held w.threads ++
    w.shared.inFlight.map Ticket.id).Perm (List.range n)
  counted : w.shared.pool.availiableCount = w.shared.pool.list.length
  returned : ∀ t ∈ w.threads, ∀ ok, t.prog = .ret ok → t.ghost.held = []
  home : w.threads = [] → w.shared.inFlight = [] →
    w.shared.pool.availiableCount = w.shared.pool.dispUrbCount

/-- The invariant behind conservation. -/
structure Balanced (n : Nat) (w : UsbWorld) : Prop where
  once : (w.shared.pool.list.map Ticket.id ++ holdings Call.held w.threads ++
    w.shared.inFlight.map Ticket.id).Perm (List.range n)
  urbs : w.shared.pool.dispUrbCount = n
  whole : ∀ t ∈ w.threads, t.ghost.stranded = false

/-- What one thread moves between the pool, its bundle and the bus leaves the
account of all threads as it is. -/
theorem account_local {pool pool' held held' rest fly fly' ids : List Nat}
    (h : (pool ++ (held ++ rest) ++ fly).Perm ids)
    (hmove : (pool' ++ held' ++ fly').Perm (pool ++ held ++ fly)) :
    (pool' ++ (held' ++ rest) ++ fly').Perm ids := by
  rw [List.perm_iff_count] at h hmove ⊢
  intro a
  have hall := h a
  have hlocal := hmove a
  simp only [List.count_append] at hall hlocal ⊢
  omega

/-- Outside the one bad refusal, no answer strands a ticket. -/
theorem Call.track_whole {g : Call} {o : UsbOp} {r : o.Res} (h : g.stranded = false)
    (htight : ∀ t status, o = .submitUrb .finalFlush t → HEq r (SubmitResult.refused status) →
      g.held = [t.id]) :
    (g.track o r).stranded = false := by
  cases o with
  | sellTickets n =>
      cases r with
      | none => exact h
      | some ts => exact h
  | submitUrb site t =>
      cases r with
      | submitted => exact h
      | refused status =>
          show (g.stranded || g.strands site t) = false
          rw [h, Bool.false_or, Call.strands]
          by_cases hsite : site = .finalFlush
          · subst hsite
            rw [htight t status rfl HEq.rfl]
            simp
          · rw [decide_eq_false hsite, Bool.false_and]
  | isAlive => exact h
  | returnTicket t => exact h
  | setUnsyncFlag => exact h
  | scheduleCompletionWork => exact h

/-- **Step.** -/
theorem Balanced.step {n : Nat} {w w' : UsbWorld} (h : Balanced n w) (hsound : Sound dev size w)
    {e : UsbEvent} (htight : Tight w e) (hnext : nextWorld dev w e = some w') : Balanced n w' := by
  cases e with
  | call c =>
      cases hnext
      refine ⟨?_, h.urbs, ?_⟩
      · have honce := h.once
        simp only [World.spawn, holdings_append]
        rwa [show (Call.start (.command c)).held = [] from rfl, List.append_nil]
      · intro t ht
        rcases List.mem_append.mp ht with ht | ht
        · exact h.whole t ht
        · rw [List.mem_singleton.mp ht]
          rfl
  | complete k status =>
      simp only [nextWorld] at hnext
      split at hnext
      · rename_i t hk
        cases hnext
        refine ⟨?_, h.urbs, ?_⟩
        · obtain ⟨hlt, rfl⟩ := List.getElem?_eq_some_iff.mp hk
          have hfly := List.perm_iff_count.mp
            ((List.getElem_cons_eraseIdx_perm hlt).map Ticket.id)
          have honce := List.perm_iff_count.mp h.once
          simp only [World.spawn, holdings_append]
          rw [List.perm_iff_count]
          intro a
          have hflya := hfly a
          have honcea := honce a
          simp only [List.map_cons, List.count_append, List.count_cons, List.count_nil]
            at hflya honcea ⊢
          omega
        · intro u hu
          rcases List.mem_append.mp hu with hu | hu
          · exact h.whole u hu
          · rw [List.mem_singleton.mp hu]
            rfl
      · cases hnext
  | run i choice =>
      obtain ⟨o, k, g, r, s, hi, hexec, rfl⟩ := World.step_some hnext
      have hpre := hsound.fine.pre hi
      obtain ⟨hmove, hurbs⟩ := UsbState.exec_moves hpre hexec
      have hlt : i < w.threads.length := (List.getElem?_eq_some_iff.mp hi).1
      refine ⟨?_, hurbs.trans h.urbs, ?_⟩
      · have hold := holdings_perm Call.held hi
        have hnew := holdings_set_perm Call.held (⟨k r, g.track o r⟩ : Thread _ _ _ _) hlt
        have hbefore := ((hold.append_left _).append_right _).symm.trans h.once
        exact ((hnew.append_left _).append_right _).trans (account_local hbefore hmove)
      · intro t ht
        rcases List.mem_or_eq_of_mem_set ht with ht | rfl
        · exact h.whole t ht
        · apply Call.track_whole (h.whole _ (List.mem_of_getElem? hi))
          intro t status heq hr
          obtain rfl := heq
          cases choice with
          | submitted =>
              cases hexec
              cases hr
          | refused status => exact htight t k g hi
  | finish i =>
      obtain ⟨ok, g, hi, rfl⟩ := World.finish_some hnext
      have hdone : Call.Done dev size ok g := hsound.fine.ret hi
      have hwhole : g.stranded = false := h.whole _ (List.mem_of_getElem? hi)
      have hheld : g.held = [] := by
        rcases hdone.held with hheld | hstranded
        · exact hheld
        · rw [hwhole] at hstranded
          cases hstranded
      refine ⟨?_, h.urbs, fun t ht => h.whole t (List.mem_of_mem_eraseIdx ht)⟩
      have hold := holdings_perm Call.held hi
      rw [show (⟨.ret ok, g⟩ : Thread UsbOp UsbOp.Res Bool Call).ghost.held = [] from hheld,
        List.nil_append] at hold
      exact ((hold.append_left _).append_right _).symm.trans h.once
  | unplug =>
      cases hnext
      exact ⟨h.once, h.urbs, h.whole⟩

theorem freshWorld_balanced (dev : Dev) (buffers : List (List UInt8)) :
    Balanced buffers.length (freshWorld dev buffers) where
  once := by
    have hids : (allocDispTicketsPool dev buffers).list.map Ticket.id =
        List.range buffers.length := by
      apply List.ext_getElem
      · simp [allocDispTicketsPool]
      · intro k hk hk'
        simp [allocDispTicketsPool]
    show ((allocDispTicketsPool dev buffers).list.map Ticket.id ++ [] ++ []).Perm _
    rw [hids, List.append_nil, List.append_nil]
  urbs := rfl
  whole := fun t ht => absurd ht List.not_mem_nil

/-- **Run.** -/
theorem Run.balanced {n : Nat} {w₀ w : UsbWorld} (h : Run dev Tight w₀ w)
    (hsound : Sound dev size w₀) (hbalanced : Balanced n w₀) : Balanced n w := by
  induction h with
  | start => exact hbalanced
  | step hrun htight hnext ih => exact ih.step (hrun.sound hsound) htight hnext

/-- What the invariant says of the tickets. -/
theorem Balanced.conserved {n : Nat} {w : UsbWorld} (h : Balanced n w) (hsound : Sound dev size w) :
    Conserved n w where
  once := h.once
  counted := hsound.shared.count
  returned := by
    intro hparts ht ok heq
    obtain ⟨p, g⟩ := hparts
    obtain rfl := heq
    have hdone : Call.Done dev size ok g := hsound.fine _ ht
    rcases hdone.held with hheld | hstranded
    · exact hheld
    · rw [show g.stranded = false from h.whole _ ht] at hstranded
      cases hstranded
  home := by
    intro hthreads hfly
    have honce := h.once.length_eq
    rw [hthreads, hfly] at honce
    rw [hsound.shared.count, h.urbs]
    simpa [holdings] using honce

/-- **Ticket conservation.**  For every device and every pool, in every run of
commands, completions and unplugging in any order, with any outcome of every
submission and any completion status: as long as no final submission is refused
while its bundle has a further ticket, tickets are conserved. -/
theorem tickets_conserved (dev : Dev) (buffers : Buffers) {w : UsbWorld}
    (hrun : Run dev Tight (freshWorld dev buffers.list) w) : Conserved buffers.list.length w := by
  have hsound := freshWorld_sound dev buffers
  have hbalanced := hrun.balanced hsound (freshWorld_balanced dev buffers.list)
  exact hbalanced.conserved (hrun.sound hsound)

/-- A copy command that has bought the only ticket and not submitted it yet. -/
theorem tickets_conserved_bought : ∃ w : UsbWorld,
    holdings Call.held w.threads = [0] ∧ w.shared.pool.list = [] ∧ Conserved 1 w := by
  have hrun : Run (.attached 64 0x0104 .little) Tight
      (freshWorld (.attached 64 0x0104 .little) (Buffers.zeros 1 (by decide)).list) _ :=
    .step (e := .run 0 .submitted) (.step (e := .run 0 .submitted)
      (.step (e := .call (.copyArea 0 0 8 8 4 4)) .start trivial rfl) trivial rfl) trivial rfl
  have hconserved := tickets_conserved _ _ hrun
  exact ⟨_, rfl, rfl, hconserved⟩

/-- **A lost bundle.**  A full screen of one colour is far shorter than the worst
case.  When its only submission is refused, two of the three tickets bought never
come back, though the call has returned and nothing is in flight. -/
theorem tickets_lost : ∃ w : UsbWorld,
    Run (.attached 64 0x0104 .little) (fun _ _ => True)
      (freshWorld (.attached 64 0x0104 .little) (Buffers.zeros 10 (by decide)).list) w ∧
    w.threads = [] ∧ w.shared.inFlight = [] ∧
    w.shared.pool.availiableCount = 8 ∧ w.shared.pool.dispUrbCount = 10 ∧ ¬ Conserved 10 w := by
  have hreg : (Dev.attached 64 0x0104 .little).Regular RPUSBDISP_MAX_TRANSFER_SIZE :=
    Dev.attached_regular 0x0104 .little (by decide) (by decide)
  generalize hbody : imageBody (.attached 64 0x0104 .little)
    (bitbltHeader (.attached 64 0x0104 .little) (Dev.attached 64 0x0104 .little).rlemode
      0 0 319 239 false)
    ((rectPixels (fun _ => 0) 0 0 319 239 320).map (cpuToLe16 .little)) = body
  have hshort : body.length < (Dev.attached 64 0x0104 .little).urbPayload := by
    rw [← hbody]
    exact imageBody_constant_lt rfl _ 0 rfl (by decide)
  have hkeeps : ∀ {s s' : UsbState} {g : Call} {o : UsbOp} {r : o.Res},
      s.inFlight = [] ∧ g.sent = [] → s.exec o (.refused (-12)) = some (r, s') →
      s'.inFlight = [] ∧ (g.track o r).sent = [] := by
    intro s s' g o r h hexec
    obtain ⟨hfly, hsent⟩ := h
    cases o with
    | sellTickets n =>
        cases hexec
        refine ⟨hfly, ?_⟩
        cases (s.pool.sell n).1 with
        | none => exact hsent
        | some ts => exact hsent
    | _ =>
        cases hexec
        exact ⟨hfly, hsent⟩
  obtain ⟨s, ok, g, hrun, _, hsound, ⟨hfly, hsent⟩, ⟨hcount, hurbs⟩, hdone, hfailed⟩ :=
    image_runs hreg (Buffers.zeros 10 (by decide)) (fun _ => 0) 0 0 319 239 320 false
      (by decide) (show _ = some 3 by decide) (by decide) (by decide) hbody.symm (by omega)
      (.refused (-12)) (E := fun s g => s.inFlight = [] ∧ g.sent = []) hkeeps ⟨rfl, rfl⟩
  have hbuffers : (Buffers.zeros 10 (by decide)).list.length = 10 := List.length_replicate
  rw [hbuffers] at hcount hurbs
  have hlong : BodyNonempty body := by
    rw [← hbody]
    apply bodyNonempty_of_pixels
    rw [← List.length_pos_iff, List.length_map, rectPixels_length]
    decide
  have hok : ok = false := by
    cases ok with
    | false => rfl
    | true =>
        have hwire := (hdone rfl).sent hreg hlong
        rw [hsent] at hwire
        cases hwire
  have hheld : g.held.length = 2 := by
    rcases (hfailed hok).left hreg with hfull | hleft
    · exact absurd hfull (Nat.not_le.mpr hshort)
    · rw [hsent] at hleft
      have hthree : 0 + 1 + g.held.length = 3 := hleft
      omega
  have hlength : s.pool.list.length = 8 := by
    rw [hfly, List.length_nil] at hcount
    omega
  refine ⟨⟨s, []⟩, .step (e := .finish 0) hrun trivial rfl, rfl, hfly, hsound.count.trans hlength,
    hurbs, ?_⟩
  intro hconserved
  have hhome : s.pool.availiableCount = s.pool.dispUrbCount := hconserved.home rfl hfly
  rw [hsound.count, hlength, hurbs] at hhome
  cases hhome

end Conservation

end RpUsbDisp
