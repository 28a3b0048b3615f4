import RpUsbDisp.Framebuffer
import RpUsbDisp.TicketPool

/-!
# Who wakes up the completion work

The driver as a whole: drawing callbacks, deferred I/O, URB completions, status
packets and the completion work run as threads over the display pipe, the
framebuffer's private data and the work queue.  The programs are those of the
other modules, with every send of `_display_update` expanded into the call it is.

What is left to send is `pending`: the dirty flag, or `unsync_flag` at 1.  A
thread *attends* to a flag as long as it is bound to look at it again, to clear
it, or to schedule the work.  In every run each pending flag is attended to, or
the work is queued, or a ticket is out whose return will be noticed (`Attended`),
provided that no thread abandons a flag (`Heeded`).
-/

namespace RpUsbDisp

open Programs

/-! ## The driver -/

/-- The display pipe, the framebuffer, and whether `completion_work` is queued. -/
structure DriverState where
  usb : UsbState
  fb : FbState
  workQueued : Bool

/-- What a thread of the driver does atomically. -/
inductive DriverOp where
  | usb (o : UsbOp)
  | fb (o : FbOp)
  | framebuffer

@[reducible] def DriverOp.Res : DriverOp → Type
  | .usb o => o.Res
  | .fb o => o.Res
  | .framebuffer => Int → Pixel

abbrev DriverProg (α : Type) := Prog DriverOp DriverOp.Res α

/-- What an operation of the display pipe does outside of it:
`fbhandler_set_unsync_flag` and `schedule_delayed_work`. -/
def DriverState.notify (s : DriverState) : UsbOp → DriverState
  | .setUnsyncFlag => { s with fb := { s.fb with pa := { s.fb.pa with unsyncFlag := 1 } } }
  | .scheduleCompletionWork => { s with workQueued := true }
  | _ => s

/-- What an operation does. -/
def DriverState.exec (palette : UInt32 → Pixel) (s : DriverState) :
    (o : DriverOp) → SubmitResult → Option (o.Res × DriverState)
  | .usb o, choice => (s.usb.exec o choice).map fun r => (r.1, { s.notify o with usb := r.2 })
  | .fb o, _ => (s.fb.exec palette o).map fun r => (r.1, { s with fb := r.2 })
  | .framebuffer, _ => some (Image.memory s.fb.framebuffer, s)

/-- A part of the display pipe. -/
def pipe {α : Type} (p : UsbProg α) : DriverProg α :=
  p.expand fun o => Prog.ask (DriverOp.usb o)

/-- The `rpusbdisp_usb_try_` call of a send. -/
def Send.prog (dev : Dev) (c : Send) : DriverProg Bool := do
  let framebuffer ← (Prog.ask DriverOp.framebuffer : DriverProg (Int → Pixel))
  pipe ((c.command framebuffer).prog dev)

/-- An operation of the framebuffer driver, where a send is a whole call. -/
def FbOp.prog (dev : Dev) : (o : FbOp) → DriverProg o.Res
  | .send _ c => c.prog dev
  | o => Prog.ask (DriverOp.fb o)

/-- A part of the framebuffer driver. -/
def drawing {α : Type} (dev : Dev) (p : FbProg α) : DriverProg α :=
  p.expand (FbOp.prog dev)

/-- `_on_display_transfer_finished_delaywork` of device `d`. -/
def onDisplayTransferFinishedDelaywork (dev : Dev) (d : Nat) : DriverProg Unit := do
  if ← (Prog.ask (DriverOp.usb .isAlive) : DriverProg Bool) then
    drawing dev (fbhandlerOnAllTransferDone d)

/-- `_on_parse_status_packet`, for a packet with the dirty flag. -/
def onParseStatusPacket (dev : Dev) (d : Nat) : DriverProg Unit := do
  drawing dev (fbhandlerSetUnsync d)
  Prog.ask (DriverOp.usb .scheduleCompletionWork)

/-! ## What a thread attends to -/

/-- The two signs that something is left to send. -/
inductive Flag where
  | dirty
  | unsync
  deriving DecidableEq

/-- How far a thread is: before it reads the two flags, between the two, before its
update looks at `unsync_flag`, before it has bought tickets, before its send has
come out, before it schedules the work, or past all that. -/
inductive Phase where
  | looking
  | looked
  | waiting
  | marking
  | sending
  | announcing
  | done
  deriving DecidableEq

/-- The phase after an operation of the framebuffer driver. -/
def Phase.next (ph : Phase) : (o : FbOp) → o.Res → Phase
  | .dirtyFlagRead, dirtyFlag => if dirtyFlag then .waiting else .looked
  | .unsyncRead, unsyncFlag => if unsyncFlag = 1 then .waiting else .done
  | .unsyncDecAndTest, _ => .marking
  | .setDirtyRect r, _ => if r.Inverted then .done else ph
  | .send _ _, sent => if sent then .sending else .done
  | .clearDirtyRect, _ => .done
  | _, _ => ph

/-- The ghost state of a thread: the tickets it owes, whether a submission of its
was refused, and its phase. -/
structure Life where
  held : List Nat
  failed : Bool
  phase : Phase

namespace Life

/-- The display call the thread is in. -/
def call (l : Life) : Call :=
  { Call.start (.completion ⟨0, ⟨[], 0, 0⟩⟩) with held := l.held, failed := l.failed }

/-- Which flags the thread attends to. -/
def attends (l : Life) (flag : Flag) : Bool :=
  match l.phase, flag with
  | .looking, _ => true
  | .looked, .unsync => true
  | .waiting, _ => true
  | .marking, _ => true
  | .announcing, _ => true
  | .sending, .dirty => !l.failed
  | _, _ => false

/-- The phase after an operation of the display pipe. -/
def nextPhase (l : Life) : (o : UsbOp) → o.Res → Phase
  | .sellTickets _, bundle =>
      if l.phase = .marking then if bundle.isSome then .sending else .done else l.phase
  | .scheduleCompletionWork, _ => if l.phase = .announcing then .done else l.phase
  | _, _ => l.phase

def track (l : Life) : (o : DriverOp) → o.Res → Life
  | .usb o, r => ⟨(l.call.track o r).held, (l.call.track o r).failed, l.nextPhase o r⟩
  | .fb o, r => { l with phase := l.phase.next o r }
  | .framebuffer, _ => l

/-- Who is past everything attends to nothing. -/
theorem attends_done {l : Life} (h : l.phase = .done) (flag : Flag) : l.attends flag = false := by
  unfold attends
  rw [h]

/-- Who has bought tickets does not look at `unsync_flag` again. -/
theorem attends_sending {l : Life} (h : l.phase = .sending) : l.attends .unsync = false := by
  unfold attends
  rw [h]

end Life

/-- What the framebuffer driver may ask, seen from its phases. -/
def phaseProtocol (d : Nat) : Protocol FbOp FbOp.Res Phase where
  pre ph
    | .dirtyFlagRead => ph = .looking
    | .unsyncRead => ph = .looked
    | .unsyncDecAndTest => ph = .waiting
    | .setDirtyRect r => ph = .marking ∧ r.Within
    | .setDirtyFlag => ph = .marking
    | .send _ (.image r _) => ph = .marking ∧ r.Within ∧ ¬ r.Inverted
    | .send _ (.accelerated _) => ph = .marking
    | .clearDirtyRect => ph = .sending
    | .unlockOperation => ph = .done
    | .setUnsync => ph = .announcing
    | _ => True
  answer _
    | .bindedUsbdev, r => r = some d
    | .fbHandle dev, r => dev = d → r = true
    | .dirtyRect, r => r.Within
    | _, _ => True
  track := Phase.next

/-- What a thread may ask, and what it may be told, on a bound, alive device. -/
def lifeProtocol (d : Nat) (dev : Dev) (size : Nat) : Protocol DriverOp DriverOp.Res Life where
  pre l
    | .usb o => (callProtocol dev size).pre l.call o
    | .fb (.setDirtyRect r) => l.phase = .marking ∧ r.Within
    | .fb .setDirtyFlag => l.phase = .marking
    | .fb (.send _ _) => False
    | .fb .clearDirtyRect => l.attends .unsync = false
    | .fb .unlockOperation => ∀ flag, l.attends flag = false
    | .fb .setUnsync => l.phase = .announcing
    | .fb .dirtyFlagRead => l.phase = .looking
    | .fb .unsyncRead => l.phase = .looked
    | _ => True
  answer l
    | .usb .isAlive, r => r = true
    | .usb o, r => (callProtocol dev size).answer l.call o r
    | .fb o, r => (phaseProtocol d).answer l.phase o r
    | .framebuffer, _ => True
  track := Life.track

section Phases

/-! ## The phases of the framebuffer driver -/

variable {d : Nat} {F : Fault → Prop}

/-- **An update** looks at `unsync_flag`, and then sends what there is or finds that
there is nothing. -/
theorem displayUpdate_phases {x y width height : Int} {hint : UpdateHint} (hx : 0 ≤ x)
    (hy : 0 ≤ y) (hwidth : x + width ≤ RP_DISP_DEFAULT_WIDTH)
    (hheight : y + height ≤ RP_DISP_DEFAULT_HEIGHT) :
    (displayUpdate x y width height hint).wp (phaseProtocol d) F (fun _ ph => ph = .done)
      .waiting := by
  have hunlock : ∀ ph : Phase, ph = .done →
      (Prog.ask FbOp.unlockOperation : FbProg Unit).wp (phaseProtocol d) F
        (fun _ ph => ph = .done) ph := by
    intro ph h
    obtain rfl := h
    exact ⟨rfl, fun _ _ => rfl⟩
  unfold displayUpdate
  rw [wp_ask_bind]
  refine ⟨trivial, fun _ _ => ?_⟩
  rw [wp_bind]
  unfold displayUpdateLocked
  rw [wp_ask_bind]
  refine ⟨trivial, fun binded hbinded => ?_⟩
  subst hbinded
  simp only []
  rw [wp_ask_bind]
  refine ⟨rfl, fun clearDirty _ => ?_⟩
  rw [wp_ask_bind]
  refine ⟨trivial, fun old hold => ?_⟩
  generalize hrect : (if clearDirty then Rect.full else old.extend x y width height) = rect
  have hwithin : rect.Within := by
    rw [← hrect]
    split
    · exact Rect.full_within
    · exact Rect.Within.extend hold hx hy hwidth hheight
  rw [wp_ask_bind]
  refine ⟨⟨rfl, hwithin⟩, fun _ _ => ?_⟩
  by_cases hinverted : rect.Inverted
  · rw [if_pos hinverted]
    apply hunlock
    exact if_pos hinverted
  · rw [if_neg hinverted]
    generalize hmarking : (phaseProtocol d).track _ (FbOp.setDirtyRect rect) _ = ph
    obtain rfl : Phase.marking = ph := (if_neg hinverted).symm.trans hmarking
    rw [wp_ask_bind]
    refine ⟨rfl, fun _ _ => ?_⟩
    rw [wp_ask_bind]
    refine ⟨trivial, fun binded hbinded => ?_⟩
    subst hbinded
    simp only []
    rw [wp_ask_bind]
    constructor
    · cases hint with
      | accelerated a => exact rfl
      | none => exact ⟨rfl, hwithin, hinverted⟩
      | bitblt => exact ⟨rfl, hwithin, hinverted⟩
    · intro sent _
      cases sent with
      | true => exact ⟨rfl, fun _ _ => hunlock _ rfl⟩
      | false => exact hunlock _ rfl

/-- An update of the whole display. -/
theorem wholeUpdate_phases {hint : UpdateHint} :
    (displayUpdate 0 0 RP_DISP_DEFAULT_WIDTH RP_DISP_DEFAULT_HEIGHT hint).wp (phaseProtocol d) F
      (fun _ ph => ph = .done) .waiting :=
  displayUpdate_phases (Int.le_refl 0) (Int.le_refl 0) (by decide) (by decide)

/-- **A drawing callback** paints and updates. -/
theorem callback_phases {c : Callback} (hscreen : c.OnScreen) :
    c.prog.wp (phaseProtocol d) F (fun _ ph => ph = .done) .waiting := by
  apply c.prog_wp (fun _ : True => hscreen) (fun _ => ⟨trivial, rfl⟩)
  intro x y width height hint hfits
  obtain ⟨hx, hy, hwidth, hheight⟩ := hfits trivial
  exact displayUpdate_phases hx hy hwidth hheight

/-- **The completion work** reads the two flags, and updates if one is set. -/
theorem transferDone_phases :
    (fbhandlerOnAllTransferDone d).wp (phaseProtocol d) F (fun _ ph => ph = .done) .looking := by
  unfold fbhandlerOnAllTransferDone
  rw [wp_ask_bind]
  refine ⟨trivial, fun handle hhandle => ?_⟩
  rw [if_pos (hhandle rfl), wp_bind]
  unfold anythingPending
  rw [wp_ask_bind]
  refine ⟨rfl, fun dirtyFlag _ => ?_⟩
  cases dirtyFlag with
  | true => exact wholeUpdate_phases
  | false =>
      rw [if_neg Bool.false_ne_true, wp_ask_bind]
      refine ⟨rfl, fun unsyncFlag _ => ?_⟩
      show Prog.wp _ _ _ (if decide (unsyncFlag = 1) = true then _ else _)
        (if unsyncFlag = 1 then Phase.waiting else .done)
      by_cases hone : unsyncFlag = 1
      · rw [if_pos hone, if_pos (decide_eq_true hone)]
        exact wholeUpdate_phases
      · rw [if_neg hone, if_neg (fun h => hone (of_decide_eq_true h))]
        exact rfl

/-- Owing a refresh leaves the phase as it is. -/
theorem setUnsync_phases :
    (fbhandlerSetUnsync d).wp (phaseProtocol d) F (fun _ ph => ph = .announcing) .announcing := by
  unfold fbhandlerSetUnsync
  rw [wp_ask_bind]
  refine ⟨trivial, fun handle hhandle => ?_⟩
  rw [if_pos (hhandle rfl)]
  exact ⟨rfl, fun _ _ => rfl⟩

end Phases

section Lives

/-! ## The lives of the threads -/

variable {d : Nat} {dev : Dev} {size : Nat}

/-- What a call may ask depends on what it holds alone. -/
theorem callProtocol_pre_congr {g g' : Call} (h : g.held = g'.held) (o : UsbOp) :
    (callProtocol dev size).pre g o → (callProtocol dev size).pre g' o := by
  cases o <;> simp only [callProtocol, h, imp_self]

/-- What a call holds afterwards depends on what it held, and so with failing. -/
theorem Call.track_congr {g g' : Call} (hheld : g.held = g'.held) (hfailed : g.failed = g'.failed)
    (o : UsbOp) (r : o.Res) :
    (g.track o r).held = (g'.track o r).held ∧ (g.track o r).failed = (g'.track o r).failed := by
  cases o with
  | sellTickets n =>
      cases r with
      | none => exact ⟨hheld, hfailed⟩
      | some ts => exact ⟨congrArg (· ++ ts.map Ticket.id) hheld, hfailed⟩
  | submitUrb site t =>
      cases r with
      | submitted => exact ⟨congrArg (List.erase · t.id) hheld, hfailed⟩
      | refused status => exact ⟨hheld, rfl⟩
  | returnTicket t => exact ⟨congrArg (List.erase · t.id) hheld, hfailed⟩
  | isAlive => exact ⟨hheld, hfailed⟩
  | setUnsyncFlag => exact ⟨hheld, hfailed⟩
  | scheduleCompletionWork => exact ⟨hheld, hfailed⟩

/-- Past the purchase the display pipe does not change the phase. -/
theorem Life.nextPhase_late {l : Life} (o : UsbOp) (r : o.Res)
    (h : l.phase = .sending ∨ l.phase = .done) : l.nextPhase o r = l.phase := by
  have hne : l.phase ≠ .marking ∧ l.phase ≠ .announcing := by
    rcases h with h | h <;> rw [h] <;> exact ⟨nofun, nofun⟩
  cases o with
  | sellTickets n => exact if_neg hne.1
  | scheduleCompletionWork => exact if_neg hne.2
  | _ => rfl

/-- A part of the display pipe, past the purchase or in a completion handler. -/
theorem pipe_wp {α : Type} {p : UsbProg α} {Q : α → Call → Prop} {g : Call} {l : Life}
    (h : p.wp (callProtocol dev size) (fun _ => True) Q g) (hheld : l.held = g.held)
    (hfailed : l.failed = g.failed) (hphase : l.phase = .sending ∨ l.phase = .done) :
    (pipe p).wp (lifeProtocol d dev size) (fun _ => True)
      (fun a l' => l'.phase = l.phase ∧ ∃ g', Q a g' ∧ l'.held = g'.held ∧ l'.failed = g'.failed)
      l := by
  have hsim : ∀ (g : Call) (l' : Life) (o : UsbOp),
      (l'.phase = l.phase ∧ l'.held = g.held ∧ l'.failed = g.failed) →
      (callProtocol dev size).pre g o →
      (Prog.ask (DriverOp.usb o) : DriverProg o.Res).wp (lifeProtocol d dev size) (fun _ => True)
        (fun r l'' => (callProtocol dev size).answer g o r ∧ l''.phase = l.phase ∧
          l''.held = (g.track o r).held ∧ l''.failed = (g.track o r).failed) l' := by
    intro g l' o hparts hpre
    obtain ⟨hphase', hheld', hfailed'⟩ := hparts
    refine ⟨callProtocol_pre_congr hheld'.symm o hpre, fun r hr => ⟨?_, ?_, ?_⟩⟩
    · cases o <;> first | exact hr | trivial
    · show l'.nextPhase o r = l.phase
      rw [Life.nextPhase_late o r (by rw [hphase']; exact hphase), hphase']
    · exact Call.track_congr hheld' hfailed' o r
  have hexpand := wp_expand _ hsim h ⟨rfl, hheld, hfailed⟩
  apply wp_mono hexpand (fun _ he => he)
  intro a l' hparts
  obtain ⟨g', ⟨hphase', hheld', hfailed'⟩, hq⟩ := hparts
  exact ⟨hphase', g', hq, hheld', hfailed'⟩

/-- A display call buys tickets first, unless it traps.  Without tickets it gives up
at once, and with tickets it returns 0 only after a refused submission. -/
def Buys (dev : Dev) (size : Nat) (p : UsbProg Bool) : Prop :=
  p = .fault .oops ∨ ∃ (n : Nat) (k : Bool → UsbProg Bool)
    (k' : Option (List Ticket) → UsbProg Bool), 0 < n ∧ p = .op .isAlive k ∧
      k true = .op (.sellTickets n) k' ∧ k' none = .ret false ∧
      ∀ ts : List Ticket, ts.length = n → (∀ t ∈ ts, t.Ready dev size) → ∀ task,
        (k' (some ts)).wp (callProtocol dev size) (fun _ => True)
          (fun ok g => ok = false → g.failed = true)
          { Call.start task with held := ts.map Ticket.id }

/-- The short commands buy one ticket. -/
theorem trySingle_buys {site : SubmitSite} {sizeofPacket length : Nat} {packet : List UInt8}
    (hsite : site ≠ .finalFlush) (hlength : packet.length ≤ length) :
    Buys dev size (trySingle dev site sizeofPacket length packet) := by
  right
  refine ⟨1, _, _, Nat.one_pos, rfl, rfl, rfl, ?_⟩
  intro ts hlen hready task
  obtain ⟨ticket, rfl⟩ : ∃ ticket, ts = [ticket] := List.length_eq_one_iff.mp hlen
  show (Prog.bugOn _ >>= fun _ => submitSingle dev site length packet ticket).wp _ _ _ _
  rw [wp_bugOn_bind]
  refine ⟨fun _ => trivial, fun _ => ?_⟩
  apply submitSingle_wp hsite hlength rfl (hready ticket List.mem_cons_self)
  · exact fun _ => trivial
  · exact fun _ _ hfalse => nomatch hfalse
  · exact fun _ => rfl

/-- An image on the screen buys its bundle. -/
theorem trySendImage_buys {mps : Nat} {fwver : UInt16} {host : HostOrder}
    {framebuffer : Int → Pixel} {x y right bottom lineWidth : Int} {clearDirty : Bool}
    (hin : InScreen x y right bottom) :
    Buys (.attached mps fwver host) size
      (trySendImage (.attached mps fwver host) framebuffer x y right bottom lineWidth clearDirty) := by
  obtain ⟨hsize, hpos, _⟩ := imageSize_eq hin framebuffer lineWidth
  have hnonzero : imageSize x y right bottom ≠ 0 := by omega
  rcases Dev.attached_required fwver host _ hin with hnone | ⟨n, hsome, hn, hmax⟩
  · left
    unfold trySendImage bitbltEncoderInit
    rw [if_neg hnonzero, hnone]
    rfl
  · right
    obtain ⟨k, k', hprog, hsell, hnone, hbought⟩ :=
      trySendImage_bought framebuffer lineWidth clearDirty hnonzero hsome hn hmax
    refine ⟨n, k, k', hn, hprog, hsell, hnone, ?_⟩
    intro ts hlen hready task
    cases ts with
    | nil => exact absurd hlen (Nat.ne_of_lt hn)
    | cons ticket later =>
        rw [hbought]
        apply encodeImage_wp rfl rfl (Fresh.sold hready hlen)
        · exact fun _ _ => trivial
        · exact fun _ => trivial
        · exact fun _ _ hfalse => nomatch hfalse
        · exact fun g hfailed _ => hfailed.failed

/-- **A call in the life of an update.**  If it returns 0, the thread was refused
something and attends to nothing any more. -/
theorem buys_pipe_wp {p : UsbProg Bool} (h : Buys dev size p) {l : Life}
    (hphase : l.phase = .marking) (hheld : l.held = []) (hfailed : l.failed = false) :
    (pipe p).wp (lifeProtocol d dev size) (fun _ => True)
      (fun sent l' => l'.attends .unsync = false ∧
        (sent = false → ∀ flag, l'.attends flag = false)) l := by
  rcases h with rfl | ⟨n, k, k', hn, rfl, hsell, hnone, hsome⟩
  · exact trivial
  · show (Prog.ask (DriverOp.usb .isAlive) >>= fun alive => pipe (k alive)).wp _ _ _ _
    rw [wp_ask_bind]
    refine ⟨trivial, fun alive halive => ?_⟩
    obtain rfl : alive = true := halive
    rw [hsell]
    show (Prog.ask (DriverOp.usb (.sellTickets n)) >>= fun bundle => pipe (k' bundle)).wp _ _ _ _
    rw [wp_ask_bind]
    refine ⟨hn, fun bundle hbundle => ?_⟩
    cases bundle with
    | none =>
        rw [hnone]
        have hdone : (l.track (.usb (.sellTickets n)) none).phase = .done := if_pos hphase
        exact ⟨Life.attends_done hdone _, fun _ => Life.attends_done hdone⟩
    | some ts =>
        obtain ⟨hlen, hready⟩ := hbundle ts rfl
        generalize hbought : (lifeProtocol d dev size).track _ (.usb (.sellTickets n)) (some ts) = l₁
        have hsending : l₁.phase = .sending := by
          rw [← hbought]
          exact if_pos hphase
        have hheld₁ : l₁.held = ts.map Ticket.id := by
          rw [← hbought]
          show l.held ++ ts.map Ticket.id = _
          rw [hheld, List.nil_append]
        have hfailed₁ : l₁.failed = false := by
          rw [← hbought]
          exact hfailed
        apply wp_mono (pipe_wp (hsome ts hlen hready (.completion ⟨0, ⟨[], 0, 0⟩⟩)) hheld₁ hfailed₁
          (Or.inl hsending)) (fun _ he => he)
        intro sent l' hparts
        obtain ⟨hphase', g, hrefused, _, hfailed'⟩ := hparts
        rw [hsending] at hphase'
        refine ⟨Life.attends_sending hphase', ?_⟩
        intro hsent flag
        have hfail : l'.failed = true := hfailed'.trans (hrefused hsent)
        cases flag with
        | unsync => exact Life.attends_sending hphase'
        | dirty => simp [Life.attends, hphase', hfail]

/-- **A send** in the life of an update, for a rectangle on the screen. -/
theorem send_wp {mps : Nat} {fwver : UInt16} {host : HostOrder} {c : Send}
    (hrect : ∀ rect clearDirty, c = .image rect clearDirty → rect.Within ∧ ¬ rect.Inverted)
    {l : Life} (hphase : l.phase = .marking) (hheld : l.held = []) (hfailed : l.failed = false) :
    (c.prog (.attached mps fwver host)).wp (lifeProtocol d (.attached mps fwver host) size)
      (fun _ => True) (fun sent l' => l'.attends .unsync = false ∧
        (sent = false → ∀ flag, l'.attends flag = false)) l := by
  unfold Send.prog
  rw [wp_ask_bind]
  refine ⟨trivial, fun framebuffer _ => ?_⟩
  apply buys_pipe_wp _ hphase hheld hfailed
  cases c with
  | image rect clearDirty =>
      obtain ⟨hwithin, hupright⟩ := hrect rect clearDirty rfl
      obtain ⟨hleft, htop, hright, hbottom⟩ := hwithin
      unfold Rect.Inverted at hupright
      exact trySendImage_buys ⟨hleft, by omega, hright, htop, by omega, hbottom⟩
  | accelerated a =>
      cases a with
      | fillrect rect =>
          exact trySingle_buys nofun (Nat.le_of_eq (FillrectPacket.toBytes_length _ _))
      | copyarea area =>
          exact trySingle_buys nofun (Nat.le_succ_of_le
            (Nat.le_of_eq (CopyareaPacket.toBytes_length _ _)))

/-- A thread that is in a phase, as far as what it attends to goes. -/
def Follows (ph : Phase) (l : Life) : Prop :=
  match ph with
  | .done => ∀ flag, l.attends flag = false
  | .sending => l.attends .unsync = false
  | ph => l.phase = ph ∧ l.held = [] ∧ l.failed = false

/-- **A part of the framebuffer driver** lives as its phases say. -/
theorem drawing_wp {mps : Nat} {fwver : UInt16} {host : HostOrder} {α : Type} {p : FbProg α}
    {Q : α → Phase → Prop} {ph : Phase} {l : Life}
    (h : p.wp (phaseProtocol d) (fun _ => True) Q ph) (hfollows : Follows ph l) :
    (drawing (.attached mps fwver host) p).wp (lifeProtocol d (.attached mps fwver host) size)
      (fun _ => True) (fun a l' => ∃ ph', Follows ph' l' ∧ Q a ph') l := by
  have hsim : ∀ (ph : Phase) (l : Life) (o : FbOp), Follows ph l → (phaseProtocol d).pre ph o →
      (o.prog (.attached mps fwver host)).wp (lifeProtocol d (.attached mps fwver host) size)
        (fun _ => True) (fun r l' => (phaseProtocol d).answer ph o r ∧ Follows (ph.next o r) l')
        l := by
    intro ph l o hfollows hpre
    cases o with
    | send dev c =>
        obtain rfl : ph = .marking := by
          cases c with
          | image rect clearDirty => exact hpre.1
          | accelerated a => exact hpre
        obtain ⟨hphase, hheld, hfailed⟩ := hfollows
        have hrect : ∀ rect clearDirty, c = .image rect clearDirty →
            rect.Within ∧ ¬ rect.Inverted := by
          intro rect clearDirty heq
          obtain rfl := heq
          exact hpre.2
        apply wp_mono (send_wp hrect hphase hheld hfailed) (fun _ he => he)
        intro sent l' hparts
        obtain ⟨hunsync, hrefused⟩ := hparts
        refine ⟨trivial, ?_⟩
        cases sent with
        | true => exact hunsync
        | false => exact hrefused rfl
    | unsyncDecAndTest =>
        obtain rfl : ph = .waiting := hpre
        exact ⟨trivial, fun _ _ => ⟨trivial, rfl, hfollows.2⟩⟩
    | unsyncRead =>
        obtain rfl : ph = .looked := hpre
        refine ⟨hfollows.1, fun v _ => ⟨trivial, ?_⟩⟩
        show Follows (if v = 1 then _ else _) ⟨l.held, l.failed, if v = 1 then _ else _⟩
        by_cases hone : v = 1
        · rw [if_pos hone]
          exact ⟨rfl, hfollows.2⟩
        · rw [if_neg hone]
          exact Life.attends_done rfl
    | setDirtyRect r =>
        obtain ⟨rfl, hwithin⟩ := hpre
        refine ⟨⟨hfollows.1, hwithin⟩, fun _ _ => ⟨trivial, ?_⟩⟩
        show Follows (if r.Inverted then _ else _)
          ⟨l.held, l.failed, if r.Inverted then _ else l.phase⟩
        by_cases hinverted : r.Inverted
        · rw [if_pos hinverted, if_pos hinverted]
          exact Life.attends_done rfl
        · rw [if_neg hinverted, if_neg hinverted]
          exact hfollows
    | dirtyFlagRead =>
        obtain rfl : ph = .looking := hpre
        refine ⟨hfollows.1, fun b _ => ⟨trivial, ?_⟩⟩
        cases b with
        | true => exact ⟨rfl, hfollows.2⟩
        | false => exact ⟨rfl, hfollows.2⟩
    | clearDirtyRect =>
        obtain rfl : ph = .sending := hpre
        exact ⟨hfollows, fun _ _ => ⟨trivial, Life.attends_done rfl⟩⟩
    | unlockOperation =>
        obtain rfl : ph = .done := hpre
        exact ⟨hfollows, fun _ _ => ⟨trivial, hfollows⟩⟩
    | setDirtyFlag =>
        obtain rfl : ph = .marking := hpre
        exact ⟨hfollows.1, fun _ _ => ⟨trivial, hfollows⟩⟩
    | setUnsync =>
        obtain rfl : ph = .announcing := hpre
        exact ⟨hfollows.1, fun _ _ => ⟨trivial, hfollows⟩⟩
    | lockOperation => exact ⟨trivial, fun _ hr => ⟨hr, hfollows⟩⟩
    | bindedUsbdev => exact ⟨trivial, fun _ hr => ⟨hr, hfollows⟩⟩
    | fbHandle dev => exact ⟨trivial, fun _ hr => ⟨hr, hfollows⟩⟩
    | dirtyRect => exact ⟨trivial, fun _ hr => ⟨hr, hfollows⟩⟩
    | paint t => exact ⟨trivial, fun _ hr => ⟨hr, hfollows⟩⟩
  exact wp_expand Follows hsim h hfollows

end Lives

/-! ## Runs of the driver -/

abbrev DriverWorld := World DriverState DriverOp DriverOp.Res Unit Life

/-- A drawing callback or the deferred I/O handler starts, the `k`-th URB in flight
completes, a status packet with the dirty flag comes in, the completion work
starts, thread `i` does its next operation or is over. -/
inductive DriverEvent where
  | callback (c : Callback)
  | deferredIo (top height : Int)
  | complete (k : Nat) (status : Int)
  | dirtyStatus
  | startWork
  | run (i : Nat) (choice : SubmitResult)
  | finish (i : Nat)

/-- The world after an event, if the event can happen. -/
def nextDriver (dev : Dev) (d : Nat) (palette : UInt32 → Pixel) (w : DriverWorld) :
    DriverEvent → Option DriverWorld
  | .callback c => some (w.spawn w.shared (drawing dev c.prog) ⟨[], false, .waiting⟩)
  | .deferredIo top height =>
      some (w.spawn w.shared (drawing dev (displayUpdate 0 top RP_DISP_DEFAULT_WIDTH height .none))
        ⟨[], false, .waiting⟩)
  | .complete k status =>
      match w.shared.usb.inFlight[k]? with
      | some t =>
          some (w.spawn
            { w.shared with
              usb := { w.shared.usb with inFlight := w.shared.usb.inFlight.eraseIdx k } }
            (pipe (onDisplayTransferFinished dev (t.setStatus status))) ⟨[t.id], false, .done⟩)
      | none => none
  | .dirtyStatus => some (w.spawn w.shared (onParseStatusPacket dev d) ⟨[], false, .announcing⟩)
  | .startWork =>
      if w.shared.workQueued then
        some (w.spawn { w.shared with workQueued := false }
          (onDisplayTransferFinishedDelaywork dev d) ⟨[], false, .looking⟩)
      else none
  | .run i choice => w.step (DriverState.exec palette) Life.track i choice
  | .finish i => w.finish i

/-- The worlds that can be reached by events that are all `allowed`. -/
inductive DriverRun (dev : Dev) (d : Nat) (palette : UInt32 → Pixel)
    (allowed : DriverWorld → DriverEvent → Prop) (start : DriverWorld) : DriverWorld → Prop where
  | start : DriverRun dev d palette allowed start start
  | step {w w' : DriverWorld} {e : DriverEvent} (h : DriverRun dev d palette allowed start w)
      (he : allowed w e) (hnext : nextDriver dev d palette w e = some w') :
      DriverRun dev d palette allowed start w'

/-- The driver when `_on_new_usb_device` is through: the device is bound, and the
first refresh is scheduled. -/
def boundWorld (dev : Dev) (buffers : List (List UInt8)) (fb : FbState) : DriverWorld :=
  { shared :=
      { usb := { isAlive := true, pool := allocDispTicketsPool dev buffers, inFlight := [] }
        fb := fb
        workQueued := true }
    threads := [] }

/-! ## Pending and attended to -/

/-- The flag says that something is left to send. -/
def DriverState.pending (s : DriverState) : Flag → Prop
  | .dirty => s.fb.pa.dirtyFlag = true
  | .unsync => s.fb.pa.unsyncFlag = 1

/-- All tickets are back in the pool. -/
def DriverState.allHome (s : DriverState) : Prop :=
  s.usb.pool.availiableCount = s.usb.pool.dispUrbCount

/-- The next thing the program does is to schedule the work. -/
def AboutToSchedule (p : DriverProg Unit) : Prop :=
  ∃ k, p = .op (.usb .scheduleCompletionWork) k

/-- The thread attends to the flag. -/
def Attends (flag : Flag) (t : Thread DriverOp DriverOp.Res Unit Life) : Prop :=
  AboutToSchedule t.prog ∨ t.ghost.attends flag = true

/-- The work is queued, or a thread other than `i` attends to the flag. -/
def AttendedElsewhere (w : DriverWorld) (i : Nat) (flag : Flag) : Prop :=
  w.shared.workQueued = true ∨ ∃ j t, j ≠ i ∧ w.threads[j]? = some t ∧ Attends flag t

/-- Where a thread turns away though all tickets are home, or are by then: it brings
the last ticket back and does not schedule the work, it is refused tickets, or it
finds an empty rectangle. -/
def TurnsAway (s : DriverState) : DriverProg Unit → Prop
  | .op (.usb (.returnTicket _)) k =>
      s.usb.pool.availiableCount + 1 = s.usb.pool.dispUrbCount ∧ ¬ AboutToSchedule (k true)
  | .op (.usb (.sellTickets n)) _ => n > s.usb.pool.availiableCount ∧ s.allHome
  | .op (.fb (.setDirtyRect r)) _ => r.Inverted ∧ s.allHome
  | _ => False

/-- Thread `i` does not turn away from a pending flag to which nobody else attends.
(The cleanup of a bundle whose submissions all succeeded turns away from
`unsync_flag` only, since its update clears the dirty flag.) -/
def Heeds (w : DriverWorld) (i : Nat) : Prop :=
  ∀ p l, w.threads[i]? = some ⟨p, l⟩ → TurnsAway w.shared p →
    ∀ flag, w.shared.pending flag →
      (flag = .dirty ∧ l.phase = .sending ∧ l.failed = false) ∨ AttendedElsewhere w i flag

/-- The rectangles an event brings are on the screen. -/
def DriverEvent.OnScreen : DriverEvent → Prop
  | .callback c => c.OnScreen
  | .deferredIo top height => 0 ≤ top ∧ top + height ≤ RP_DISP_DEFAULT_HEIGHT
  | _ => True

/-- No thread abandons a flag. -/
def Heeded (w : DriverWorld) (e : DriverEvent) : Prop :=
  e.OnScreen ∧ ∀ i choice, e = .run i choice → Heeds w i

/-- **Attended.**  A pending flag is attended to, or the work is queued, or a ticket
is out. -/
def Attended (w : DriverWorld) : Prop :=
  ∀ flag, w.shared.pending flag → w.shared.allHome →
    w.shared.workQueued = true ∨ ∃ t ∈ w.threads, Attends flag t

/-- What holds of the shared state in every run on a bound, alive device. -/
structure DriverState.Regular (d : Nat) (dev : Dev) (size : Nat) (s : DriverState) : Prop where
  sound : s.usb.Sound dev size
  alive : s.usb.isAlive = true
  binded : s.fb.pa.bindedUsbdev = some d
  handle : s.fb.fbHandle d = true
  within : s.fb.pa.dirtyRect.Within

/-- **The invariant of every run.** -/
structure Watched (d : Nat) (dev : Dev) (size : Nat) (w : DriverWorld) : Prop where
  shared : w.shared.Regular d dev size
  account : w.shared.usb.pool.availiableCount + (holdings Life.held w.threads).length +
    w.shared.usb.inFlight.length ≤ w.shared.usb.pool.dispUrbCount
  fine : w.Fine (lifeProtocol d dev size) (fun _ => True)
    (fun _ l => ∀ flag, l.attends flag = false)
  attended : Attended w

section Steps

/-! ## Steps -/

variable {d : Nat} {dev : Dev} {size : Nat} {palette : UInt32 → Pixel} {s s' : DriverState}
  {choice : SubmitResult} {l : Life}

theorem DriverState.exec_usb {o : UsbOp} {r : o.Res}
    (h : s.exec palette (.usb o) choice = some (r, s')) :
    ∃ u, s.usb.exec o choice = some (r, u) ∧ s' = { s.notify o with usb := u } := by
  obtain ⟨⟨r', u⟩, hexec, heq⟩ := Option.map_eq_some_iff.mp h
  cases heq
  exact ⟨u, hexec, rfl⟩

theorem DriverState.exec_fb {o : FbOp} {r : o.Res}
    (h : s.exec palette (.fb o) choice = some (r, s')) :
    ∃ fb, s.fb.exec palette o = some (r, fb) ∧ s' = { s with fb := fb } := by
  obtain ⟨⟨r', fb⟩, hexec, heq⟩ := Option.map_eq_some_iff.mp h
  cases heq
  exact ⟨fb, hexec, rfl⟩

/-- The display pipe does not touch what belongs to the framebuffer, but for the two
notices. -/
theorem DriverState.Regular.notify (h : s.Regular d dev size) (o : UsbOp) {u : UsbState}
    (hsound : u.Sound dev size) (halive : u.isAlive = true) :
    DriverState.Regular d dev size { s.notify o with usb := u } := by
  cases o <;> exact ⟨hsound, halive, h.binded, h.handle, h.within⟩

/-- No operation kills the device. -/
theorem UsbState.exec_isAlive {u u' : UsbState} {o : UsbOp} {r : o.Res}
    (h : u.exec o choice = some (r, u')) : u'.isAlive = u.isAlive := by
  cases o with
  | submitUrb site t =>
      cases choice with
      | submitted =>
          cases h
          rfl
      | refused status =>
          cases h
          rfl
  | _ =>
      cases h
      rfl

/-- **Operations** are answered as the protocol says, and the shared state stays
regular. -/
theorem DriverState.Regular.exec (h : s.Regular d dev size) {o : DriverOp} {r : o.Res}
    (hpre : (lifeProtocol d dev size).pre l o) (hexec : s.exec palette o choice = some (r, s')) :
    (lifeProtocol d dev size).answer l o r ∧ s'.Regular d dev size := by
  cases o with
  | usb o =>
      obtain ⟨u, hu, rfl⟩ := DriverState.exec_usb hexec
      obtain ⟨hanswer, hsound⟩ := h.sound.exec hpre hu
      refine ⟨?_, h.notify o hsound ((UsbState.exec_isAlive hu).trans h.alive)⟩
      cases o with
      | isAlive =>
          cases hu
          exact h.alive
      | _ => exact hanswer
  | fb o =>
      obtain ⟨fb, hfb, rfl⟩ := DriverState.exec_fb hexec
      obtain ⟨hsound, halive, hbinded, hhandle, hwithin⟩ := h
      cases o with
      | lockOperation =>
          simp only [FbState.exec] at hfb
          split at hfb
          · cases hfb
          · cases hfb
            exact ⟨trivial, hsound, halive, hbinded, hhandle, hwithin⟩
      | bindedUsbdev =>
          cases hfb
          exact ⟨hbinded, hsound, halive, hbinded, hhandle, hwithin⟩
      | fbHandle dev =>
          cases hfb
          refine ⟨?_, hsound, halive, hbinded, hhandle, hwithin⟩
          intro heq
          obtain rfl := heq
          exact hhandle
      | dirtyRect =>
          cases hfb
          exact ⟨hwithin, hsound, halive, hbinded, hhandle, hwithin⟩
      | setDirtyRect r =>
          cases hfb
          exact ⟨trivial, hsound, halive, hbinded, hhandle, hpre.2⟩
      | clearDirtyRect =>
          cases hfb
          exact ⟨trivial, hsound, halive, hbinded, hhandle, Rect.empty_within⟩
      | send dev c => cases hfb
      | _ =>
          cases hfb
          exact ⟨trivial, hsound, halive, hbinded, hhandle, hwithin⟩
  | framebuffer =>
      cases hexec
      exact ⟨trivial, h⟩

/-- An operation moves tickets between the pool, the thread and the bus. -/
theorem exec_account {o : DriverOp} {r : o.Res} (hpre : (lifeProtocol d dev size).pre l o)
    (hexec : s.exec palette o choice = some (r, s')) :
    s'.usb.pool.list.length + (l.track o r).held.length + s'.usb.inFlight.length =
        s.usb.pool.list.length + l.held.length + s.usb.inFlight.length ∧
      s'.usb.pool.dispUrbCount = s.usb.pool.dispUrbCount := by
  cases o with
  | usb o =>
      obtain ⟨u, hu, rfl⟩ := DriverState.exec_usb hexec
      obtain ⟨hmoves, hurbs⟩ := UsbState.exec_moves hpre hu
      have hlen := hmoves.length_eq
      simp only [List.length_append, List.length_map] at hlen
      exact ⟨hlen, hurbs⟩
  | fb o =>
      obtain ⟨fb, _, rfl⟩ := DriverState.exec_fb hexec
      exact ⟨rfl, rfl⟩
  | framebuffer =>
      cases hexec
      exact ⟨rfl, rfl⟩

/-- What an operation by which thread `t` becomes `t'` means for a pending flag: the
thread attends to it, or it did not before either, or it turned away from it. -/
inductive Minds (s : DriverState) (flag : Flag) (t t' : Thread DriverOp DriverOp.Res Unit Life) :
    Prop where
  | attends (h : Attends flag t')
  | idles (hpending : s.pending flag) (hhome : s.allHome) (h : ¬ Attends flag t)
  | abandons (hpending : s.pending flag) (haway : TurnsAway s t.prog)
      (hown : ¬ (flag = .dirty ∧ t.ghost.phase = .sending ∧ t.ghost.failed = false))

/-- An operation that concerns neither the flags nor the phase of its thread: who
attended before attends still. -/
theorem minds_steady {o : DriverOp} {r : o.Res} {k : o.Res → DriverProg Unit} {flag : Flag}
    (hschedule : o ≠ .usb .scheduleCompletionWork) (hpending : s.pending flag) (hhome : s.allHome)
    (hsame : l.attends flag = true → (l.track o r).attends flag = true) :
    Minds s flag ⟨.op o k, l⟩ ⟨k r, l.track o r⟩ := by
  cases hattends : l.attends flag with
  | true => exact .attends (Or.inr (hsame hattends))
  | false =>
      refine .idles hpending hhome ?_
      intro h
      rcases h with ⟨k', hprog⟩ | hattends'
      · cases hprog
        exact hschedule rfl
      · rw [show (⟨.op o k, l⟩ : Thread DriverOp DriverOp.Res Unit Life).ghost = l from rfl,
          hattends] at hattends'
        cases hattends'

/-- An update that has bought tickets and was refused nothing goes on to clear the
dirty flag. -/
theorem Life.attends_late {o : UsbOp} {r : o.Res} (hphase : l.phase = .sending)
    (hfailed : l.failed = false) (hsubmit : ∀ site t, o ≠ .submitUrb site t) :
    (l.track (.usb o) r).attends .dirty = true := by
  have hphase' : (l.track (.usb o) r).phase = .sending :=
    (Life.nextPhase_late o r (Or.inl hphase)).trans hphase
  have hfailed' : (l.track (.usb o) r).failed = false := by
    cases o with
    | submitUrb site t => exact absurd rfl (hsubmit site t)
    | sellTickets n =>
        cases r with
        | none => exact hfailed
        | some ts => exact hfailed
    | _ => exact hfailed
  simp [Life.attends, hphase', hfailed']

/-- A thread that turns away abandons the flag, unless it is going to clear it. -/
theorem minds_away {o : UsbOp} {r : o.Res} {k : o.Res → DriverProg Unit} {flag : Flag}
    (hsubmit : ∀ site t, o ≠ .submitUrb site t) (hpending : s.pending flag)
    (haway : TurnsAway s (.op (.usb o) k)) :
    Minds s flag ⟨.op (.usb o) k, l⟩ ⟨k r, l.track (.usb o) r⟩ := by
  by_cases hown : flag = .dirty ∧ l.phase = .sending ∧ l.failed = false
  · obtain ⟨rfl, hphase, hfailed⟩ := hown
    exact .attends (Or.inr (Life.attends_late hphase hfailed hsubmit))
  · exact .abandons hpending haway hown

/-- Where tickets were sold, one is out. -/
theorem minds_sellTickets {n : Nat} {r : Option (List Ticket)} {u : UsbState}
    {k : Option (List Ticket) → DriverProg Unit} {flag : Flag}
    (hcount : s.usb.pool.availiableCount ≤ s.usb.pool.dispUrbCount) (hpos : 0 < n)
    (hu : s.usb.exec (.sellTickets n) choice = some (r, u)) (hpending : s.pending flag)
    (hhome : u.pool.availiableCount = u.pool.dispUrbCount) :
    Minds s flag ⟨.op (.usb (.sellTickets n)) k, l⟩
      ⟨k r, l.track (.usb (.sellTickets n)) r⟩ := by
  cases hu
  by_cases hsold : n > s.usb.pool.availiableCount
  · rw [show s.usb.pool.sell n = (none, s.usb.pool) from if_pos hsold] at hhome
    have haway : TurnsAway s (.op (.usb (.sellTickets n)) k) := ⟨hsold, hhome⟩
    exact minds_away nofun hpending haway
  · rw [show s.usb.pool.sell n = (_, _) from if_neg hsold] at hhome
    have hback : s.usb.pool.availiableCount - n = s.usb.pool.dispUrbCount := hhome
    omega

/-- Whoever brings the last ticket home is told so. -/
theorem minds_returnTicket {t : Ticket} {r : Bool} {u : UsbState} {k : Bool → DriverProg Unit}
    {flag : Flag} (hu : s.usb.exec (.returnTicket t) choice = some (r, u))
    (hpending : s.pending flag) (hhome : u.pool.availiableCount = u.pool.dispUrbCount) :
    Minds s flag ⟨.op (.usb (.returnTicket t)) k, l⟩
      ⟨k r, l.track (.usb (.returnTicket t)) r⟩ := by
  cases hu
  have hlast : s.usb.pool.availiableCount + 1 = s.usb.pool.dispUrbCount := hhome
  have hall : (s.usb.pool.giveBack t).1 = true := decide_eq_true hlast
  by_cases hschedule : AboutToSchedule (k true)
  · rw [← hall] at hschedule
    exact .attends (Or.inl hschedule)
  · have haway : TurnsAway s (.op (.usb (.returnTicket t)) k) := ⟨hlast, hschedule⟩
    exact minds_away nofun hpending haway

/-- The operations of the display pipe. -/
theorem minds_usb {o : UsbOp} {r : o.Res} {u : UsbState} {k : o.Res → DriverProg Unit}
    {flag : Flag}
    (haccount : s.usb.pool.availiableCount + l.held.length ≤ s.usb.pool.dispUrbCount)
    (hpre : (lifeProtocol d dev size).pre l (.usb o)) (hu : s.usb.exec o choice = some (r, u))
    (hpending : DriverState.pending { s.notify o with usb := u } flag)
    (hhome : u.pool.availiableCount = u.pool.dispUrbCount) :
    (s.notify o).workQueued = true ∨
      Minds s flag ⟨.op (.usb o) k, l⟩ ⟨k r, l.track (.usb o) r⟩ := by
  -- while a thread holds a ticket not all are home
  have hout : l.held ≠ [] → s.usb.pool.availiableCount ≠ s.usb.pool.dispUrbCount := by
    intro hheld
    have hpos := List.length_pos_iff.mpr hheld
    omega
  cases o with
  | isAlive =>
      cases hu
      exact Or.inr (minds_steady nofun hpending hhome id)
  | sellTickets n =>
      have hcount : s.usb.pool.availiableCount ≤ s.usb.pool.dispUrbCount := by omega
      exact Or.inr (minds_sellTickets hcount hpre hu hpending hhome)
  | returnTicket t => exact Or.inr (minds_returnTicket hu hpending hhome)
  | submitUrb site t =>
      have hheld : l.held ≠ [] := List.ne_nil_of_mem hpre.1
      cases choice with
      | submitted =>
          cases hu
          exact absurd hhome (hout hheld)
      | refused status =>
          cases hu
          exact absurd hhome (hout hheld)
  | setUnsyncFlag =>
      cases hu
      exact absurd hhome (hout hpre)
  | scheduleCompletionWork => exact Or.inl rfl

section Private

variable {fb : FbState} {flag : Flag}

/-- A thread that finds `unsync_flag` at 1 goes on, and otherwise it does not attend
to the dirty flag. -/
theorem minds_unsyncRead {r : BitVec 32} {k : BitVec 32 → DriverProg Unit}
    (hphase : l.phase = .looked)
    (hfb : s.fb.exec palette .unsyncRead = some (r, fb))
    (hpending : DriverState.pending { s with fb := fb } flag) (hhome : s.allHome) :
    Minds s flag ⟨.op (.fb .unsyncRead) k, l⟩ ⟨k r, l.track (.fb .unsyncRead) r⟩ := by
  cases hfb
  by_cases hone : s.fb.pa.unsyncFlag = 1
  · refine .attends (Or.inr ?_)
    show (Life.mk _ _ (if s.fb.pa.unsyncFlag = 1 then _ else _)).attends flag = true
    rw [if_pos hone]
    cases flag <;> rfl
  · cases flag with
    | unsync => exact absurd hpending hone
    | dirty =>
        refine minds_steady nofun hpending hhome fun hattends => ?_
        simp [Life.attends, hphase] at hattends

/-- An update turns away from an empty rectangle. -/
theorem minds_setDirtyRect {rect : Rect} {r : Unit} {k : Unit → DriverProg Unit}
    (hphase : l.phase = .marking) (hfb : s.fb.exec palette (.setDirtyRect rect) = some (r, fb))
    (hpending : DriverState.pending { s with fb := fb } flag) (hhome : s.allHome) :
    Minds s flag ⟨.op (.fb (.setDirtyRect rect)) k, l⟩
      ⟨k r, l.track (.fb (.setDirtyRect rect)) r⟩ := by
  cases hfb
  by_cases hinverted : rect.Inverted
  · refine .abandons hpending ⟨hinverted, hhome⟩ ?_
    intro h
    obtain ⟨_, hsending, _⟩ := h
    cases hphase.symm.trans hsending
  · refine minds_steady nofun hpending hhome fun hattends => ?_
    show (Life.mk _ _ (if rect.Inverted then _ else _)).attends flag = true
    rw [if_neg hinverted]
    exact hattends

/-- The completion work looks at the dirty flag, and then at `unsync_flag`. -/
theorem minds_dirtyFlagRead {r : Bool} {k : Bool → DriverProg Unit}
    (hfb : s.fb.exec palette .dirtyFlagRead = some (r, fb))
    (hpending : DriverState.pending { s with fb := fb } flag) :
    Minds s flag ⟨.op (.fb .dirtyFlagRead) k, l⟩ ⟨k r, l.track (.fb .dirtyFlagRead) r⟩ := by
  cases hfb
  refine .attends (Or.inr ?_)
  cases hdirty : s.fb.pa.dirtyFlag with
  | true => cases flag <;> rfl
  | false =>
      cases flag with
      | dirty => exact absurd hpending (Bool.eq_false_iff.mp hdirty)
      | unsync => rfl

/-- Who clears the rectangle has not attended to `unsync_flag`. -/
theorem minds_clearDirtyRect {r : Unit} {k : Unit → DriverProg Unit}
    (hunsync : l.attends .unsync = false)
    (hfb : s.fb.exec palette .clearDirtyRect = some (r, fb))
    (hpending : DriverState.pending { s with fb := fb } flag) (hhome : s.allHome) :
    Minds s flag ⟨.op (.fb .clearDirtyRect) k, l⟩ ⟨k r, l.track (.fb .clearDirtyRect) r⟩ := by
  cases hfb
  cases flag with
  | dirty => cases hpending
  | unsync =>
      refine minds_steady nofun hpending hhome fun hattends => ?_
      rw [hunsync] at hattends
      cases hattends

/-- The operations on the framebuffer's private data. -/
theorem minds_fb {o : FbOp} {r : o.Res} {k : o.Res → DriverProg Unit}
    (hpre : (lifeProtocol d dev size).pre l (.fb o)) (hfb : s.fb.exec palette o = some (r, fb))
    (hpending : DriverState.pending { s with fb := fb } flag) (hhome : s.allHome) :
    Minds s flag ⟨.op (.fb o) k, l⟩ ⟨k r, l.track (.fb o) r⟩ := by
  cases o with
  | lockOperation =>
      simp only [FbState.exec] at hfb
      split at hfb
      · cases hfb
      · cases hfb
        exact minds_steady nofun hpending hhome id
  | unsyncDecAndTest =>
      refine .attends (Or.inr ?_)
      cases flag <;> rfl
  | unsyncRead => exact minds_unsyncRead hpre hfb hpending hhome
  | setUnsync =>
      refine .attends (Or.inr ?_)
      have hphase : (l.track (.fb .setUnsync) r).phase = .announcing := hpre
      cases flag <;> simp [Life.attends, hphase]
  | setDirtyRect rect => exact minds_setDirtyRect hpre.1 hfb hpending hhome
  | dirtyFlagRead => exact minds_dirtyFlagRead hfb hpending
  | setDirtyFlag =>
      refine .attends (Or.inr ?_)
      have hphase : (l.track (.fb .setDirtyFlag) r).phase = .marking := hpre
      cases flag <;> simp [Life.attends, hphase]
  | clearDirtyRect => exact minds_clearDirtyRect hpre hfb hpending hhome
  | send dev c => cases hfb
  | _ =>
      cases hfb
      exact minds_steady nofun hpending hhome id

end Private

/-- **What a thread does to a pending flag.**  After its operation the work is
queued, or it attends to the flag, or it did not before either, or it turns away. -/
theorem exec_minds {o : DriverOp} {r : o.Res} {k : o.Res → DriverProg Unit} {flag : Flag}
    (haccount : s.usb.pool.availiableCount + l.held.length ≤ s.usb.pool.dispUrbCount)
    (hpre : (lifeProtocol d dev size).pre l o) (hexec : s.exec palette o choice = some (r, s'))
    (hpending : s'.pending flag) (hhome : s'.allHome) :
    s'.workQueued = true ∨ Minds s flag ⟨.op o k, l⟩ ⟨k r, l.track o r⟩ := by
  cases o with
  | usb o =>
      obtain ⟨u, hu, rfl⟩ := DriverState.exec_usb hexec
      exact minds_usb haccount hpre hu hpending hhome
  | fb o =>
      obtain ⟨fb, hfb, rfl⟩ := DriverState.exec_fb hexec
      exact Or.inr (minds_fb hpre hfb hpending hhome)
  | framebuffer =>
      cases hexec
      exact Or.inr (minds_steady nofun hpending hhome id)

end Steps

section Runs

/-! ## No update is stranded -/

variable {d size mps : Nat} {fwver : UInt16} {host : HostOrder} {palette : UInt32 → Pixel}

/-- A drawing thread that ends past everything attends to nothing then. -/
theorem drawing_ends {p : FbProg Unit} {ph : Phase} {l : Life}
    (h : p.wp (phaseProtocol d) (fun _ => True) (fun _ ph' => ph' = .done) ph)
    (hfollows : Follows ph l) :
    (drawing (.attached mps fwver host) p).wp (lifeProtocol d (.attached mps fwver host) size)
      (fun _ => True) (fun _ l' => ∀ flag, l'.attends flag = false) l := by
  apply wp_mono (drawing_wp h hfollows) (fun _ he => he)
  intro _ l' hparts
  obtain ⟨ph', hfollows', rfl⟩ := hparts
  exact hfollows'

/-- The completion work. -/
theorem delaywork_wp :
    (onDisplayTransferFinishedDelaywork (.attached mps fwver host) d).wp
      (lifeProtocol d (.attached mps fwver host) size) (fun _ => True)
      (fun _ l => ∀ flag, l.attends flag = false) ⟨[], false, .looking⟩ := by
  unfold onDisplayTransferFinishedDelaywork
  rw [wp_ask_bind]
  refine ⟨trivial, fun alive halive => ?_⟩
  obtain rfl : alive = true := halive
  exact drawing_ends transferDone_phases ⟨rfl, rfl, rfl⟩

/-- The status handler owes a refresh and schedules the work. -/
theorem statusPacket_wp :
    (onParseStatusPacket (.attached mps fwver host) d).wp
      (lifeProtocol d (.attached mps fwver host) size) (fun _ => True)
      (fun _ l => ∀ flag, l.attends flag = false) ⟨[], false, .announcing⟩ := by
  unfold onParseStatusPacket
  rw [wp_bind]
  apply wp_mono (drawing_wp setUnsync_phases ⟨rfl, rfl, rfl⟩) (fun _ he => he)
  intro _ l h
  obtain ⟨ph, hfollows, rfl⟩ := h
  obtain ⟨hphase, _⟩ := hfollows
  exact ⟨trivial, fun _ _ => Life.attends_done (if_pos hphase)⟩

/-- The completion handler. -/
theorem completion_life {dev : Dev} {t : Ticket} (hroom : t.room = size) :
    (pipe (onDisplayTransferFinished dev t)).wp (lifeProtocol d dev size) (fun _ => True)
      (fun _ l => ∀ flag, l.attends flag = false) ⟨[t.id], false, .done⟩ := by
  have hspec : (onDisplayTransferFinished dev t).wp (callProtocol dev size) (fun _ => True)
      (fun _ _ => True) { Call.start (.completion t) with held := [t.id] } := by
    apply onDisplayTransferFinished_wp
    · exact List.mem_singleton_self _
    · exact hroom
    · trivial
  apply wp_mono (pipe_wp hspec rfl rfl (Or.inr rfl)) (fun _ he => he)
  intro _ l h
  obtain ⟨hphase, _⟩ := h
  exact Life.attends_done hphase

/-- A new thread that holds nothing changes nothing for the others. -/
theorem Watched.spawn {w : DriverWorld} {dev : Dev} (h : Watched d dev size w)
    {p : DriverProg Unit} {ph : Phase}
    (hp : p.wp (lifeProtocol d dev size) (fun _ => True)
      (fun _ l => ∀ flag, l.attends flag = false) ⟨[], false, ph⟩) :
    Watched d dev size (w.spawn w.shared p ⟨[], false, ph⟩) where
  shared := h.shared
  account := by
    show _ + (holdings Life.held (w.threads ++ [_])).length + _ ≤ _
    rw [holdings_append, List.append_nil]
    exact h.account
  fine := h.fine.spawn hp
  attended := by
    intro flag hpending hhome
    rcases h.attended flag hpending hhome with hqueued | ⟨t, ht, hattends⟩
    · exact Or.inl hqueued
    · exact Or.inr ⟨t, List.mem_append_left _ ht, hattends⟩

/-- What was queued stays queued while threads run. -/
theorem exec_queued {s s' : DriverState} {o : DriverOp} {r : o.Res} {choice : SubmitResult}
    (hexec : s.exec palette o choice = some (r, s')) (h : s.workQueued = true) :
    s'.workQueued = true := by
  cases o with
  | usb o =>
      obtain ⟨u, _, rfl⟩ := DriverState.exec_usb hexec
      cases o with
      | scheduleCompletionWork => rfl
      | _ => exact h
  | fb o =>
      obtain ⟨fb, _, rfl⟩ := DriverState.exec_fb hexec
      exact h
  | framebuffer =>
      cases hexec
      exact h

/-- **A thread's operation.** -/
theorem Watched.run {w w' : DriverWorld} {dev : Dev} (h : Watched d dev size w) {i : Nat}
    {choice : SubmitResult} (hheeds : Heeds w i)
    (hnext : nextDriver dev d palette w (.run i choice) = some w') : Watched d dev size w' := by
  obtain ⟨o, k, l, r, s, hi, hexec, rfl⟩ := World.step_some hnext
  have hpre := h.fine.pre hi
  have hlt : i < w.threads.length := (List.getElem?_eq_some_iff.mp hi).1
  obtain ⟨hanswer, hshared⟩ := h.shared.exec hpre hexec
  have hhold : (holdings Life.held w.threads).length =
      l.held.length + (holdings Life.held (w.threads.eraseIdx i)).length := by
    rw [(holdings_perm Life.held hi).length_eq, List.length_append]
  have haccount := h.account
  refine ⟨hshared, ?_, h.fine.set hi hanswer s, ?_⟩
  · obtain ⟨hmoved, hurbs⟩ := exec_account hpre hexec
    have hset : (holdings Life.held (w.threads.set i ⟨k r, l.track o r⟩)).length =
        (l.track o r).held.length + (holdings Life.held (w.threads.eraseIdx i)).length := by
      rw [(holdings_set_perm Life.held _ hlt).length_eq, List.length_append]
    have hcount := h.shared.sound.count
    have hcount' := hshared.sound.count
    show s.usb.pool.availiableCount + (holdings Life.held (w.threads.set i _)).length +
      s.usb.inFlight.length ≤ s.usb.pool.dispUrbCount
    omega
  · intro flag hpending hhome
    -- somebody else goes on as before
    have helse : AttendedElsewhere w i flag → s.workQueued = true ∨
        ∃ t ∈ w.threads.set i ⟨k r, l.track o r⟩, Attends flag t := by
      intro hcase
      rcases hcase with hqueued | ⟨j, t, hji, hj, hattends⟩
      · exact Or.inl (exec_queued hexec hqueued)
      · refine Or.inr ⟨t, List.mem_of_getElem? (i := j) ?_, hattends⟩
        rw [List.getElem?_set_ne (Ne.symm hji)]
        exact hj
    rcases exec_minds (k := k) (by omega) hpre hexec hpending hhome with
      hqueued | hattends | ⟨hpending', hhome', hidle⟩ | ⟨hpending', haway, hown⟩
    · exact Or.inl hqueued
    · exact Or.inr ⟨_, List.mem_set hlt _, hattends⟩
    · apply helse
      rcases h.attended flag hpending' hhome' with hqueued | ⟨t, ht, hattends⟩
      · exact Or.inl hqueued
      · obtain ⟨j, hj⟩ := List.mem_iff_getElem?.mp ht
        refine Or.inr ⟨j, t, ?_, hj, hattends⟩
        intro heq
        obtain rfl := heq
        rw [hi] at hj
        exact hidle (Option.some.inj hj ▸ hattends)
    · apply helse
      rcases hheeds _ _ hi haway flag hpending' with hsending | helsewhere
      · exact absurd hsending hown
      · exact helsewhere

/-- **Step.** -/
theorem Watched.step {w w' : DriverWorld} {e : DriverEvent}
    (h : Watched d (.attached mps fwver host) size w) (hheeded : Heeded w e)
    (hnext : nextDriver (.attached mps fwver host) d palette w e = some w') :
    Watched d (.attached mps fwver host) size w' := by
  cases e with
  | callback c =>
      cases hnext
      exact h.spawn (drawing_ends (callback_phases hheeded.1) ⟨rfl, rfl, rfl⟩)
  | deferredIo top height =>
      cases hnext
      obtain ⟨htop, hheight⟩ := hheeded.1
      exact h.spawn (drawing_ends (displayUpdate_phases (Int.le_refl 0) htop (by decide) hheight)
        ⟨rfl, rfl, rfl⟩)
  | complete k status =>
      simp only [nextDriver] at hnext
      split at hnext
      · rename_i t hk
        cases hnext
        obtain ⟨hsound, halive, hbinded, hhandle, hwithin⟩ := h.shared
        have hroom : (t.setStatus status).room = size :=
          hsound.flying t (List.mem_of_getElem? hk)
        refine ⟨⟨⟨hsound.ready, hsound.count, fun u hu => ?_⟩, halive, hbinded, hhandle, hwithin⟩,
          ?_, h.fine.spawn (completion_life hroom), ?_⟩
        · exact hsound.flying u (List.mem_of_mem_eraseIdx hu)
        · have haccount := h.account
          have hlt : k < w.shared.usb.inFlight.length := (List.getElem?_eq_some_iff.mp hk).1
          have herase := List.length_eraseIdx_of_lt hlt
          show w.shared.usb.pool.availiableCount + (holdings Life.held (w.threads ++ [_])).length +
            (w.shared.usb.inFlight.eraseIdx k).length ≤ w.shared.usb.pool.dispUrbCount
          rw [holdings_append, List.length_append]
          show w.shared.usb.pool.availiableCount + ((holdings Life.held w.threads).length + 1) +
            (w.shared.usb.inFlight.eraseIdx k).length ≤ w.shared.usb.pool.dispUrbCount
          omega
        · intro flag hpending hhome
          rcases h.attended flag hpending hhome with hqueued | ⟨u, hu, hattends⟩
          · exact Or.inl hqueued
          · exact Or.inr ⟨u, List.mem_append_left _ hu, hattends⟩
      · cases hnext
  | dirtyStatus =>
      cases hnext
      exact h.spawn statusPacket_wp
  | startWork =>
      simp only [nextDriver] at hnext
      split at hnext
      · cases hnext
        obtain ⟨hsound, halive, hbinded, hhandle, hwithin⟩ := h.shared
        have hspawned := h.spawn delaywork_wp
        refine ⟨⟨hsound, halive, hbinded, hhandle, hwithin⟩, hspawned.account, hspawned.fine, ?_⟩
        intro flag _ _
        exact Or.inr ⟨_, List.mem_append_right _ (List.mem_singleton_self _), Or.inr rfl⟩
      · cases hnext
  | run i choice => exact h.run (hheeded.2 i choice rfl) hnext
  | finish i =>
      obtain ⟨_, l, hi, rfl⟩ := World.finish_some hnext
      have hidle : ∀ flag, l.attends flag = false := h.fine.ret hi
      have haccount := h.account
      have hhold : (holdings Life.held w.threads).length =
          l.held.length + (holdings Life.held (w.threads.eraseIdx i)).length := by
        rw [(holdings_perm Life.held hi).length_eq, List.length_append]
      refine ⟨h.shared, ?_, h.fine.erase i, ?_⟩
      · show w.shared.usb.pool.availiableCount +
          (holdings Life.held (w.threads.eraseIdx i)).length + w.shared.usb.inFlight.length ≤
            w.shared.usb.pool.dispUrbCount
        omega
      · intro flag hpending hhome
        rcases h.attended flag hpending hhome with hqueued | ⟨t, ht, hattends⟩
        · exact Or.inl hqueued
        · obtain ⟨j, hj⟩ := List.mem_iff_getElem?.mp ht
          refine Or.inr ⟨t, List.mem_eraseIdx_iff_getElem?.mpr ⟨j, ?_, hj⟩, hattends⟩
          intro heq
          obtain rfl := heq
          rw [hi] at hj
          cases hj
          rcases hattends with ⟨k, hprog⟩ | hattends
          · cases hprog
          · rw [hidle flag] at hattends
            cases hattends

/-- **Run.** -/
theorem DriverRun.watched {w₀ w : DriverWorld}
    (h : DriverRun (.attached mps fwver host) d palette Heeded w₀ w)
    (h₀ : Watched d (.attached mps fwver host) size w₀) :
    Watched d (.attached mps fwver host) size w := by
  induction h with
  | start => exact h₀
  | step _ hheeded hnext ih => exact ih.step hheeded hnext

theorem boundWorld_watched (dev : Dev) (buffers : Buffers) {fb : FbState} (hbound : Bound d fb)
    (hwithin : fb.pa.dirtyRect.Within) :
    Watched d dev RPUSBDISP_MAX_TRANSFER_SIZE (boundWorld dev buffers.list fb) where
  shared := ⟨(freshWorld_sound dev buffers).shared, rfl, hbound.binded, hbound.handle, hwithin⟩
  account := Nat.le_refl _
  fine := fun _ ht => absurd ht List.not_mem_nil
  attended := fun _ _ _ => Or.inl rfl

/-- Nothing runs, no URB is in flight, all tickets are home, and the work is not
queued. -/
structure Quiet (w : DriverWorld) : Prop where
  threads : w.threads = []
  inFlight : w.shared.usb.inFlight = []
  home : w.shared.allHome
  unqueued : w.shared.workQueued = false

end Runs

section Dot

/-! ## A dot on a device just bound -/

/-- An operation by which no thread turns away from a pending flag, whatever comes
after it. -/
def DriverState.calm (s : DriverState) : DriverOp → Bool
  | .usb (.returnTicket _) => !s.fb.pa.dirtyFlag && s.fb.pa.unsyncFlag ≠ 1
  | .usb (.sellTickets n) => n ≤ s.usb.pool.availiableCount
  | .fb (.setDirtyRect r) => !decide r.Inverted
  | _ => true

/-- A calm operation abandons no flag. -/
theorem heeds_of_calm {s : DriverState} {o : DriverOp} {k : o.Res → DriverProg Unit} {l : Life}
    (h : s.calm o = true) : Heeds ⟨s, [⟨.op o k, l⟩]⟩ 0 := by
  intro p l' hthread haway flag hpending
  cases hthread
  cases o with
  | framebuffer => cases haway
  | usb o =>
      cases o with
      | returnTicket t =>
          simp only [DriverState.calm, Bool.and_eq_true, Bool.not_eq_true', decide_eq_true_eq] at h
          cases flag with
          | dirty => exact absurd (h.1.symm.trans hpending) Bool.false_ne_true
          | unsync => exact absurd hpending h.2
      | sellTickets n => exact absurd haway.1 (Nat.not_lt.mpr (of_decide_eq_true h))
      | _ => cases haway
  | fb o =>
      cases o with
      | setDirtyRect r =>
          simp only [DriverState.calm, Bool.not_eq_true', decide_eq_false_iff_not] at h
          exact absurd haway.1 h
      | _ => cases haway

variable {dev : Dev} {d : Nat} {palette : UInt32 → Pixel} {w₀ : DriverWorld}
  {allowed : DriverWorld → DriverEvent → Prop} {guard : DriverState → DriverOp → Bool}
  {choice : SubmitResult}

/-- The program alone, with one answer to its submissions, as long as the guard lets
its operations pass. -/
abbrev guarded (guard : DriverState → DriverOp → Bool) (choice : SubmitResult)
    (palette : UInt32 → Pixel) (p : DriverProg Unit) : DriverState → Option (Unit × DriverState) :=
  p.run fun s o => if guard s o then s.exec palette o choice else none

/-- **A thread by itself.**  What a program comes to alone, its thread comes to in
a run, and is over. -/
theorem DriverRun.alone {p : DriverProg Unit} {s s' : DriverState} {l : Life}
    (hguard : ∀ {s o k l}, guard s o = true → allowed ⟨s, [⟨.op o k, l⟩]⟩ (.run 0 choice))
    (hfinish : ∀ w, allowed w (.finish 0))
    (h : DriverRun dev d palette allowed w₀ ⟨s, [⟨p, l⟩]⟩)
    (hrun : guarded guard choice palette p s = some ((), s')) :
    DriverRun dev d palette allowed w₀ ⟨s', []⟩ := by
  induction p generalizing s l with
  | ret a =>
      cases hrun
      exact .step (e := .finish 0) h (hfinish _) rfl
  | fault e => cases hrun
  | op o k ih =>
      obtain ⟨⟨r, s₁⟩, hguarded, hrest⟩ := Option.bind_eq_some_iff.mp hrun
      obtain ⟨hcalm, hexec⟩ := Option.ite_none_right_eq_some.mp hguarded
      refine ih r (s := s₁) (l := l.track o r) (.step (e := .run 0 choice) h (hguard hcalm) ?_) hrest
      simp [nextDriver, World.step, hexec]

/-- A pool of one ticket for a device just bound. -/
def dotWorld : DriverWorld :=
  boundWorld (.attached 64 0x0104 .little) (Buffers.zeros 1 one_le_maxTickets).list justBound

/-- Nothing is pending, and the only ticket is at home or in flight. -/
def calmState (home inFlight : List Ticket) (framebuffer display : Image) (queued : Bool) :
    DriverState where
  usb := { isAlive := true, pool := ⟨home, 1, home.length⟩, inFlight := inFlight }
  fb :=
    { pa :=
        { dirtyRect := .empty
          dirtyFlag := false
          operationLock := false
          bindedUsbdev := some 0
          unsyncFlag := 0 }
      fbHandle := justBound.fbHandle
      framebuffer := framebuffer
      display := display }
  workQueued := queued

/-- The work finds nothing to do. -/
theorem work_idle (home inFlight : List Ticket) (framebuffer display : Image) (queued : Bool) :
    guarded DriverState.calm .submitted (fun c => c.toUInt16)
      (onDisplayTransferFinishedDelaywork (.attached 64 0x0104 .little) 0)
      (calmState home inFlight framebuffer display queued) =
        some ((), calmState home inFlight framebuffer display queued) := by
  with_unfolding_all rfl

/-- A good completion schedules the work. -/
theorem completion_schedules (t : Ticket) (framebuffer display : Image) : ∃ t',
    guarded DriverState.calm .submitted (fun c => c.toUInt16)
      (pipe (onDisplayTransferFinished (.attached 64 0x0104 .little) (t.setStatus 0)))
      (calmState [] [] framebuffer display false) =
        some ((), calmState [t'] [] framebuffer display true) :=
  ⟨_, by with_unfolding_all rfl⟩

/-- **The dot is sent** before the work starts, which then finds nothing to do. -/
theorem dot_sent (hcalm : ∀ {s o k l}, s.calm o = true →
      allowed ⟨s, [⟨.op o k, l⟩]⟩ (.run 0 .submitted))
    (hfinish : ∀ w, allowed w (.finish 0)) (hstart : ∀ w, allowed w .startWork)
    (hdot : ∀ w, allowed w (.callback (.fillrect dot))) :
    ∃ t framebuffer display,
      DriverRun (.attached 64 0x0104 .little) 0 (fun c => c.toUInt16) allowed dotWorld
        ⟨calmState [] [t] framebuffer display false, []⟩ := by
  have hsize : RPUSBDISP_MAX_TRANSFER_SIZE = 13 + 65011 := rfl
  have hworld : dotWorld = boundWorld (.attached 64 0x0104 .little)
      [List.replicate RPUSBDISP_MAX_TRANSFER_SIZE 0] justBound := rfl
  rw [hworld, hsize, ← List.replicate_append_replicate]
  generalize List.replicate 65011 (0 : UInt8) = rest
  obtain ⟨t, framebuffer, display, hrun⟩ : ∃ t framebuffer display,
      guarded DriverState.calm .submitted (fun c => c.toUInt16)
        (drawing (.attached 64 0x0104 .little) (Callback.fillrect dot).prog)
        (boundWorld (.attached 64 0x0104 .little) [List.replicate 13 0 ++ rest] justBound).shared =
          some ((), calmState [] [t] framebuffer display true) :=
    ⟨_, _, _, by with_unfolding_all rfl⟩
  have hcallback := DriverRun.alone (d := 0) hcalm hfinish
    (.step (e := .callback (.fillrect dot)) .start (hdot _) rfl) hrun
  have hwork := DriverRun.alone hcalm hfinish
    (.step (e := .startWork) hcallback (hstart _) rfl) (work_idle [] [t] framebuffer display false)
  exact ⟨t, framebuffer, display, hwork⟩

end Dot

end RpUsbDisp
