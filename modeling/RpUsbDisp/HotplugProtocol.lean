import RpUsbDisp.Hotplug

/-!
# What the threads of the driver may do

`hostProtocol` says what a thread may ask for, seen from its ghost: sends are made
under `operation_lock` and on the display that is bound, the binding is changed under
both mutexes, the stages of a removal follow each other, and a completion handler
schedules the work only right after its ticket.  Every thread keeps to it.
-/

namespace RpUsbDisp.Hotplug

open Programs

/-! ## The protocol of a thread -/

namespace Ghost

/-- The thread is between the two stores that bind display `d` or unbind it. -/
def Halfway (g : Ghost) (d : Nat) : Prop :=
  g.role = .life d .binding ∨ g.role = .life d .unbinding

/-- A completion handler of a display URB has its ticket to bring back, or the work to
schedule. -/
def Busy (g : Ghost) (o : HostOp) : Prop :=
  ∀ d announcing, g.role = .urb d announcing →
    if announcing then o = .dev d (.usb .scheduleCompletionWork)
    else ∃ c, g.serving = some (d, c) ∧ c.held ≠ []

/-- Who schedules the completion work of display `d`. -/
def MaySchedule (g : Ghost) (d : Nat) : Prop :=
  g.locks.known = some (some d) ∨ g.role = .urb d true ∨ g.role = .status d ∨
    g.role = .life d .probing ∨ g.role = .life d .probed

/-- What the thread may do to display `d`. -/
def MayDo (info : Nat → Dev) (g : Ghost) (d : Nat) : DisplayOp → Prop
  | .usb .isAlive => True
  | .usb .scheduleCompletionWork => g.MaySchedule d
  | .usb o => ∃ c, g.serving = some (d, c) ∧
      (callProtocol (info d) RPUSBDISP_MAX_TRANSFER_SIZE).pre c o
  | .allocDispTickets => g.role = .life d .allocating
  | .setAlive alive =>
      (alive = true ∧ g.role = .life d .probing) ∨ (alive = false ∧ g.role = .life d .leaving)
  | .setStatusFailCount _ => g.role = .life d .probing ∨ g.role = .status d
  | .submitStatusUrb => g.role = .life d .probing ∨ g.role = .status d
  | .killStatusUrb => g.role = .life d (.handle false)
  | .cancelDelayedWorkSync => g.role = .life d .killed
  | .dispUrbCount => g.role = .life d .cancelled
  | .takeTicket => ∃ ticketsCount taken, g.role = .life d (.draining ticketsCount taken)
  | .kfree => g.role = .life d .allocating ∨ ∃ taken, g.role = .life d (.draining taken taken)
  | .statusHandled => g.role = .status d
  | .workDone => g.role = .work d
  | .probed retval => (retval ≠ 0 ∧ g.role = .life d .allocating) ∨
      (retval = 0 ∧ (g.role = .life d .probing ∨ g.role = .life d .probed))
  | .disconnected => ∃ taken, g.role = .life d (.draining taken taken)
  | _ => True

/-- What the thread may do. -/
def May (info : Nat → Dev) (g : Ghost) : HostOp → Prop
  | .dev d o => g.MayDo info d o
  | .fb .lockOperation => g.locks.locked = false ∧ g.serving = none
  | .fb .unlockOperation => g.locks.locked = true ∧ ∀ d, ¬ g.Halfway d
  | .fb (.fbHandle d) => ∀ d', g.role = .life d' .leaving → d = d'
  | .callDisplay d _ => g.locks.locked = true ∧ g.locks.known = some (some d) ∧
      g.serving = none ∧ (∀ d', ¬ g.Halfway d') ∧ ∀ d' announcing, g.role ≠ .urb d' announcing
  | .lockDevreg => g.locks.registering = false
  | .unlockDevreg => g.locks.registering = true ∧ g.locks.locked = false ∧ ∀ d, ¬ g.Halfway d
  | .setBindedUsbdev binded => g.locks.locked = true ∧ g.locks.registering = true ∧
      g.serving = none ∧
      ((∃ d, binded = some d ∧ g.role = .life d .probing ∧ g.locks.known = some none) ∨
        (binded = none ∧ ∃ d, g.role = .life d (.handle true)))
  | .setFbhandle d handle =>
      (handle = true ∧ g.role = .life d .binding) ∨ (handle = false ∧ g.role = .life d .unbinding)
  | _ => True

end Ghost

/-- What a thread may do, and what it may be told: who has found `binded_usbdev` under
a mutex finds it again. -/
def hostProtocol (info : Nat → Dev) : Protocol HostOp HostOp.Res Ghost where
  pre g o := g.Busy o ∧ g.May info o
  answer g
    | .fb .bindedUsbdev, r => ∀ b, g.locks.known = some b → r = b
    | .dev d (.usb o), r => ∀ c, g.serving = some (d, c) →
        (callProtocol (info d) RPUSBDISP_MAX_TRANSFER_SIZE).answer c o r
    | _, _ => True
  track := Ghost.next

/-- Operations that leave the ghost of a thread alone. -/
def HostOp.Quiet : HostOp → Bool
  | .fb .lockOperation => false
  | .fb .unlockOperation => false
  | .fb .bindedUsbdev => false
  | .fb (.fbHandle _) => false
  | .fb _ => true
  | .dev _ (.usb .isAlive) => true
  | .dev _ (.request _) => true
  | .dev _ (.aside _) => true
  | .dev _ (.setAlive _) => true
  | .dev _ .statusFailCount => true
  | .dev _ (.setStatusFailCount _) => true
  | .dev _ .submitStatusUrb => true
  | .dev _ .kfree => true
  | _ => false

theorem Role.next_fb (role : Role) {o : FbOp} (r : o.Res)
    (h : ∀ d, role = .life d .leaving → ∀ d', o ≠ .fbHandle d') : role.next (.fb o) r = role := by
  cases role with
  | life d ph =>
      cases o with
      | fbHandle d' =>
          have hph : ph ≠ .leaving := fun hph => h d (by rw [hph]) d' rfl
          show Role.life d (if ph = .leaving then _ else ph) = _
          rw [if_neg hph]
      | _ => rfl
  | _ => rfl

theorem Ghost.next_quiet (g : Ghost) {o : HostOp} (r : o.Res) (h : o.Quiet = true) :
    g.next o r = g := by
  obtain ⟨role, locks, serving⟩ := g
  cases o with
  | fb o =>
      have hrole : role.next (.fb o) r = role :=
        role.next_fb r fun _ _ d' hd' => by rw [hd'] at h; cases h
      cases o <;> first
        | exact absurd h Bool.false_ne_true
        | exact congrArg (Ghost.mk · locks serving) hrole
  | dev d o =>
      cases o with
      | usb o =>
          cases o with
          | isAlive =>
              have hserving : serving.next (.dev d (.usb .isAlive)) r = serving := by
                cases serving <;> rfl
              cases role <;> exact congrArg (Ghost.mk _ locks ·) hserving
          | _ => exact absurd h Bool.false_ne_true
      | _ => first | exact absurd h Bool.false_ne_true | (cases role <;> rfl)
  | _ => exact absurd h Bool.false_ne_true

section Programs

/-! ## The programs keep to it -/

variable {info : Nat → Dev} {d : Nat} {F : Fault → Prop}

/-- A quiet operation and what follows it. -/
theorem wp_quiet {α : Type} {o : HostOp} {f : o.Res → HostProg α} {Q : α → Ghost → Prop} {g : Ghost}
    (hquiet : o.Quiet = true) (hpre : (hostProtocol info).pre g o)
    (h : ∀ r, (f r).wp (hostProtocol info) F Q g) :
    (Prog.ask o >>= f).wp (hostProtocol info) F Q g := by
  refine ⟨hpre, fun r _ => ?_⟩
  have hnext : (hostProtocol info).track g o r = g := g.next_quiet r hquiet
  rw [hnext]
  exact h r

/-- Nothing is asked of who is no completion handler of a display URB. -/
theorem Ghost.busy_of_role {g : Ghost} (h : ∀ d announcing, g.role ≠ .urb d announcing) (o : HostOp) :
    g.Busy o :=
  fun d announcing hrole => absurd hrole (h d announcing)

/-- `fbhandler_set_unsync_flag`. -/
theorem setUnsync_wp {g : Ghost} (hleaving : ∀ d', g.role ≠ .life d' .leaving)
    (hbusy : ∀ o : FbOp, g.Busy (.fb o)) :
    (framebufferPart (fbhandlerSetUnsync d)).wp (hostProtocol info) F (fun _ g' => g' = g) g := by
  refine ⟨⟨hbusy _, fun d' hrole => absurd hrole (hleaving d')⟩, fun handle _ => ?_⟩
  have hnext : (hostProtocol info).track g (.fb (.fbHandle d)) handle = g := by
    obtain ⟨role, locks, serving⟩ := g
    exact congrArg (Ghost.mk · locks serving)
      (role.next_fb (o := .fbHandle d) handle fun d' hrole => absurd hrole (hleaving d'))
  rw [hnext]
  cases handle with
  | false => exact rfl
  | true => exact ⟨⟨hbusy _, trivial⟩, fun _ _ => g.next_quiet _ rfl⟩

/-! ### The display pipe -/

/-- A role that only draws, or runs a completion work. -/
def Role.Draws : Role → Prop
  | .drawing => True
  | .work _ => True
  | _ => False

theorem Role.Draws.next {role : Role} (h : role.Draws) {o : HostOp} (r : o.Res)
    (hdone : ∀ d o', o = .dev d o' → ∃ o'', o' = .usb o'') : role.next o r = role := by
  cases o with
  | dev d o' =>
      obtain ⟨o'', rfl⟩ := hdone d o' rfl
      cases role <;> first | rfl | exact h.elim
  | _ => cases role <;> first | rfl | exact h.elim

theorem Role.Draws.not_urb {role : Role} (h : role.Draws) (d : Nat) (announcing : Bool) :
    role ≠ .urb d announcing := by
  intro heq
  obtain rfl := heq
  exact h

theorem Role.Draws.not_life {role : Role} (h : role.Draws) (d : Nat) (ph : LifePhase) :
    role ≠ .life d ph := by
  intro heq
  obtain rfl := heq
  exact h

/-- **A send** is a call on the bound display. -/
theorem send_wp {c : Send} {g : Ghost} (hrole : g.role.Draws) (hlocked : g.locks.locked = true)
    (hknown : g.locks.known = some (some d)) (hserving : g.serving = none) :
    (sendProg info d c).wp (hostProtocol info) (fun _ => True)
      (fun _ g' => g'.role = g.role ∧ g'.locks = g.locks) g := by
  have hbusy : ∀ g' : Ghost, g'.role = g.role → ∀ o, g'.Busy o := fun g' hrole' o =>
    Ghost.busy_of_role (fun d' announcing h => hrole.not_urb d' announcing (hrole' ▸ h)) o
  have hhalfway : ∀ d', ¬ g.Halfway d' := fun d' h =>
    h.elim (hrole.not_life d' _) (hrole.not_life d' _)
  refine ⟨⟨hbusy g rfl _, hlocked, hknown, hserving, hhalfway, hrole.not_urb⟩,
    fun framebuffer _ => ?_⟩
  have hsim : ∀ (call : Call) (g' : Ghost) (o : UsbOp),
      (g'.role = g.role ∧ g'.locks = g.locks ∧ g'.serving = some (d, call)) →
      (callProtocol (info d) RPUSBDISP_MAX_TRANSFER_SIZE).pre call o →
      (usbProg d o).wp (hostProtocol info) (fun _ => True) (fun r g'' =>
        (callProtocol (info d) RPUSBDISP_MAX_TRANSFER_SIZE).answer call o r ∧ g''.role = g.role ∧
          g''.locks = g.locks ∧ g''.serving = some (d, call.track o r)) g' := by
    intro call g' o hparts hpre
    obtain ⟨hrole', hlocks, hcall⟩ := hparts
    have hnext : ∀ r : o.Res, (g'.next (.dev d (.usb o)) r).role = g.role ∧
        (g'.next (.dev d (.usb o)) r).locks = g.locks ∧
        (g'.next (.dev d (.usb o)) r).serving = some (d, call.track o r) := by
      intro r
      refine ⟨?_, hlocks, ?_⟩
      · show g'.role.next _ _ = _
        rw [hrole']
        exact hrole.next (o := .dev d (.usb o)) r fun d' o' h => ⟨o, by cases h; rfl⟩
      · show g'.serving.map _ = _
        rw [hcall]
        rfl
    cases o with
    | setUnsyncFlag =>
        apply wp_mono (setUnsync_wp (fun d' h => hrole.not_life d' _ (hrole' ▸ h))
          fun o => hbusy g' hrole' _) (fun _ he => he)
        intro _ _ heq
        obtain rfl := heq
        exact ⟨trivial, hrole', hlocks, hcall⟩
    | scheduleCompletionWork =>
        have hfound : g'.locks.known = some (some d) := by
          rw [hlocks]
          exact hknown
        exact ⟨⟨hbusy g' hrole' _, Or.inl hfound⟩, fun r _ => ⟨trivial, hnext r⟩⟩
    | isAlive => exact ⟨⟨hbusy g' hrole' _, trivial⟩, fun r _ => ⟨trivial, hnext r⟩⟩
    | sellTickets n =>
        exact ⟨⟨hbusy g' hrole' _, call, hcall, hpre⟩, fun r hr => ⟨hr call hcall, hnext r⟩⟩
    | returnTicket t =>
        exact ⟨⟨hbusy g' hrole' _, call, hcall, hpre⟩, fun r hr => ⟨hr call hcall, hnext r⟩⟩
    | submitUrb site t =>
        exact ⟨⟨hbusy g' hrole' _, call, hcall, hpre⟩, fun r hr => ⟨hr call hcall, hnext r⟩⟩
  have hcommand : ((c.command framebuffer).prog (info d)).wp
      (callProtocol (info d) RPUSBDISP_MAX_TRANSFER_SIZE) (fun _ => True)
      (Call.Done (info d) RPUSBDISP_MAX_TRANSFER_SIZE)
      (Call.start (.command (c.command framebuffer))) := command_wp _
  have hstart : (g.next (.callDisplay d c) framebuffer).role = g.role ∧
      (g.next (.callDisplay d c) framebuffer).locks = g.locks ∧
      (g.next (.callDisplay d c) framebuffer).serving =
        some (d, Call.start (.command (c.command framebuffer))) :=
    ⟨hrole.next (o := .callDisplay d c) framebuffer (fun d' o' h => nomatch h), rfl, rfl⟩
  have hexpand := wp_expand _ hsim hcommand hstart
  apply wp_mono hexpand (fun _ he => he)
  intro _ g' hparts
  obtain ⟨_, ⟨hrole', hlocks, _⟩, _⟩ := hparts
  exact ⟨hrole', hlocks⟩

/-! ### The framebuffer driver -/

/-- What an update has of `operation_lock`: nothing yet, the lock, also
`binded_usbdev` under it, or the lock past its send. -/
inductive Holding where
  | out
  | inside
  | knows (binded : Option Nat)
  | sent

/-- What it has after an operation. -/
def Holding.next : Holding → (o : FbOp) → o.Res → Holding
  | _, .lockOperation, _ => .inside
  | _, .unlockOperation, _ => .out
  | .inside, .bindedUsbdev, binded => .knows binded
  | _, .send _ _, _ => .sent
  | h, _, _ => h

/-- The protocol of the lock: a send is made under it, on the device that is bound. -/
def lockProtocol : Protocol FbOp FbOp.Res Holding where
  pre h
    | .lockOperation => h = .out
    | .unlockOperation => h ≠ .out
    | .bindedUsbdev => h ≠ .sent
    | .send d _ => h = .knows (some d)
    | _ => True
  answer h
    | .bindedUsbdev, r => ∀ b, h = .knows b → r = b
    | _, _ => True
  track := Holding.next

/-- An update. -/
theorem displayUpdate_locks {x y width height : Int} {hint : UpdateHint} :
    (displayUpdate x y width height hint).wp lockProtocol F (fun _ h => h = .out) .out := by
  have hunlock : ∀ h : Holding, h ≠ .out → (Prog.ask FbOp.unlockOperation : FbProg Unit).wp
      lockProtocol F (fun _ h => h = .out) h := fun h hheld => ⟨hheld, fun _ _ => rfl⟩
  unfold displayUpdate
  rw [wp_ask_bind]
  refine ⟨rfl, fun _ _ => ?_⟩
  rw [wp_bind]
  unfold displayUpdateLocked
  rw [wp_ask_bind]
  refine ⟨nofun, fun binded _ => ?_⟩
  cases binded with
  | none => exact hunlock (.knows none) nofun
  | some dev =>
      rw [wp_ask_bind]
      refine ⟨trivial, fun clearDirty _ => ?_⟩
      rw [wp_ask_bind]
      refine ⟨trivial, fun old _ => ?_⟩
      rw [wp_ask_bind]
      refine ⟨trivial, fun _ _ => ?_⟩
      generalize (if clearDirty = true then Rect.full else old.extend x y width height) = rect
      by_cases hinverted : rect.Inverted
      · rw [if_pos hinverted]
        exact hunlock (.knows (some dev)) nofun
      · rw [if_neg hinverted, wp_ask_bind]
        refine ⟨trivial, fun _ _ => ?_⟩
        rw [wp_ask_bind]
        refine ⟨nofun, fun again hagain => ?_⟩
        obtain rfl : again = some dev := hagain _ rfl
        rw [wp_ask_bind]
        refine ⟨rfl, fun result _ => ?_⟩
        cases result with
        | true => exact ⟨trivial, fun _ _ => hunlock .sent nofun⟩
        | false => exact hunlock .sent nofun

/-- A drawing callback. -/
theorem callback_locks (c : Callback) :
    c.prog.wp lockProtocol F (fun _ h => h = .out) .out :=
  c.prog_wp False.elim (fun _ => ⟨trivial, rfl⟩) fun _ => displayUpdate_locks

/-- The deferred I/O handler, which looks at `binded_usbdev` without the lock first. -/
theorem defio_locks {a : Arch} (pfns : List a.Long) :
    ((vfbFix a).displayDefioHandler pfns).wp lockProtocol F (fun _ h => h = .out) .out := by
  unfold FbFix.displayDefioHandler
  rw [wp_ask_bind]
  refine ⟨nofun, fun binded _ => ?_⟩
  cases binded with
  | none => exact rfl
  | some dev => exact displayUpdate_locks

/-- The completion work. -/
theorem transferDone_locks (dev : Nat) :
    (fbhandlerOnAllTransferDone dev).wp lockProtocol F (fun _ h => h = .out) .out :=
  fbhandlerOnAllTransferDone_wp ⟨trivial, fun _ => rfl⟩ ⟨trivial, fun _ => rfl⟩
    ⟨trivial, fun _ => rfl⟩ rfl displayUpdate_locks

/-- A thread that has this much of the lock. -/
def Holding.Fits (h : Holding) (l : Locks) (serving : Serving) : Prop :=
  match h with
  | .out => l = {} ∧ serving = none
  | .inside => l = { locked := true } ∧ serving = none
  | .knows b => l = { locked := true, known := some b } ∧ serving = none
  | .sent => l.registering = false ∧ l.locked = true

/-- **A part of the framebuffer driver** keeps to the protocol of the lock. -/
theorem drawing_wp {α : Type} {p : FbProg α} {Q : α → Holding → Prop} {role : Role}
    (hrole : role.Draws) (h : p.wp lockProtocol (fun _ => True) Q .out) :
    (drawing info p).wp (hostProtocol info) (fun _ => True)
      (fun a g => ∃ h, (g.role = role ∧ h.Fits g.locks g.serving) ∧ Q a h) { role := role } := by
  have hsim : ∀ (h : Holding) (g : Ghost) (o : FbOp),
      (g.role = role ∧ h.Fits g.locks g.serving) → lockProtocol.pre h o →
      (fbProg info o).wp (hostProtocol info) (fun _ => True) (fun r g' => lockProtocol.answer h o r ∧
        g'.role = role ∧ (h.next o r).Fits g'.locks g'.serving) g := by
    intro h hparts o hparts' hpre
    obtain ⟨role, locks, serving⟩ := hparts
    obtain ⟨rfl, hfits⟩ := hparts'
    have hbusy : ∀ o, (Ghost.mk role locks serving).Busy o :=
      Ghost.busy_of_role hrole.not_urb
    have hfb : ∀ r : (HostOp.fb o).Res, role.next (.fb o) r = role := fun r =>
      hrole.next r fun d' o' h => nomatch h
    have hhalfway : ∀ d', ¬ (Ghost.mk role locks serving).Halfway d' := fun d' h =>
      h.elim (hrole.not_life d' _) (hrole.not_life d' _)
    cases o with
    | send d c =>
        obtain rfl : h = .knows (some d) := hpre
        obtain ⟨rfl, rfl⟩ := hfits
        apply wp_mono (send_wp hrole rfl rfl rfl) (fun _ he => he)
        intro _ g' hparts
        obtain ⟨hrole', hlocks⟩ := hparts
        exact ⟨trivial, hrole', by rw [hlocks], by rw [hlocks]⟩
    | lockOperation =>
        obtain rfl : h = .out := hpre
        obtain ⟨rfl, rfl⟩ := hfits
        exact ⟨⟨hbusy _, rfl, rfl⟩, fun _ _ => ⟨trivial, hfb _, rfl, rfl⟩⟩
    | unlockOperation =>
        have hlocked : locks.registering = false ∧ locks.locked = true := by
          cases h with
          | out => exact absurd rfl hpre
          | inside =>
              obtain ⟨rfl, _⟩ := hfits
              exact ⟨rfl, rfl⟩
          | knows b =>
              obtain ⟨rfl, _⟩ := hfits
              exact ⟨rfl, rfl⟩
          | sent => exact hfits
        obtain ⟨hregistering, hlocked⟩ := hlocked
        refine ⟨⟨hbusy _, hlocked, hhalfway⟩, fun r _ => ⟨trivial, hfb _, ?_, rfl⟩⟩
        show ({ locks with locked := false, known := if locks.registering then _ else _ } : Locks) = _
        rw [hregistering]
        rfl
    | bindedUsbdev =>
        cases h with
        | out =>
            obtain ⟨rfl, rfl⟩ := hfits
            exact ⟨⟨hbusy _, trivial⟩, fun _ _ => ⟨nofun, hfb _, rfl, rfl⟩⟩
        | inside =>
            obtain ⟨rfl, rfl⟩ := hfits
            exact ⟨⟨hbusy _, trivial⟩, fun _ _ => ⟨nofun, hfb _, rfl, rfl⟩⟩
        | knows b =>
            obtain ⟨rfl, rfl⟩ := hfits
            refine ⟨⟨hbusy _, trivial⟩, fun r hr => ?_⟩
            obtain rfl : r = b := hr b rfl
            exact ⟨fun b hb => by cases hb; rfl, hfb _, rfl, rfl⟩
        | sent => exact absurd rfl hpre
    | fbHandle dev =>
        refine ⟨⟨hbusy _, fun d' h => absurd h (hrole.not_life d' _)⟩, fun r _ => ?_⟩
        exact ⟨trivial, hfb r, by cases h <;> exact hfits⟩
    | _ => exact ⟨⟨hbusy _, trivial⟩, fun r _ => ⟨trivial, hfb r, by cases h <;> exact hfits⟩⟩
  exact wp_expand _ hsim h ⟨rfl, rfl, rfl⟩

/-! ### The threads -/

/-- The completion work. -/
theorem work_wp (dev : Nat) :
    (workThread info dev).wp (hostProtocol info) (fun _ => True) (fun _ _ => True)
      { role := .work dev } := by
  have hbusy : ∀ g : Ghost, g.role = .work dev → ∀ o, g.Busy o := fun g hrole =>
    Ghost.busy_of_role (by rw [hrole]; exact nofun)
  have hdone : ∀ g : Ghost, g.role = .work dev →
      (Prog.ask (HostOp.dev dev .workDone) : HostProg Unit).wp (hostProtocol info) (fun _ => True)
        (fun _ _ => True) g := fun g hrole => ⟨⟨hbusy g hrole _, hrole⟩, fun _ _ => trivial⟩
  unfold workThread onDisplayTransferFinishedDelaywork
  rw [wp_bind]
  apply wp_quiet (o := .dev dev (.usb .isAlive)) rfl ⟨hbusy _ rfl _, trivial⟩
  intro alive
  cases alive with
  | false => exact hdone _ rfl
  | true =>
      apply wp_mono (drawing_wp (show (Role.work dev).Draws from trivial) (transferDone_locks dev)) (fun _ he => he)
      intro _ g h
      obtain ⟨_, ⟨hrole, _⟩, _⟩ := h
      exact hdone g hrole

/-- The completion handler of a display URB. -/
theorem urb_wp {t : Ticket} (hroom : t.room = RPUSBDISP_MAX_TRANSFER_SIZE) {call : Call}
    (hheld : call.held = [t.id]) :
    (urbThread info d t).wp (hostProtocol info) (fun _ => True) (fun _ _ => True)
      { role := .urb d false, serving := some (d, call) } := by
  have hbusy : ∀ o, (Ghost.mk (.urb d false) {} (some (d, call))).Busy o := by
    intro o _ _ heq
    cases heq
    refine ⟨call, rfl, ?_⟩
    rw [hheld]
    exact List.cons_ne_nil _ _
  have hreturn : (pipe d (do
      let allFinished ← returnDispTickets
        (t.setLength ((info d).packetSizeFactor * (info d).dispOutEpMaxSize))
      if allFinished = true ∧ t.transferUrb.status = 0 then
        scheduleCompletionWork : UsbProg Unit)).wp (hostProtocol info) (fun _ => True)
      (fun _ _ => True) { role := .urb d false, serving := some (d, call) } := by
    have howed : t.id ∈ call.held := hheld ▸ List.mem_singleton_self t.id
    refine ⟨⟨hbusy _, call, rfl, howed, hroom, rfl⟩, fun allFinished _ => ?_⟩
    show Prog.wp _ _ _ (Prog.expand _ (if _ then _ else _))
      (Ghost.mk (.urb d (allFinished && decide (t.transferUrb.status = 0))) _ _)
    by_cases hlast : allFinished = true ∧ t.transferUrb.status = 0
    · rw [if_pos hlast, hlast.1, decide_eq_true hlast.2]
      refine ⟨⟨?_, Or.inr (Or.inl rfl)⟩, fun _ _ => trivial⟩
      intro _ _ heq
      cases heq
      rfl
    · rw [if_neg hlast]
      exact trivial
  unfold urbThread onDisplayTransferFinished
  by_cases hstatus : t.transferUrb.status = 0
  · rw [if_neg (fun hne => hne hstatus)]
    exact hreturn
  · rw [if_pos hstatus]
    refine wp_quiet (o := .dev d (.usb .isAlive)) rfl ⟨hbusy _, trivial⟩ fun alive => ?_
    cases alive with
    | false => exact hreturn
    | true =>
        show ((framebufferPart (fbhandlerSetUnsync d)) >>= fun _ => pipe d _).wp _ _ _ _
        rw [wp_bind]
        refine wp_mono (setUnsync_wp (fun _ h => nomatch h) fun o => hbusy _) (fun _ he => he) ?_
        intro _ _ heq
        obtain rfl := heq
        exact hreturn

/-- `_status_start_querying`, in the probing or in the handler. -/
theorem statusStartQuerying_wp {g : Ghost} (hrole : g.role = .life d .probing ∨ g.role = .status d) :
    (statusStartQuerying d).wp (hostProtocol info) F (fun _ g' => g' = g) g := by
  have hbusy : ∀ o, g.Busy o := Ghost.busy_of_role (by
    rcases hrole with hrole | hrole <;> rw [hrole] <;> exact nofun)
  unfold statusStartQuerying
  refine wp_quiet rfl ⟨hbusy _, trivial⟩ fun alive => ?_
  cases alive with
  | false => exact rfl
  | true =>
      rw [if_pos rfl]
      refine wp_quiet rfl ⟨hbusy _, trivial⟩ fun failCount => ?_
      split
      · exact rfl
      · refine wp_quiet rfl ⟨hbusy _, trivial⟩ fun granted => ?_
        cases granted with
        | false => exact rfl
        | true =>
            rw [if_pos rfl]
            refine wp_quiet rfl ⟨hbusy _, hrole⟩ fun status => ?_
            have hcount : (do
                let failCount ← (Prog.ask (HostOp.dev d .statusFailCount) : HostProg Nat)
                Prog.ask (HostOp.dev d (.setStatusFailCount (failCount + 1))) : HostProg Unit).wp
                  (hostProtocol info) F (fun _ g' => g' = g) g := by
              refine wp_quiet rfl ⟨hbusy _, trivial⟩ fun failCount => ?_
              exact ⟨⟨hbusy _, hrole⟩, fun _ _ => g.next_quiet _ rfl⟩
            split
            · split
              · exact wp_quiet rfl ⟨hbusy _, trivial⟩ fun _ => hcount
              · exact hcount
            · exact rfl

/-- The completion handler of a status URB. -/
theorem status_wp (dev : Nat) (status : Int) (packet : StatusNormalPacket) :
    (statusThread dev status packet).wp (hostProtocol info) (fun _ => True) (fun _ _ => True)
      { role := .status dev } := by
  have hbusy : ∀ o, (Ghost.mk (.status dev) {} none).Busy o := Ghost.busy_of_role nofun
  have hdone : (Prog.ask (HostOp.dev dev .statusHandled) : HostProg Unit).wp (hostProtocol info)
      (fun _ => True) (fun _ _ => True) { role := .status dev } :=
    ⟨⟨hbusy _, rfl⟩, fun _ _ => trivial⟩
  have hparse : (onParseStatusPacket dev packet).wp (hostProtocol info) (fun _ => True)
      (fun _ g => g = { role := .status dev }) { role := .status dev } := by
    have htouch : ∀ touch, (Prog.ask (HostOp.dev dev (.aside (.touchhandlerSendTsEvent
        packet.touchX packet.touchY touch))) : HostProg Unit).wp (hostProtocol info) (fun _ => True)
        (fun _ g => g = { role := .status dev }) { role := .status dev } :=
      fun touch => ⟨⟨hbusy _, trivial⟩, fun _ _ => rfl⟩
    unfold onParseStatusPacket
    split
    · split
      · rw [wp_bind]
        refine wp_mono (setUnsync_wp (fun _ h => nomatch h) fun o => hbusy _) (fun _ he => he) ?_
        intro _ _ heq
        obtain rfl := heq
        exact ⟨⟨hbusy _, Or.inr (Or.inr (Or.inl rfl))⟩, fun _ _ => htouch _⟩
      · exact htouch _
    · exact rfl
  have hagain : (do
      let failCount ← (Prog.ask (HostOp.dev dev .statusFailCount) : HostProg Nat)
      if failCount < RPUSBDISP_STATUS_QUERY_RETRY_COUNT then
        statusStartQuerying dev : HostProg Unit).wp (hostProtocol info) (fun _ => True)
      (fun _ g => g = { role := .status dev }) { role := .status dev } := by
    refine wp_quiet rfl ⟨hbusy _, trivial⟩ fun failCount => ?_
    split
    · exact statusStartQuerying_wp (Or.inr rfl)
    · exact rfl
  unfold statusThread
  rw [wp_bind]
  apply wp_mono (Q := fun _ g => g = { role := .status dev }) _ (fun _ he => he)
  · intro _ _ heq
    obtain rfl := heq
    exact hdone
  · unfold onStatusQueryFinished
    refine wp_quiet rfl ⟨hbusy _, trivial⟩ fun alive => ?_
    cases alive with
    | false => exact rfl
    | true =>
        rw [if_pos rfl]
        split
        · rw [wp_bind]
          apply wp_mono hparse (fun _ he => he)
          intro _ _ heq
          obtain rfl := heq
          exact hagain
        · exact wp_quiet rfl ⟨hbusy _, Or.inr rfl⟩ fun _ => hagain

/-- Who probes or removes a display is no completion handler. -/
theorem life_busy (ph : LifePhase) (locks : Locks) (o : HostOp) :
    (Ghost.mk (.life d ph) locks none).Busy o :=
  Ghost.busy_of_role (fun _ _ h => by cases h) o

/-- `fbhandler_on_new_device` binds the display, or leaves it unbound. -/
theorem fbhandlerOnNewDevice_wp :
    (fbhandlerOnNewDevice d).wp (hostProtocol info) F
      (fun _ g => g = { role := .life d .probing } ∨ g = { role := .life d .probed })
      { role := .life d .probing } := by
  unfold fbhandlerOnNewDevice
  refine ⟨⟨life_busy _ _ _, rfl⟩, fun _ _ => ?_⟩
  refine ⟨⟨life_busy _ _ _, trivial⟩, fun binded _ => ?_⟩
  have hhalfway : ∀ {ph : LifePhase} {locks : Locks}, ph ≠ .binding → ph ≠ .unbinding →
      ∀ d', ¬ (Ghost.mk (.life d ph) locks none).Halfway d' := by
    intro ph locks hbinding hunbinding d' hcase
    rcases hcase with h | h
    · exact hbinding (Role.life.inj h).2
    · exact hunbinding (Role.life.inj h).2
  cases binded with
  | some other =>
      exact ⟨⟨life_busy _ _ _, rfl, rfl, hhalfway nofun nofun⟩, fun _ _ => Or.inl rfl⟩
  | none =>
      refine ⟨⟨life_busy _ _ _, rfl, rfl⟩, fun _ _ => ?_⟩
      refine ⟨⟨life_busy _ _ _, rfl, rfl, rfl, Or.inl ⟨d, rfl, rfl, rfl⟩⟩, fun _ _ => ?_⟩
      refine ⟨⟨life_busy _ _ _, Or.inl ⟨rfl, rfl⟩⟩, fun _ _ => ?_⟩
      refine ⟨⟨life_busy _ _ _, rfl, hhalfway nofun nofun⟩, fun _ _ => ?_⟩
      exact ⟨⟨life_busy _ _ _, rfl, rfl, hhalfway nofun nofun⟩, fun _ _ => Or.inr rfl⟩

/-- `fbhandler_on_remove_device` leaves the display without a handle. -/
theorem fbhandlerOnRemoveDevice_wp :
    (fbhandlerOnRemoveDevice d).wp (hostProtocol info) F
      (fun _ g => g = { role := .life d (.handle false) }) { role := .life d .leaving } := by
  unfold fbhandlerOnRemoveDevice
  refine ⟨⟨life_busy _ _ _, fun d' h => (Role.life.inj h).1⟩, fun handle _ => ?_⟩
  refine ⟨⟨life_busy _ _ _, rfl⟩, fun _ _ => ?_⟩
  have hhalfway : ∀ {locks : Locks},
      ∀ d', ¬ (Ghost.mk (.life d (.handle false)) locks none).Halfway d' := by
    intro locks d' h
    rcases h with h | h <;> cases h
  cases handle with
  | false => exact ⟨⟨life_busy _ _ _, rfl, rfl, hhalfway⟩, fun _ _ => rfl⟩
  | true =>
      refine ⟨⟨life_busy _ _ _, rfl, rfl⟩, fun _ _ => ?_⟩
      refine ⟨⟨life_busy _ _ _, rfl, rfl, rfl, Or.inr ⟨rfl, d, rfl⟩⟩, fun _ _ => ?_⟩
      refine ⟨⟨life_busy _ _ _, Or.inr ⟨rfl, rfl⟩⟩, fun _ _ => ?_⟩
      refine ⟨⟨life_busy _ _ _, rfl, hhalfway⟩, fun _ _ => ?_⟩
      exact ⟨⟨life_busy _ _ _, rfl, rfl, hhalfway⟩, fun _ _ => rfl⟩

/-- The release loop takes as many tickets as it says. -/
theorem releaseTickets_wp {ticketsCount taken rest : Nat} (hcount : taken + rest = ticketsCount) :
    (releaseTickets d rest).wp (hostProtocol info) F
      (fun _ g => g = { role := .life d (.draining ticketsCount ticketsCount) })
      { role := .life d (.draining ticketsCount taken) } := by
  induction rest generalizing taken with
  | zero =>
      obtain rfl : taken = ticketsCount := hcount
      exact rfl
  | succ rest ih =>
      refine ⟨⟨life_busy _ _ _, ticketsCount, taken, rfl⟩, fun ticket _ => ?_⟩
      exact wp_quiet rfl ⟨life_busy _ _ _, trivial⟩ fun _ => ih (by omega)

/-- `_on_new_usb_device`. -/
theorem onNewUsbDevice_wp :
    (onNewUsbDevice d).wp (hostProtocol info) F
      (fun retval g => if retval = 0 then
        g = { role := .life d .probing } ∨ g = { role := .life d .probed }
        else g = { role := .life d .allocating })
      { role := .life d .allocating } := by
  unfold onNewUsbDevice
  refine wp_quiet rfl ⟨life_busy _ _ _, trivial⟩ fun granted => ?_
  cases granted with
  | false => exact rfl
  | true =>
      refine ⟨⟨life_busy _ _ _, rfl⟩, fun allocated _ => ?_⟩
      cases allocated with
      | false => exact ⟨⟨life_busy _ _ _, trivial⟩, fun _ _ => rfl⟩
      | true =>
          refine wp_quiet (o := .dev d (.aside .addUsbdevToList)) rfl ⟨life_busy _ _ _, trivial⟩ fun _ => ?_
          refine wp_quiet rfl ⟨life_busy _ _ _, Or.inl ⟨rfl, rfl⟩⟩ fun _ => ?_
          rw [wp_bind]
          apply wp_mono (statusStartQuerying_wp (Or.inl rfl)) (fun _ he => he)
          intro _ _ heq
          obtain rfl := heq
          rw [wp_bind]
          apply wp_mono fbhandlerOnNewDevice_wp (fun _ he => he)
          intro _ g hg
          obtain ⟨ph, rfl, hph⟩ : ∃ ph, g = { role := .life d ph } ∧ (ph = .probing ∨ ph = .probed) :=
            hg.elim (fun h => ⟨_, h, Or.inl rfl⟩) (fun h => ⟨_, h, Or.inr rfl⟩)
          refine wp_quiet rfl ⟨life_busy _ _ _, trivial⟩ fun _ => ?_
          rw [wp_bind]
          refine wp_mono (setUnsync_wp ?_ fun o => life_busy _ _ _) (fun _ he => he) ?_
          · intro d' heq
            cases heq
            rcases hph with h | h <;> cases h
          · intro _ _ heq
            obtain rfl := heq
            rcases hph with rfl | rfl
            · exact ⟨⟨life_busy _ _ _, Or.inr (Or.inr (Or.inr (Or.inl rfl)))⟩, fun _ _ => Or.inl rfl⟩
            · exact ⟨⟨life_busy _ _ _, Or.inr (Or.inr (Or.inr (Or.inr rfl)))⟩, fun _ _ => Or.inr rfl⟩

/-- The probing of a display. -/
theorem probe_wp (d : Nat) :
    (usbProbe d).wp (hostProtocol info) (fun _ => True) (fun _ _ => True)
      { role := .life d .allocating } := by
  have hprobed : ∀ (ph : LifePhase) (retval : Int),
      (retval ≠ 0 ∧ ph = .allocating) ∨ (retval = 0 ∧ (ph = .probing ∨ ph = .probed)) →
      (Prog.ask (HostOp.dev d (.probed retval)) : HostProg Unit).wp (hostProtocol info)
        (fun _ => True) (fun _ _ => True) { role := .life d ph } := by
    intro ph retval hph
    refine ⟨⟨life_busy _ _ _, ?_⟩, fun _ _ => trivial⟩
    rcases hph with ⟨hretval, rfl⟩ | ⟨hretval, rfl | rfl⟩
    · exact Or.inl ⟨hretval, rfl⟩
    · exact Or.inr ⟨hretval, Or.inl rfl⟩
    · exact Or.inr ⟨hretval, Or.inr rfl⟩
  have hrefused : -ENOMEM ≠ 0 := by decide
  have hfailed : (Prog.ask (HostOp.dev d .kfree) >>= fun _ =>
      Prog.ask (HostOp.dev d (.probed (-ENOMEM))) : HostProg Unit).wp (hostProtocol info)
        (fun _ => True) (fun _ _ => True) { role := .life d .allocating } :=
    wp_quiet rfl ⟨life_busy _ _ _, Or.inl rfl⟩ fun _ =>
      hprobed .allocating _ (Or.inl ⟨hrefused, rfl⟩)
  unfold usbProbe rpusbdispProbe
  refine wp_quiet (o := .dev d (.request .kzalloc)) rfl ⟨life_busy _ _ _, trivial⟩ fun granted => ?_
  cases granted with
  | false => exact hprobed .allocating _ (Or.inl ⟨hrefused, rfl⟩)
  | true =>
      refine wp_quiet (o := .dev d (.request .endpoints)) rfl ⟨life_busy _ _ _, trivial⟩
        fun found => ?_
      cases found with
      | false => exact hfailed
      | true =>
          show ((onNewUsbDevice d >>= _) >>= _).wp _ _ _ _
          rw [Prog.bind_assoc, wp_bind]
          apply wp_mono onNewUsbDevice_wp (fun _ he => he)
          intro retval g hg
          by_cases hzero : retval = 0
          · rw [if_pos hzero] at hg
            rw [if_neg (fun hne => hne hzero)]
            rcases hg with rfl | rfl
            · exact hprobed .probing _ (Or.inr ⟨rfl, Or.inl rfl⟩)
            · exact hprobed .probed _ (Or.inr ⟨rfl, Or.inr rfl⟩)
          · rw [if_neg hzero] at hg
            rw [if_pos hzero, hg]
            exact hfailed

/-- The removal of a display. -/
theorem disconnect_wp (d : Nat) :
    (usbDisconnect d).wp (hostProtocol info) (fun _ => True) (fun _ _ => True)
      { role := .life d .leaving } := by
  unfold usbDisconnect rpusbdispDisconnect onDelUsbDevice
  refine wp_quiet (o := .dev d (.setAlive false)) rfl ⟨life_busy _ _ _, Or.inr ⟨rfl, rfl⟩⟩ fun _ => ?_
  refine wp_quiet (o := .dev d (.aside .touchhandlerOnRemoveDevice)) rfl
    ⟨life_busy _ _ _, trivial⟩ fun _ => ?_
  show (((fbhandlerOnRemoveDevice d >>= _) >>= _) >>= _).wp _ _ _ _
  rw [Prog.bind_assoc, Prog.bind_assoc, wp_bind]
  apply wp_mono fbhandlerOnRemoveDevice_wp (fun _ he => he)
  intro _ _ h
  obtain rfl := h
  refine ⟨⟨life_busy _ _ _, rfl⟩, fun _ _ => ?_⟩
  refine ⟨⟨life_busy _ _ _, rfl⟩, fun _ _ => ?_⟩
  refine wp_quiet (o := .dev d (.aside .delUsbdevFromList)) rfl ⟨life_busy _ _ _, trivial⟩ fun _ => ?_
  refine ⟨⟨life_busy _ _ _, rfl⟩, fun ticketsCount _ => ?_⟩
  show ((releaseTickets d ticketsCount >>= _) >>= _).wp _ _ _ _
  rw [Prog.bind_assoc, wp_bind]
  apply wp_mono (releaseTickets_wp (Nat.zero_add ticketsCount)) (fun _ he => he)
  intro _ _ h
  obtain rfl := h
  refine wp_quiet (o := .dev d (.aside .usbFreeUrb)) rfl ⟨life_busy _ _ _, trivial⟩ fun _ => ?_
  refine wp_quiet (o := .dev d .kfree) rfl ⟨life_busy _ _ _, Or.inr ⟨_, rfl⟩⟩ fun _ => ?_
  exact ⟨⟨life_busy _ _ _, _, rfl⟩, fun _ _ => trivial⟩

end Programs

end RpUsbDisp.Hotplug
