import RpUsbDisp.HotplugProtocol

/-!
# The display that is bound

`binded_usbdev` of the framebuffer and the framebuffer handles of the displays are
stored one after the other, under two mutexes, by the probing and the removal of
any number of displays, while updates and completion works read them.

What the threads hold, of the locks and of every display, is accounted for in the
shared state (`HostState.Covers`), and what a thread knows of the shared state stays
true because only a holder can change it (`Ghost.Knows`).  So the two stores stay in
step, and no send begins on a display that `fbhandler_on_remove_device` is through
with (`binding_in_step`).
-/

namespace RpUsbDisp.Hotplug

open Programs

/-! ## What threads hold -/

/-- What a thread can hold of a display: its probing or removal, a run of its
completion work, its status URB, a ticket. -/
inductive DisplayToken where
  | life
  | work
  | status
  | ticket
  deriving DecidableEq

/-- What a thread can hold: `operation_lock`, `_mutex_devreg`, and parts of displays. -/
inductive Token where
  | lock
  | devreg
  | dev (d : Nat) (k : DisplayToken)

/-- The part of a display that a role comes with. -/
def Role.token : Role → Option (Nat × DisplayToken)
  | .life d _ => some (d, .life)
  | .work d => some (d, .work)
  | .status d => some (d, .status)
  | _ => none

/-- How many tickets of display `d` are held. -/
def Serving.tickets (serving : Serving) (d : Nat) : Nat :=
  match serving with
  | some (d', c) => if d' = d then c.held.length else 0
  | none => 0

/-- How much of it a thread holds. -/
def Ghost.count (g : Ghost) : Token → Nat
  | .lock => if g.locks.locked then 1 else 0
  | .devreg => if g.locks.registering then 1 else 0
  | .dev d .ticket => g.serving.tickets d
  | .dev d k => if g.role.token = some (d, k) then 1 else 0

/-- As much of a display may be held. -/
def DisplayState.Covers (x : DisplayState) : DisplayToken → Nat → Prop
  | .life, n => n ≤ if x.core = .probing ∨ x.core = .leaving then 1 else 0
  | .work, n => n ≤ x.workRunning
  | .status, n => n ≤ x.statusHandlers
  | .ticket, n =>
      n + x.usb.pool.list.length + x.usb.inFlight.length + x.taken ≤ x.usb.pool.dispUrbCount

/-- As much of it may be held. -/
def HostState.Covers (s : HostState) : Token → Nat → Prop
  | .lock, n => n ≤ if s.fb.pa.operationLock then 1 else 0
  | .devreg, n => n ≤ if s.devreg then 1 else 0
  | .dev d k, n => (s.dev d).Covers k n

theorem DisplayState.Covers.anti {x : DisplayState} {k : DisplayToken} {m n : Nat}
    (h : x.Covers k n) (hle : m ≤ n) : x.Covers k m := by
  cases k with
  | life => exact Nat.le_trans hle h
  | work => exact Nat.le_trans hle h
  | status => exact Nat.le_trans hle h
  | ticket =>
      unfold DisplayState.Covers at h ⊢
      omega

/-! ## What threads know -/

/-- The part of a display that only its own probing and removal write. -/
structure Own where
  core : CoreState
  killed : Bool
  cancelled : Bool
  taken : Nat
  dispUrbCount : Nat

def DisplayState.own (x : DisplayState) : Own :=
  ⟨x.core, x.killed, x.cancelled, x.taken, x.usb.pool.dispUrbCount⟩

/-- What a phase of its life says about a display and its framebuffer handle. -/
def LifePhase.Fits (own : Own) (handle : Bool) : LifePhase → Prop
  | .allocating => own.core = .probing ∧ own.killed = false ∧ handle = false ∧ own.dispUrbCount = 0
  | .probing => own.core = .probing ∧ own.killed = false ∧ handle = false
  | .binding => own.core = .probing ∧ own.killed = false
  | .probed => own.core = .probing ∧ own.killed = false
  | .leaving => own.core = .leaving ∧ own.killed = false
  | .handle bound => own.core = .leaving ∧ own.killed = false ∧ handle = bound
  | .unbinding => own.core = .leaving ∧ own.killed = false
  | .killed => own.core = .leaving ∧ own.killed = true ∧ own.taken = 0
  | .cancelled => own.core = .leaving ∧ own.killed = true ∧ own.cancelled = true ∧ own.taken = 0
  | .draining ticketsCount taken => own.core = .leaving ∧ own.killed = true ∧
      own.cancelled = true ∧ own.dispUrbCount = ticketsCount ∧ own.taken = taken

/-- What a thread knows of the shared state. -/
structure Ghost.Knows (s : HostState) (g : Ghost) : Prop where
  known : ∀ b, g.locks.known = some b →
    s.fb.pa.bindedUsbdev = b ∧ (g.locks.locked = true ∨ g.locks.registering = true)
  life : ∀ d ph, g.role = .life d ph → ph.Fits (s.dev d).own (s.fb.fbHandle d)
  binding : ∀ d, g.role = .life d .binding →
    g.locks.locked = true ∧ g.locks.registering = true ∧ g.locks.known = some (some d)
  unbinding : ∀ d, g.role = .life d .unbinding →
    g.locks.locked = true ∧ g.locks.registering = true ∧ g.locks.known = some none
  serving : ∀ d c, g.serving = some (d, c) → (∃ announcing, g.role = .urb d announcing) ∨
    (g.locks.locked = true ∧ g.locks.known = some (some d))

/-- What holds of a display and its framebuffer handle at any time.  Past `usb_kill_urb`
nothing of its status URB is left. -/
structure DisplayState.Regular (dev : Dev) (x : DisplayState) (handle : Bool) : Prop where
  sound : x.usb.Sound dev RPUSBDISP_MAX_TRANSFER_SIZE
  killed : x.killed = true → handle = false ∧ x.statusInFlight = false ∧ x.statusHandlers = 0
  unkilled : x.killed = false → x.cancelled = false ∧ x.taken = 0
  unknown : x.core = .unknown → handle = false ∧ x.killed = false ∧ x.usb.pool.dispUrbCount = 0
  attached : x.core = .attached → x.killed = false

/-- **The invariant of every run.**  Where no thread is between its two stores, a
display has a handle exactly when it is the bound one. -/
structure Hosted (info : Nat → Dev) (w : HostWorld) : Prop where
  fine : w.Fine (hostProtocol info) (fun _ => True) (fun _ _ => True)
  covers : ∀ k, w.shared.Covers k (total (fun g => Ghost.count g k) w.threads)
  knows : ∀ t ∈ w.threads, t.ghost.Knows w.shared
  regular : ∀ d, (w.shared.dev d).Regular (info d) (w.shared.fb.fbHandle d)
  bound : ∀ d, (∀ t ∈ w.threads, ¬ t.ghost.Halfway d) →
    (w.shared.fb.fbHandle d = true ↔ w.shared.fb.pa.bindedUsbdev = some d)

section Operations

/-! ## What an operation changes -/

variable {info : Nat → Dev} {palette : UInt32 → Pixel} {s s' : HostState} {c : HostChoice} {g : Ghost}

/-- The framebuffer driver's own operations leave the binding alone, and move its lock
as they say. -/
theorem fbExec_keeps {fb fb' : FbState} {o : FbOp} {r : o.Res}
    (h : fb.exec palette o = some (r, fb')) :
    fb'.pa.bindedUsbdev = fb.pa.bindedUsbdev ∧ fb'.fbHandle = fb.fbHandle ∧
      (o = .lockOperation → fb.pa.operationLock = false ∧ fb'.pa.operationLock = true) ∧
      (o ≠ .lockOperation → o ≠ .unlockOperation →
        fb'.pa.operationLock = fb.pa.operationLock) := by
  cases o with
  | lockOperation =>
      simp only [FbState.exec] at h
      split at h
      · cases h
      · rename_i hfree
        cases h
        exact ⟨rfl, rfl, fun _ => ⟨Bool.eq_false_iff.mpr hfree, rfl⟩, fun hne => absurd rfl hne⟩
  | unlockOperation =>
      cases h
      exact ⟨rfl, rfl, by simp, fun _ hne => absurd rfl hne⟩
  | send d c => cases h
  | _ =>
      cases h
      exact ⟨rfl, rfl, by simp, fun _ _ => rfl⟩

theorem exec_fb {o : FbOp} {r : o.Res} (h : s.exec info palette (.fb o) c = some (r, s')) :
    ∃ fb', s.fb.exec palette o = some (r, fb') ∧ s' = { s with fb := fb' } := by
  obtain ⟨⟨r', fb'⟩, hexec, heq⟩ := Option.map_eq_some_iff.mp h
  cases heq
  exact ⟨fb', hexec, rfl⟩

theorem exec_dev {d : Nat} {o : DisplayOp} {r : o.Res}
    (h : s.exec info palette (.dev d o) c = some (r, s')) :
    ∃ x', (s.dev d).exec (info d) o c = some (r, x') ∧ s' = s.setDev d x' := by
  obtain ⟨⟨r', x'⟩, hexec, heq⟩ := Option.map_eq_some_iff.mp h
  cases heq
  exact ⟨x', hexec, rfl⟩

/-- A display goes on as it was, or as an operation on it leaves it. -/
theorem exec_display {R : DisplayState → DisplayState → Prop} (hrefl : ∀ x, R x x) {o : HostOp}
    {r : o.Res} (h : s.exec info palette o c = some (r, s')) (d : Nat)
    (hstep : ∀ o' r' x', o = .dev d o' → (s.dev d).exec (info d) o' c = some (r', x') →
      R (s.dev d) x') : R (s.dev d) (s'.dev d) := by
  cases o with
  | dev e o =>
      obtain ⟨x', hexec, rfl⟩ := exec_dev h
      by_cases he : d = e
      · subst he
        rw [HostState.setDev_same]
        exact hstep o r x' rfl hexec
      · rw [s.setDev_other x' he]
        exact hrefl _
  | fb o =>
      obtain ⟨fb', _, rfl⟩ := exec_fb h
      exact hrefl _
  | lockDevreg =>
      simp only [HostState.exec] at h
      split at h
      · cases h
      · cases h
        exact hrefl _
  | _ =>
      cases h
      exact hrefl _

/-- Operations with which a thread hands its display back. -/
def DisplayOp.HandsBack : DisplayOp → Bool
  | .probed _ => true
  | .disconnected => true
  | .workDone => true
  | .statusHandled => true
  | _ => false

/-- A role comes with the same part of the same display until that is handed back. -/
theorem Role.next_token (role : Role) {o : HostOp} (r : o.Res)
    (h : ∀ d o', o = .dev d o' → o'.HandsBack = false) : (role.next o r).token = role.token := by
  cases o with
  | dev d o =>
      have hkeep := h d o rfl
      cases o with
      | usb o => cases role <;> cases o <;> rfl
      | probed retval => cases hkeep
      | disconnected => cases hkeep
      | workDone => cases hkeep
      | statusHandled => cases hkeep
      | _ => cases role <;> rfl
  | _ => cases role <;> rfl

/-- What is handed back is about the display it is done to. -/
theorem MayDo.handsBack {d : Nat} {o : DisplayOp} (hmay : g.MayDo info d o)
    (h : o.HandsBack = true) (r : o.Res) :
    (∃ k, k ≠ .ticket ∧ g.role.token = some (d, k)) ∧ (g.role.next (.dev d o) r).token = none := by
  cases o with
  | probed retval =>
      refine ⟨⟨.life, nofun, ?_⟩, by cases g.role <;> rfl⟩
      rcases hmay with ⟨_, hrole⟩ | ⟨_, hrole | hrole⟩ <;> rw [hrole] <;> rfl
  | disconnected =>
      obtain ⟨_, hrole⟩ := hmay
      exact ⟨⟨.life, nofun, by rw [hrole]; rfl⟩, by cases g.role <;> rfl⟩
  | workDone =>
      have hrole : g.role = .work d := hmay
      exact ⟨⟨.work, nofun, by rw [hrole]; rfl⟩, by cases g.role <;> rfl⟩
  | statusHandled =>
      have hrole : g.role = .status d := hmay
      exact ⟨⟨.status, nofun, by rw [hrole]; rfl⟩, by cases g.role <;> rfl⟩
  | _ => cases h

/-- The tickets of another display stay who they are with. -/
theorem MayDo.tickets_other {d d' : Nat} {o : DisplayOp} (hmay : g.MayDo info d o) (r : o.Res)
    (hne : d' ≠ d) : (g.serving.next (.dev d o) r).tickets d' = g.serving.tickets d' := by
  cases o with
  | usb o =>
      cases hserving : g.serving with
      | none => rfl
      | some served =>
          obtain ⟨e, call⟩ := served
          by_cases he : e = d'
          · have hsame : call.track o r = call := by
              cases o with
              | isAlive => rfl
              | scheduleCompletionWork => rfl
              | setUnsyncFlag => rfl
              | _ =>
                  obtain ⟨_, hcall, _⟩ := hmay
                  rw [hserving] at hcall
                  obtain ⟨rfl, _⟩ := Prod.mk.inj (Option.some.inj hcall)
                  exact absurd he.symm hne
            show (if e = d' then (call.track o r).held.length else 0) = _
            rw [hsame]
            rfl
          · show (if e = d' then (call.track o r).held.length else 0) =
              if e = d' then call.held.length else 0
            rw [if_neg he, if_neg he]
  | _ => rfl

theorem Ghost.count_ticket (g : Ghost) (d : Nat) : g.count (.dev d .ticket) = g.serving.tickets d := rfl

theorem Ghost.count_token (g : Ghost) (d : Nat) {k : DisplayToken} (hk : k ≠ .ticket) :
    g.count (.dev d k) = if g.role.token = some (d, k) then 1 else 0 := by
  cases k with
  | ticket => exact absurd rfl hk
  | _ => rfl

/-- A display has one life. -/
theorem DisplayState.Covers.life_succ {x : DisplayState} {n : Nat} (h : x.Covers .life (n + 1)) :
    n = 0 := by
  unfold DisplayState.Covers at h
  dsimp only at h
  split at h <;> omega

theorem DisplayState.covers_ticket {x : DisplayState} {n : Nat} : x.Covers .ticket n ↔
    n + x.usb.pool.list.length + x.usb.inFlight.length + x.taken ≤ x.usb.pool.dispUrbCount := Iff.rfl

/-- An operation of the display pipe moves tickets and makes none. -/
theorem usb_covers {d : Nat} {o : UsbOp} {x : DisplayState} {u : UsbState} {r : o.Res}
    (hmay : g.MayDo info d (.usb o)) (h : x.usb.exec o c.submit = some (r, u)) :
    u.pool.dispUrbCount = x.usb.pool.dispUrbCount ∧
      (g.serving.next (.dev d (.usb o)) r).tickets d + u.pool.list.length + u.inFlight.length =
        g.serving.tickets d + x.usb.pool.list.length + x.usb.inFlight.length := by
  have hidle : (∀ call : Call, call.track o r = call) → u.pool = x.usb.pool →
      u.inFlight = x.usb.inFlight → u.pool.dispUrbCount = x.usb.pool.dispUrbCount ∧
      (g.serving.next (.dev d (.usb o)) r).tickets d + u.pool.list.length + u.inFlight.length =
        g.serving.tickets d + x.usb.pool.list.length + x.usb.inFlight.length := by
    intro htrack hpool hflight
    have hserving : g.serving.next (.dev d (.usb o)) r = g.serving := by
      cases hserving : g.serving with
      | none => rfl
      | some served => exact congrArg some (Prod.ext rfl (htrack served.2))
    rw [hserving, hpool, hflight]
    exact ⟨rfl, rfl⟩
  have hmoves : (∃ call, g.serving = some (d, call) ∧
      (callProtocol (info d) RPUSBDISP_MAX_TRANSFER_SIZE).pre call o) →
      u.pool.dispUrbCount = x.usb.pool.dispUrbCount ∧
      (g.serving.next (.dev d (.usb o)) r).tickets d + u.pool.list.length + u.inFlight.length =
        g.serving.tickets d + x.usb.pool.list.length + x.usb.inFlight.length := by
    intro hparts
    obtain ⟨call, hserving, hpre⟩ := hparts
    obtain ⟨hperm, hcount⟩ := UsbState.exec_moves hpre h
    have hlength := hperm.length_eq
    simp only [List.length_append, List.length_map] at hlength
    rw [hserving]
    refine ⟨hcount, ?_⟩
    show (if d = d then (call.track o r).held.length else 0) + _ + _ =
      (if d = d then call.held.length else 0) + _ + _
    rw [if_pos rfl, if_pos rfl]
    omega
  cases o with
  | isAlive =>
      cases h
      exact hidle (fun _ => rfl) rfl rfl
  | scheduleCompletionWork =>
      cases h
      exact hidle (fun _ => rfl) rfl rfl
  | _ => exact hmoves hmay

section Covering

variable {d : Nat} {o : DisplayOp} {x x' : DisplayState} {k : DisplayToken} {rest : Nat}

/-- What a thread has of a display it keeps until it hands it back, but for tickets. -/
theorem count_kept (r : o.Res) (hback : o.HandsBack = false) (hk : k ≠ .ticket) :
    (g.next (.dev d o) r).count (.dev d k) = g.count (.dev d k) := by
  have htoken : (g.next (.dev d o) r).role.token = g.role.token :=
    g.role.next_token (o := .dev d o) r fun _ _ ho => by cases ho; exact hback
  rw [Ghost.count_token _ d hk, Ghost.count_token g d hk, htoken]

/-- The display pipe moves tickets. -/
theorem pipe_covers {o : UsbOp} {u : UsbState} {r : o.Res} (hmay : g.MayDo info d (.usb o))
    (h : x.usb.exec o c.submit = some (r, u)) (hcovers : x.Covers k (rest + g.count (.dev d k))) :
    DisplayState.Covers { x.notify o with usb := u } k
      (rest + (g.next (.dev d (.usb o)) r).count (.dev d k)) := by
  have hkept := count_kept (g := g) (d := d) (o := .usb o) (k := k) r rfl
  cases k with
  | ticket =>
      obtain ⟨hcount, hmoved⟩ := usb_covers hmay h
      have htaken : (x.notify o).taken = x.taken := by cases o <;> rfl
      rw [DisplayState.covers_ticket, Ghost.count_ticket] at hcovers ⊢
      show rest + (g.serving.next (.dev d (.usb o)) r).tickets d + u.pool.list.length +
        u.inFlight.length + (x.notify o).taken ≤ u.pool.dispUrbCount
      omega
  | _ =>
      rw [hkept nofun]
      cases o <;> exact hcovers

/-- The first tickets are all in the pool. -/
theorem allocDispTickets_covers (hzero : x.usb.pool.dispUrbCount = 0)
    (r : (DisplayOp.allocDispTickets).Res) (hcovers : x.Covers k (rest + g.count (.dev d k)))
    {pool : TicketPool} (hpool : pool.list.length = pool.dispUrbCount) :
    DisplayState.Covers { x with usb := { x.usb with pool := pool } } k
      (rest + (g.next (.dev d .allocDispTickets) r).count (.dev d k)) := by
  have hkept := count_kept (g := g) (d := d) (k := k) r rfl
  cases k with
  | ticket =>
      rw [DisplayState.covers_ticket, Ghost.count_ticket] at hcovers ⊢
      show rest + g.serving.tickets d + pool.list.length + x.usb.inFlight.length + x.taken ≤
        pool.dispUrbCount
      omega
  | _ =>
      rw [hkept nofun]
      exact hcovers

/-- The release loop takes a ticket out of the pool. -/
theorem takeTicket_covers (r : Ticket) {n : Nat} {tail : List Ticket}
    (hlist : x.usb.pool.list = r :: tail) (hcovers : x.Covers k (rest + g.count (.dev d k))) :
    DisplayState.Covers
      { x with
        usb := { x.usb with pool := { x.usb.pool with list := tail, availiableCount := n } }
        taken := x.taken + 1 } k
      (rest + (g.next (.dev d .takeTicket) r).count (.dev d k)) := by
  have hkept := count_kept (g := g) (d := d) (o := .takeTicket) (k := k) r rfl
  cases k with
  | ticket =>
      rw [DisplayState.covers_ticket, Ghost.count_ticket] at hcovers ⊢
      rw [hlist, List.length_cons] at hcovers
      show rest + g.serving.tickets d + tail.length + x.usb.inFlight.length + (x.taken + 1) ≤
        x.usb.pool.dispUrbCount
      omega
  | _ =>
      rw [hkept nofun]
      exact hcovers

/-- A thread hands back what it has of a display. -/
theorem handsBack_covers {k' : DisplayToken} (hmay : g.MayDo info d o) (hback : o.HandsBack = true)
    (r : o.Res) (htoken : g.role.token = some (d, k')) (hk' : k' ≠ .ticket)
    (hown : ∀ n, x.Covers k' (n + 1) → x'.Covers k' n)
    (hother : ∀ k n, k ≠ k' → x.Covers k n → x'.Covers k n)
    (hcovers : x.Covers k (rest + g.count (.dev d k))) :
    x'.Covers k (rest + (g.next (.dev d o) r).count (.dev d k)) := by
  by_cases hk : k = .ticket
  · subst hk
    have hserving : (g.next (.dev d o) r).count (.dev d .ticket) = g.count (.dev d .ticket) := by
      cases o <;> first | rfl | cases hback
    rw [hserving]
    exact hother _ _ hk'.symm hcovers
  · have hnone : (g.next (.dev d o) r).role.token = none := (MayDo.handsBack hmay hback r).2
    rw [Ghost.count_token _ d hk, hnone, if_neg nofun]
    rw [Ghost.count_token g d hk, htoken] at hcovers
    by_cases hkk : k = k'
    · subst hkk
      rw [if_pos rfl] at hcovers
      exact hown _ hcovers
    · exact hother _ _ hkk (hcovers.anti (Nat.le_add_right _ _))

/-- **What is held of a display** stays covered. -/
theorem display_covers {r : o.Res} (hmay : g.MayDo info d o)
    (h : x.exec (info d) o c = some (r, x'))
    (hallocating : g.role = .life d .allocating → x.usb.pool.dispUrbCount = 0)
    (hcovers : x.Covers k (rest + g.count (.dev d k))) :
    x'.Covers k (rest + (g.next (.dev d o) r).count (.dev d k)) := by
  have hkept := count_kept (g := g) (d := d) (o := o) (k := k) r
  cases o with
  | usb o =>
      obtain ⟨⟨r', u⟩, hexec, heq⟩ := Option.map_eq_some_iff.mp h
      cases heq
      exact pipe_covers hmay hexec hcovers
  | allocDispTickets =>
      cases h
      exact allocDispTickets_covers (hallocating hmay) _ hcovers List.length_mapIdx
  | killStatusUrb =>
      simp only [DisplayState.exec] at h
      split at h
      · cases h
      · cases h
        cases k <;> first | exact hcovers | (rw [hkept rfl nofun]; exact hcovers)
  | cancelDelayedWorkSync =>
      simp only [DisplayState.exec] at h
      split at h
      · cases h
      · cases h
        cases k <;> first | exact hcovers | (rw [hkept rfl nofun]; exact hcovers)
  | takeTicket =>
      simp only [DisplayState.exec] at h
      split at h
      · rename_i n t tail hcount hlist
        cases h
        exact takeTicket_covers _ hlist hcovers
      · cases h
  | probed retval =>
      cases h
      have htoken : g.role.token = some (d, .life) := by
        rcases hmay with ⟨_, hrole⟩ | ⟨_, hrole | hrole⟩ <;> rw [hrole] <;> rfl
      refine handsBack_covers hmay rfl _ htoken nofun (fun n hn => ?_) (fun k n hk hn => ?_) hcovers
      · rw [hn.life_succ]
        exact Nat.zero_le _
      · cases k <;> first | exact absurd rfl hk | exact hn
  | disconnected =>
      cases h
      have htoken : g.role.token = some (d, .life) := by
        obtain ⟨_, hrole⟩ := hmay
        rw [hrole]
        rfl
      refine handsBack_covers hmay rfl _ htoken nofun (fun n hn => ?_) (fun k n hk hn => ?_) hcovers
      · rw [hn.life_succ]
        exact Nat.zero_le _
      · cases k <;> first | exact absurd rfl hk | exact hn
  | workDone =>
      cases h
      have hrole : g.role = .work d := hmay
      have htoken : g.role.token = some (d, .work) := by rw [hrole]; rfl
      refine handsBack_covers hmay rfl _ htoken nofun (fun n hn => ?_) (fun k n hk hn => ?_) hcovers
      · exact Nat.le_sub_one_of_lt hn
      · cases k <;> first | exact absurd rfl hk | exact hn
  | statusHandled =>
      cases h
      have hrole : g.role = .status d := hmay
      have htoken : g.role.token = some (d, .status) := by rw [hrole]; rfl
      refine handsBack_covers hmay rfl _ htoken nofun (fun n hn => ?_) (fun k n hk hn => ?_) hcovers
      · exact Nat.le_sub_one_of_lt hn
      · cases k <;> first | exact absurd rfl hk | exact hn
  | _ =>
      cases h
      cases k <;> first | exact hcovers | (rw [hkept rfl nofun]; exact hcovers)

end Covering

/-- Only its own probing and removal write what is owned of a display. -/
theorem display_own {d : Nat} {o : DisplayOp} {x x' : DisplayState} {r : o.Res}
    (hmay : g.MayDo info d o) (h : x.exec (info d) o c = some (r, x'))
    (hlife : ∀ ph, g.role ≠ .life d ph) : x'.own = x.own := by
  cases o with
  | usb o =>
      obtain ⟨⟨_, u⟩, hexec, heq⟩ := Option.map_eq_some_iff.mp h
      cases heq
      have hcount := (usb_covers hmay hexec).1
      have hnotify : (x.notify o).own = x.own := by cases o <;> rfl
      unfold DisplayState.own at hnotify ⊢
      grind
  | allocDispTickets => exact absurd hmay (hlife _)
  | killStatusUrb => exact absurd hmay (hlife _)
  | cancelDelayedWorkSync => exact absurd hmay (hlife _)
  | dispUrbCount => exact absurd hmay (hlife _)
  | takeTicket =>
      obtain ⟨_, _, hrole⟩ := hmay
      exact absurd hrole (hlife _)
  | probed retval =>
      rcases hmay with ⟨_, hrole⟩ | ⟨_, hrole | hrole⟩
      · exact absurd hrole (hlife _)
      · exact absurd hrole (hlife _)
      · exact absurd hrole (hlife _)
  | disconnected =>
      obtain ⟨_, hrole⟩ := hmay
      exact absurd hrole (hlife _)
  | _ =>
      cases h
      rfl

/-- What is done to a display leads its life on, and no other. -/
theorem MayDo.life_next {d e : Nat} {o : DisplayOp} {r : o.Res} {ph' : LifePhase}
    (hmay : g.MayDo info d o) (h : g.role.next (.dev d o) r = .life e ph') :
    ∃ ph, g.role = .life e ph ∧ o.HandsBack = false ∧
      ((e = d ∧ ph' = ph.next (.dev d o) r) ∨ (e ≠ d ∧ ph' = ph)) := by
  have hback : o.HandsBack = false := by
    cases hback : o.HandsBack with
    | false => rfl
    | true =>
        have hnone := (MayDo.handsBack hmay hback r).2
        rw [h] at hnone
        cases hnone
  have htoken := g.role.next_token (o := .dev d o) r fun _ _ ho => by cases ho; exact hback
  rw [h] at htoken
  obtain ⟨ph, hrole⟩ : ∃ ph, g.role = .life e ph := by
    cases hrole : g.role with
    | life e' ph =>
        rw [hrole] at htoken
        cases htoken
        exact ⟨ph, rfl⟩
    | _ =>
        rw [hrole] at htoken
        cases htoken
  rw [hrole] at h
  refine ⟨ph, hrole, hback, ?_⟩
  by_cases he : e = d
  · refine Or.inl ⟨he, ?_⟩
    cases o <;> first | (cases hback; done) | (cases h; rfl)
  · refine Or.inr ⟨he, ?_⟩
    have hother : ∀ ph'', g.role ≠ .life d ph'' := by
      intro ph'' h'
      rw [hrole] at h'
      cases h'
      exact he rfl
    cases o with
    | allocDispTickets => exact absurd hmay (hother _)
    | killStatusUrb => exact absurd hmay (hother _)
    | cancelDelayedWorkSync => exact absurd hmay (hother _)
    | dispUrbCount => exact absurd hmay (hother _)
    | takeTicket =>
        obtain ⟨_, _, h'⟩ := hmay
        exact absurd h' (hother _)
    | probed retval => cases hback
    | disconnected => cases hback
    | workDone => cases hback
    | statusHandled => cases hback
    | _ =>
        cases h
        rfl

/-- **The stages of a life** say what they say. -/
theorem life_fits {d : Nat} {o : DisplayOp} {x x' : DisplayState} {r : o.Res} {handle : Bool}
    {ph : LifePhase} (hmay : g.MayDo info d o) (h : x.exec (info d) o c = some (r, x'))
    (hrole : g.role = .life d ph) (hback : o.HandsBack = false) (hfits : ph.Fits x.own handle)
    (htaken : x.killed = false → x.taken = 0) :
    (ph.next (.dev d o) r).Fits x'.own handle := by
  have hphase : ∀ {ph'}, g.role = .life d ph' → ph = ph' := by
    intro ph' h'
    rw [hrole] at h'
    exact (Role.life.inj h').2
  cases o with
  | usb o =>
      obtain ⟨⟨_, u⟩, hexec, heq⟩ := Option.map_eq_some_iff.mp h
      cases heq
      have hcount := (usb_covers hmay hexec).1
      have hown : DisplayState.own { x.notify o with usb := u } = x.own := by
        have hnotify : (x.notify o).own = x.own := by cases o <;> rfl
        unfold DisplayState.own at hnotify ⊢
        grind
      rw [hown]
      exact hfits
  | allocDispTickets =>
      cases h
      obtain rfl := hphase hmay
      obtain ⟨hcore, hkilled, hhandle, _⟩ := hfits
      by_cases hlength : 0 < c.buffers.list.length
      · show LifePhase.Fits _ _ (if decide (0 < c.buffers.list.length) = true then _ else _)
        rw [decide_eq_true hlength, if_pos rfl]
        exact ⟨hcore, hkilled, hhandle⟩
      · show LifePhase.Fits _ _ (if decide (0 < c.buffers.list.length) = true then _ else _)
        rw [decide_eq_false hlength, if_neg Bool.false_ne_true]
        exact ⟨hcore, hkilled, hhandle, Nat.eq_zero_of_not_pos hlength⟩
  | killStatusUrb =>
      simp only [DisplayState.exec] at h
      split at h
      · cases h
      · cases h
        obtain rfl := hphase hmay
        obtain ⟨hcore, hkilled, _⟩ := hfits
        exact ⟨hcore, rfl, htaken hkilled⟩
  | cancelDelayedWorkSync =>
      simp only [DisplayState.exec] at h
      split at h
      · cases h
      · cases h
        obtain rfl := hphase hmay
        obtain ⟨hcore, hkilled, hzero⟩ := hfits
        exact ⟨hcore, hkilled, rfl, hzero⟩
  | dispUrbCount =>
      cases h
      obtain rfl := hphase hmay
      obtain ⟨hcore, hkilled, hcancelled, hzero⟩ := hfits
      exact ⟨hcore, hkilled, hcancelled, rfl, hzero⟩
  | takeTicket =>
      simp only [DisplayState.exec] at h
      split at h
      · cases h
        obtain ⟨ticketsCount, taken, hdraining⟩ := hmay
        obtain rfl := hphase hdraining
        obtain ⟨hcore, hkilled, hcancelled, hcount, rfl⟩ := hfits
        exact ⟨hcore, hkilled, hcancelled, hcount, rfl⟩
      · cases h
  | probed retval => cases hback
  | disconnected => cases hback
  | workDone => cases hback
  | statusHandled => cases hback
  | _ =>
      cases h
      exact hfits

/-- **A display** stays regular. -/
theorem DisplayState.Regular.exec {d : Nat} {o : DisplayOp} {x x' : DisplayState} {r : o.Res}
    {handle : Bool} (hregular : x.Regular (info d) handle) (hmay : g.MayDo info d o)
    (h : x.exec (info d) o c = some (r, x'))
    (hfits : ∀ ph, g.role = .life d ph → ph.Fits x.own handle)
    (hstatus : g.role = .status d → x.statusHandlers ≠ 0) : x'.Regular (info d) handle := by
  obtain ⟨hsound, hkilled, hunkilled, hunknown, hattached⟩ := hregular
  cases o with
  | usb o =>
      obtain ⟨⟨_, u⟩, hexec, heq⟩ := Option.map_eq_some_iff.mp h
      cases heq
      have hsound' : u.Sound (info d) RPUSBDISP_MAX_TRANSFER_SIZE := by
        cases o with
        | isAlive =>
            cases hexec
            exact hsound
        | scheduleCompletionWork =>
            cases hexec
            exact hsound
        | _ =>
            obtain ⟨_, _, hpre⟩ := hmay
            exact (hsound.exec hpre hexec).2
      have hcount := (usb_covers hmay hexec).1
      refine ⟨hsound', ?_, ?_, ?_, ?_⟩
      · cases o <;> exact hkilled
      · cases o <;> exact hunkilled
      · have hunknown' : x.core = .unknown → handle = false ∧ x.killed = false ∧
            u.pool.dispUrbCount = 0 := by
          rw [hcount]
          exact hunknown
        cases o <;> exact hunknown'
      · cases o <;> exact hattached
  | allocDispTickets =>
      cases h
      obtain ⟨hcore, _⟩ := hfits _ hmay
      have hfresh := (freshWorld_sound (info d) c.buffers).shared
      refine ⟨⟨hfresh.ready, hfresh.count, hsound.flying⟩, hkilled, hunkilled, ?_, hattached⟩
      intro hcore'
      exact absurd (hcore.symm.trans hcore') nofun
  | setAlive alive =>
      cases h
      exact ⟨⟨hsound.ready, hsound.count, hsound.flying⟩, hkilled, hunkilled, hunknown, hattached⟩
  | submitStatusUrb =>
      cases h
      refine ⟨hsound, ?_, hunkilled, hunknown, hattached⟩
      intro hkilled'
      exfalso
      rcases hmay with hrole | hrole
      · obtain ⟨_, hunkilled', _⟩ := hfits _ hrole
        exact absurd (hkilled'.symm.trans hunkilled') nofun
      · exact hstatus hrole (hkilled hkilled').2.2
  | killStatusUrb =>
      simp only [DisplayState.exec] at h
      split at h
      · cases h
      · rename_i hidle
        cases h
        obtain ⟨hcore, hunkilled', hhandle⟩ := hfits _ hmay
        obtain ⟨hflight, hhandlers⟩ := not_or.mp hidle
        refine ⟨hsound, fun _ => ⟨hhandle, Bool.eq_false_iff.mpr hflight, not_not.mp hhandlers⟩,
          nofun, ?_, ?_⟩
        · intro hcore'
          exact absurd (hcore.symm.trans hcore') nofun
        · intro hcore'
          exact absurd (hcore.symm.trans hcore') nofun
  | cancelDelayedWorkSync =>
      simp only [DisplayState.exec] at h
      split at h
      · cases h
      · cases h
        obtain ⟨_, hkilled', _⟩ := hfits _ hmay
        refine ⟨hsound, hkilled, ?_, hunknown, hattached⟩
        intro hunkilled'
        exact absurd (hkilled'.symm.trans hunkilled') nofun
  | takeTicket =>
      simp only [DisplayState.exec] at h
      split at h
      · rename_i n t tail hcount hlist
        cases h
        obtain ⟨ticketsCount, taken, hdraining⟩ := hmay
        obtain ⟨_, hkilled', _⟩ := hfits _ hdraining
        have hn := hsound.count
        rw [hcount, hlist, List.length_cons] at hn
        refine ⟨⟨?_, Nat.succ.inj hn, hsound.flying⟩, hkilled, ?_, hunknown, hattached⟩
        · intro u hu
          exact hsound.ready u (hlist ▸ List.mem_cons_of_mem _ hu)
        · intro hunkilled'
          exact absurd (hkilled'.symm.trans hunkilled') nofun
      · cases h
  | statusHandled =>
      cases h
      refine ⟨hsound, ?_, hunkilled, hunknown, hattached⟩
      intro hkilled'
      obtain ⟨hhandle, hflight, hhandlers⟩ := hkilled hkilled'
      exact ⟨hhandle, hflight, by rw [hhandlers]⟩
  | probed retval =>
      cases h
      have hunkilled' : x.killed = false := by
        rcases hmay with ⟨_, hrole⟩ | ⟨_, hrole | hrole⟩
        · exact (hfits _ hrole).2.1
        · exact (hfits _ hrole).2.1
        · exact (hfits _ hrole).2
      refine ⟨hsound, hkilled, hunkilled, ?_, fun _ => hunkilled'⟩
      intro hcore
      by_cases hzero : retval = 0
      · exact absurd hcore (by simp [hzero])
      · exact absurd hcore (by simp [hzero])
  | disconnected =>
      cases h
      exact ⟨hsound, hkilled, hunkilled, nofun, nofun⟩
  | _ =>
      cases h
      exact ⟨hsound, hkilled, hunkilled, hunknown, hattached⟩

/-! ## What a thread goes on knowing -/

/-- The binding is what was stored last. -/
theorem exec_binded_same {o : HostOp} {r : o.Res} (h : s.exec info palette o c = some (r, s'))
    (hne : ∀ binded, o ≠ .setBindedUsbdev binded) :
    s'.fb.pa.bindedUsbdev = s.fb.pa.bindedUsbdev := by
  cases o with
  | fb o =>
      obtain ⟨fb', hexec, rfl⟩ := exec_fb h
      exact (fbExec_keeps hexec).1
  | dev d o =>
      obtain ⟨x', _, rfl⟩ := exec_dev h
      rfl
  | setBindedUsbdev binded => exact absurd rfl (hne binded)
  | lockDevreg =>
      simp only [HostState.exec] at h
      split at h
      · cases h
      · cases h
        rfl
  | _ =>
      cases h
      rfl

/-- Only under both mutexes the binding changes. -/
theorem exec_binded {o : HostOp} {r : o.Res} (h : s.exec info palette o c = some (r, s'))
    (hmay : g.May info o) (hfree : ¬ (g.locks.locked = true ∧ g.locks.registering = true)) :
    s'.fb.pa.bindedUsbdev = s.fb.pa.bindedUsbdev := by
  apply exec_binded_same h
  intro binded hstore
  subst hstore
  exact hfree ⟨hmay.1, hmay.2.1⟩

/-- Only its own probing and removal set the handle of a display. -/
theorem exec_handle {o : HostOp} {r : o.Res} (h : s.exec info palette o c = some (r, s'))
    (hmay : g.May info o) {d : Nat} (hlife : ∀ ph, g.role ≠ .life d ph) :
    s'.fb.fbHandle d = s.fb.fbHandle d := by
  cases o with
  | fb o =>
      obtain ⟨fb', hexec, rfl⟩ := exec_fb h
      rw [(fbExec_keeps hexec).2.1]
  | dev d o =>
      obtain ⟨x', _, rfl⟩ := exec_dev h
      rfl
  | setFbhandle d' handle =>
      cases h
      have hne : d ≠ d' := by
        intro heq
        obtain rfl := heq
        rcases hmay with ⟨_, hrole⟩ | ⟨_, hrole⟩
        · exact hlife _ hrole
        · exact hlife _ hrole
      exact Function.update_of_ne hne _ _
  | lockDevreg =>
      simp only [HostState.exec] at h
      split at h
      · cases h
      · cases h
        rfl
  | _ =>
      cases h
      rfl

/-- Only its own probing and removal write what is owned of a display. -/
theorem exec_own {o : HostOp} {r : o.Res} (h : s.exec info palette o c = some (r, s'))
    (hmay : g.May info o) {d : Nat} (hlife : ∀ ph, g.role ≠ .life d ph) :
    (s'.dev d).own = (s.dev d).own := by
  refine exec_display (R := fun x x' => x'.own = x.own) (fun _ => rfl) h d ?_
  intro o' r' x' ho hexec
  subst ho
  exact display_own hmay hexec hlife

/-- **What another thread knows** stays true. -/
theorem Ghost.Knows.other {o : HostOp} {r : o.Res} {g' : Ghost} (hknows : g'.Knows s)
    (h : s.exec info palette o c = some (r, s')) (hmay : g.May info o)
    (hlock : ¬ (g.locks.locked = true ∧ g'.locks.locked = true))
    (hdevreg : ¬ (g.locks.registering = true ∧ g'.locks.registering = true))
    (hlife : ∀ d ph ph', g'.role = .life d ph' → g.role ≠ .life d ph) : g'.Knows s' := by
  refine ⟨?_, ?_, hknows.binding, hknows.unbinding, hknows.serving⟩
  · intro b hb
    obtain ⟨hbinded, hheld⟩ := hknows.known b hb
    refine ⟨?_, hheld⟩
    rw [exec_binded h hmay, hbinded]
    intro hparts
    obtain ⟨hlocked, hregistering⟩ := hparts
    rcases hheld with hheld | hheld
    · exact hlock ⟨hlocked, hheld⟩
    · exact hdevreg ⟨hregistering, hheld⟩
  · intro d ph hrole
    have hother : ∀ ph', g.role ≠ .life d ph' := fun ph' => hlife d ph' ph hrole
    rw [exec_own h hmay hother, exec_handle h hmay hother]
    exact hknows.life d ph hrole

/-- No stage between the two stores is entered or left by work on a display. -/
theorem LifePhase.next_dev {ph : LifePhase} {d : Nat} {o : DisplayOp} {r : o.Res}
    (hmay : g.MayDo info d o) (hrole : g.role = .life d ph) :
    (ph.next (.dev d o) r = .binding → ph = .binding) ∧
      (ph.next (.dev d o) r = .unbinding → ph = .unbinding) := by
  cases o with
  | allocDispTickets =>
      have hphase : ph = .allocating := (Role.life.inj (hrole.symm.trans hmay)).2
      subst hphase
      cases r <;> exact ⟨nofun, nofun⟩
  | killStatusUrb => exact ⟨nofun, nofun⟩
  | cancelDelayedWorkSync => exact ⟨nofun, nofun⟩
  | dispUrbCount => exact ⟨nofun, nofun⟩
  | takeTicket =>
      obtain ⟨ticketsCount, taken, hdraining⟩ := hmay
      have hphase : ph = .draining ticketsCount taken := (Role.life.inj (hrole.symm.trans hdraining)).2
      subst hphase
      exact ⟨nofun, nofun⟩
  | _ => exact ⟨id, id⟩

/-- A display call or a completion handler stays what it is. -/
theorem serving_dev {d e : Nat} {o : DisplayOp} {r : o.Res} {call : Call}
    (hmay : g.MayDo info d o) (h : g.serving.next (.dev d o) r = some (e, call)) :
    (∃ call', g.serving = some (e, call')) ∧ ∀ announcing, g.role = .urb e announcing →
      ∃ announcing', g.role.next (.dev d o) r = .urb e announcing' := by
  constructor
  · cases hserving : g.serving with
    | none =>
        rw [hserving] at h
        cases o <;> cases h
    | some served =>
        obtain ⟨e', call'⟩ := served
        rw [hserving] at h
        cases o <;> cases h <;> exact ⟨_, rfl⟩
  · intro announcing hrole
    rw [hrole]
    cases o with
    | usb o => cases o <;> exact ⟨_, rfl⟩
    | probed retval =>
        rcases hmay with ⟨_, h'⟩ | ⟨_, h' | h'⟩ <;> exact absurd (hrole.symm.trans h') nofun
    | disconnected =>
        obtain ⟨_, h'⟩ := hmay
        exact absurd (hrole.symm.trans h') nofun
    | workDone => exact absurd (hrole.symm.trans hmay) nofun
    | statusHandled => exact absurd (hrole.symm.trans hmay) nofun
    | _ => exact ⟨_, rfl⟩

/-- What a thread knows after an operation of the framebuffer driver. -/
theorem Ghost.Knows.next_fb {o : FbOp} {r : o.Res} {fb' : FbState} (hknows : g.Knows s)
    (h : s.fb.exec palette o = some (r, fb')) (hmay : g.May info (.fb o)) :
    (g.next (.fb o) r).Knows { s with fb := fb' } := by
  obtain ⟨hbinded, hhandle, _⟩ := fbExec_keeps h
  obtain ⟨hknown, hlife, hbinding, hunbinding, hserving⟩ := hknows
  obtain ⟨role, locks, serving⟩ := g
  have hknown' : ∀ b, locks.known = some b →
      fb'.pa.bindedUsbdev = b ∧ (locks.locked = true ∨ locks.registering = true) := by
    rw [hbinded]
    exact hknown
  have hlife' : ∀ d ph, role = .life d ph → ph.Fits (s.dev d).own (fb'.fbHandle d) := by
    rw [hhandle]
    exact hlife
  have hkeep : (∀ d, o ≠ .fbHandle d) → role.next (.fb o) r = role :=
    fun hne => role.next_fb r fun _ _ d' => hne d'
  cases o with
  | lockOperation =>
      show Ghost.Knows _ (Ghost.mk (role.next _ _) _ _)
      rw [hkeep nofun]
      refine ⟨fun b hb => ⟨(hknown' b hb).1, Or.inl rfl⟩, hlife', ?_, ?_, ?_⟩
      · intro d hbind
        exact ⟨rfl, (hbinding d hbind).2⟩
      · intro d hunbind
        exact ⟨rfl, (hunbinding d hunbind).2⟩
      · exact fun d call hcall => (hserving d call hcall).imp id fun h => ⟨rfl, h.2⟩
  | unlockOperation =>
      obtain ⟨_, hhalfway⟩ := hmay
      show Ghost.Knows _ (Ghost.mk (role.next _ _) _ _)
      rw [hkeep nofun]
      refine ⟨?_, hlife', fun d hbind => absurd (Or.inl hbind) (hhalfway d),
        fun d hunbind => absurd (Or.inr hunbind) (hhalfway d), fun _ _ hnone => by cases hnone⟩
      intro b hb
      have hb' : (if locks.registering = true then locks.known else none) = some b := hb
      by_cases hregistering : locks.registering = true
      · rw [if_pos hregistering] at hb'
        exact ⟨(hknown' b hb').1, Or.inr hregistering⟩
      · rw [if_neg hregistering] at hb'
        cases hb'
  | bindedUsbdev =>
      cases h
      show Ghost.Knows _ (Ghost.mk (role.next _ _) (if locks.locked || locks.registering then _ else _) _)
      rw [hkeep nofun]
      by_cases hheld : (locks.locked || locks.registering) = true
      · rw [if_pos hheld]
        have hheld' : locks.locked = true ∨ locks.registering = true := Bool.or_eq_true_iff.mp hheld
        have hfound : ∀ b, locks.known = some b → some s.fb.pa.bindedUsbdev = some b :=
          fun b hb => congrArg some (hknown b hb).1
        refine ⟨?_, hlife', ?_, ?_, ?_⟩
        · intro b heq
          cases heq
          exact ⟨rfl, hheld'⟩
        · intro d hbind
          obtain ⟨hlocked, hregistering, hb⟩ := hbinding d hbind
          exact ⟨hlocked, hregistering, hfound _ hb⟩
        · intro d hunbind
          obtain ⟨hlocked, hregistering, hb⟩ := hunbinding d hunbind
          exact ⟨hlocked, hregistering, hfound _ hb⟩
        · exact fun d call hcall => (hserving d call hcall).imp id fun h => ⟨h.1, hfound _ h.2⟩
      · rw [if_neg hheld]
        exact ⟨hknown', hlife', hbinding, hunbinding, hserving⟩
  | fbHandle d =>
      cases h
      cases role with
      | life d' ph =>
          by_cases hleaving : ph = .leaving
          · subst hleaving
            obtain rfl : d = d' := hmay d' rfl
            refine ⟨hknown', ?_, (fun _ hrole => by cases hrole), (fun _ hrole => by cases hrole), ?_⟩
            · intro d' ph heq
              cases heq
              obtain ⟨hcore, hkilled⟩ := hlife d .leaving rfl
              exact ⟨hcore, hkilled, rfl⟩
            · exact fun d' call hcall => (hserving d' call hcall).imp (fun ⟨_, h⟩ => nomatch h) id
          · have hphase : (if ph = .leaving then LifePhase.handle (s.fb.fbHandle d) else ph) = ph :=
              if_neg hleaving
            show Ghost.Knows _ (Ghost.mk (.life d' (if ph = .leaving then _ else ph)) _ _)
            rw [hphase]
            exact ⟨hknown', hlife', hbinding, hunbinding, hserving⟩
      | _ => exact ⟨hknown', hlife', hbinding, hunbinding, hserving⟩
  | _ =>
      show Ghost.Knows _ (Ghost.mk (role.next _ _) _ _)
      rw [hkeep nofun]
      exact ⟨hknown', hlife', hbinding, hunbinding, hserving⟩

/-- **What a thread knows** after its own operation. -/
theorem Ghost.Knows.next {o : HostOp} {r : o.Res} (hknows : g.Knows s)
    (h : s.exec info palette o c = some (r, s')) (hmay : g.May info o)
    (htaken : ∀ d, (s.dev d).killed = false → (s.dev d).taken = 0) : (g.next o r).Knows s' := by
  have hsame := hknows
  obtain ⟨hknown, hlife, hbinding, hunbinding, hserving⟩ := hknows
  cases o with
  | dev d o =>
      obtain ⟨x', hexec, rfl⟩ := exec_dev h
      have hback : ∀ e ph', g.role.next (.dev d o) r = .life e ph' → (ph' = .binding →
          g.role = .life e .binding) ∧ (ph' = .unbinding → g.role = .life e .unbinding) := by
        intro e ph' hnext
        obtain ⟨ph, hrole, _, ⟨rfl, rfl⟩ | ⟨_, rfl⟩⟩ := MayDo.life_next hmay hnext
        · obtain ⟨hb, hu⟩ := LifePhase.next_dev (r := r) hmay hrole
          exact ⟨fun h => hb h ▸ hrole, fun h => hu h ▸ hrole⟩
        · exact ⟨fun h => h ▸ hrole, fun h => h ▸ hrole⟩
      refine ⟨hknown, ?_, ?_, ?_, ?_⟩
      · intro e ph' hnext
        obtain ⟨ph, hrole, hkeep, ⟨rfl, rfl⟩ | ⟨hne, rfl⟩⟩ := MayDo.life_next hmay hnext
        · rw [HostState.setDev_same]
          exact life_fits hmay hexec hrole hkeep (hlife _ _ hrole) (htaken _)
        · rw [s.setDev_other x' hne]
          exact hlife _ _ hrole
      · exact fun e hnext => hbinding e ((hback e _ hnext).1 rfl)
      · exact fun e hnext => hunbinding e ((hback e _ hnext).2 rfl)
      · intro e call hnext
        obtain ⟨⟨call', hcall⟩, hurb⟩ := serving_dev hmay hnext
        exact (hserving e call' hcall).imp (fun ⟨announcing, hrole⟩ => hurb announcing hrole) id
  | fb o =>
      obtain ⟨fb', hexec, rfl⟩ := exec_fb h
      exact hsame.next_fb hexec hmay
  | callDisplay d send =>
      cases h
      obtain ⟨hlocked, hbound, _, hhalfway, _⟩ := hmay
      obtain ⟨role, locks, serving⟩ := g
      have hrole : role.next (.callDisplay d send) (Image.memory s.fb.framebuffer) = role := by
        cases role <;> rfl
      show Ghost.Knows _ (Ghost.mk (role.next _ _) _ _)
      rw [hrole]
      refine ⟨hknown, hlife, hbinding, hunbinding, ?_⟩
      intro d' call heq
      cases heq
      exact Or.inr ⟨hlocked, hbound⟩
  | lockDevreg =>
      simp only [HostState.exec] at h
      split at h
      · cases h
      · cases h
        obtain ⟨role, locks, serving⟩ := g
        have hrole : role.next .lockDevreg () = role := by cases role <;> rfl
        show Ghost.Knows _ (Ghost.mk (role.next _ _) _ _)
        rw [hrole]
        refine ⟨fun b hb => ⟨(hknown b hb).1, Or.inr rfl⟩, hlife, ?_, ?_, hserving⟩
        · intro d hbind
          obtain ⟨hlocked, _, hbound⟩ := hbinding d hbind
          exact ⟨hlocked, rfl, hbound⟩
        · intro d hunbind
          obtain ⟨hlocked, _, hbound⟩ := hunbinding d hunbind
          exact ⟨hlocked, rfl, hbound⟩
  | unlockDevreg =>
      cases h
      obtain ⟨_, hunlocked, hhalfway⟩ := hmay
      obtain ⟨role, locks, serving⟩ := g
      have hrole : role.next .unlockDevreg () = role := by cases role <;> rfl
      show Ghost.Knows _ (Ghost.mk (role.next _ _) _ _)
      rw [hrole]
      refine ⟨(fun _ hnone => by cases hnone), hlife, fun d hbind => absurd (Or.inl hbind) (hhalfway d),
        fun d hunbind => absurd (Or.inr hunbind) (hhalfway d), ?_⟩
      intro d call hcall
      rcases hserving d call hcall with hurb | ⟨hlocked, _⟩
      · exact Or.inl hurb
      · exact absurd (hlocked.symm.trans hunlocked) nofun
  | setBindedUsbdev binded =>
      cases h
      obtain ⟨hlocked, hregistering, hidle, hstage⟩ := hmay
      obtain ⟨role, locks, serving⟩ := g
      obtain rfl : serving = none := hidle
      rcases hstage with ⟨d, rfl, hrole, _⟩ | ⟨rfl, d, hrole⟩
      · obtain rfl : role = .life d .probing := hrole
        refine ⟨?_, ?_, ?_, (fun _ hrole => by cases hrole), fun _ _ hnone => by cases hnone⟩
        · intro b heq
          cases heq
          exact ⟨rfl, Or.inl hlocked⟩
        · intro d' ph heq
          cases heq
          obtain ⟨hcore, hkilled, _⟩ := hlife d .probing rfl
          exact ⟨hcore, hkilled⟩
        · intro d' heq
          cases heq
          exact ⟨hlocked, hregistering, rfl⟩
      · obtain rfl : role = .life d (.handle true) := hrole
        refine ⟨?_, ?_, (fun _ hrole => by cases hrole), ?_, fun _ _ hnone => by cases hnone⟩
        · intro b heq
          cases heq
          exact ⟨rfl, Or.inl hlocked⟩
        · intro d' ph heq
          cases heq
          obtain ⟨hcore, hkilled, _⟩ := hlife d (.handle true) rfl
          exact ⟨hcore, hkilled⟩
        · intro d' heq
          cases heq
          exact ⟨hlocked, hregistering, rfl⟩
  | setFbhandle d handle =>
      cases h
      obtain ⟨role, locks, serving⟩ := g
      rcases hmay with ⟨rfl, hrole⟩ | ⟨rfl, hrole⟩
      · obtain rfl : role = .life d .binding := hrole
        refine ⟨hknown, ?_, nofun, nofun, ?_⟩
        · intro d' ph heq
          cases heq
          exact hlife d .binding rfl
        · exact fun d' call hcall => (hserving d' call hcall).imp (fun ⟨_, h⟩ => nomatch h) id
      · obtain rfl : role = .life d .unbinding := hrole
        refine ⟨hknown, ?_, nofun, nofun, ?_⟩
        · intro d' ph heq
          cases heq
          obtain ⟨hcore, hkilled⟩ := hlife d .unbinding rfl
          exact ⟨hcore, hkilled, Function.update_self d false s.fb.fbHandle⟩
        · exact fun d' call hcall => (hserving d' call hcall).imp (fun ⟨_, h⟩ => nomatch h) id

/-! ## Steps -/

theorem HostState.Covers.anti {k : Token} {m n : Nat} (h : s.Covers k n) (hle : m ≤ n) :
    s.Covers k m := by
  cases k with
  | lock => exact Nat.le_trans hle h
  | devreg => exact Nat.le_trans hle h
  | dev d k => exact DisplayState.Covers.anti h hle

/-- What a thread holds of a display changes only with work on that display, or is
given up. -/
theorem count_outside {o : HostOp} {r : o.Res} (hmay : g.May info o)
    (hdev : ∀ d o', o ≠ .dev d o') (d : Nat) (k : DisplayToken) :
    (g.next o r).count (.dev d k) ≤ g.count (.dev d k) := by
  by_cases hk : k = .ticket
  · subst hk
    rw [Ghost.count_ticket, Ghost.count_ticket]
    cases o with
    | dev d' o' => exact absurd rfl (hdev d' o')
    | callDisplay d' send =>
        show (if d' = d then ([] : List Nat).length else 0) ≤ _
        split <;> exact Nat.zero_le _
    | fb o =>
        cases o with
        | unlockOperation => exact Nat.zero_le _
        | _ => exact Nat.le_refl _
    | _ => exact Nat.le_refl _
  · have htoken : (g.next o r).role.token = g.role.token :=
      g.role.next_token r fun d' o' ho => absurd ho (hdev d' o')
    rw [Ghost.count_token _ d hk, Ghost.count_token g d hk, htoken]

/-- Nor does work on one display change what is held of another. -/
theorem count_other {d d' : Nat} {o : DisplayOp} {r : o.Res} (hmay : g.MayDo info d o)
    (hne : d' ≠ d) (k : DisplayToken) :
    (g.next (.dev d o) r).count (.dev d' k) = g.count (.dev d' k) := by
  by_cases hk : k = .ticket
  · subst hk
    exact MayDo.tickets_other hmay r hne
  · rw [Ghost.count_token _ d' hk, Ghost.count_token g d' hk]
    cases hback : o.HandsBack with
    | false =>
        have htoken : (g.next (.dev d o) r).role.token = g.role.token :=
          g.role.next_token (o := .dev d o) r fun _ _ ho => by cases ho; exact hback
        rw [htoken]
    | true =>
        obtain ⟨⟨k', _, htoken⟩, hnone⟩ := MayDo.handsBack hmay hback r
        have hnone' : (g.next (.dev d o) r).role.token = none := hnone
        rw [hnone', htoken, if_neg nofun, if_neg]
        exact fun h => hne (Prod.mk.inj (Option.some.inj h)).1.symm

/-- **What is held** stays covered. -/
theorem exec_covers {o : HostOp} {r : o.Res} (hmay : g.May info o)
    (h : s.exec info palette o c = some (r, s'))
    (hallocating : ∀ d, g.role = .life d .allocating → (s.dev d).usb.pool.dispUrbCount = 0)
    {k : Token} {rest : Nat} (hcovers : s.Covers k (rest + g.count k)) :
    s'.Covers k (rest + (g.next o r).count k) := by
  have houtside : (∀ d o', o ≠ .dev d o') → s'.dev = s.dev → ∀ d k', k = .dev d k' →
      s'.Covers k (rest + (g.next o r).count k) := by
    intro hdev hsame d k' heq
    obtain rfl := heq
    have hle := count_outside (r := r) hmay hdev d k'
    show (s'.dev d).Covers k' _
    rw [hsame]
    exact DisplayState.Covers.anti hcovers (Nat.add_le_add_left hle rest)
  cases o with
  | dev d o =>
      obtain ⟨x', hexec, rfl⟩ := exec_dev h
      cases k with
      | lock => exact hcovers
      | devreg => exact hcovers
      | dev d' k' =>
          by_cases hd : d' = d
          · subst hd
            show ((s.setDev d' x').dev d').Covers k' _
            rw [HostState.setDev_same]
            exact display_covers hmay hexec (hallocating d') hcovers
          · show ((s.setDev d x').dev d').Covers k' _
            rw [s.setDev_other x' hd, count_other hmay hd]
            exact hcovers
  | fb o =>
      obtain ⟨fb', hexec, rfl⟩ := exec_fb h
      obtain ⟨_, _, hlock, hkeep⟩ := fbExec_keeps hexec
      cases k with
      | dev d k' => exact houtside nofun rfl d k' rfl
      | devreg =>
          have hregistering : (g.next (.fb o) r).locks.registering = g.locks.registering := by
            show (g.locks.next (.fb o) r).registering = _
            cases o with
            | bindedUsbdev =>
                show (if g.locks.locked || g.locks.registering then _ else _ : Locks).registering = _
                split <;> rfl
            | _ => rfl
          show rest + (if (g.next (.fb o) r).locks.registering then 1 else 0) ≤ _
          rw [hregistering]
          exact hcovers
      | lock =>
          have hle : rest + (if g.locks.locked then 1 else 0) ≤
              if s.fb.pa.operationLock then 1 else 0 := hcovers
          show rest + (if (g.locks.next (.fb o) r).locked then 1 else 0) ≤
            if fb'.pa.operationLock then 1 else 0
          cases o with
          | lockOperation =>
              obtain ⟨hfree, htaken⟩ := hlock rfl
              rw [hfree, if_neg Bool.false_ne_true] at hle
              rw [htaken]
              show rest + 1 ≤ 1
              omega
          | unlockOperation =>
              rw [hmay.1, if_pos rfl] at hle
              show rest + 0 ≤ _
              split at hle <;> omega
          | bindedUsbdev =>
              have hlocked : (g.locks.next (.fb .bindedUsbdev) r).locked = g.locks.locked := by
                show (if g.locks.locked || g.locks.registering then _ else _ : Locks).locked = _
                split <;> rfl
              rw [hlocked, hkeep nofun nofun]
              exact hle
          | _ =>
              rw [hkeep nofun nofun]
              exact hle
  | callDisplay d send =>
      cases h
      cases k with
      | dev d k' => exact houtside nofun rfl d k' rfl
      | _ => exact hcovers
  | lockDevreg =>
      simp only [HostState.exec] at h
      split at h
      · cases h
      · rename_i hfree
        cases h
        cases k with
        | dev d k' => exact houtside nofun rfl d k' rfl
        | lock => exact hcovers
        | devreg =>
            have hle : rest + (if g.locks.registering then 1 else 0) ≤ if s.devreg then 1 else 0 := hcovers
            rw [if_neg hfree] at hle
            show rest + 1 ≤ 1
            omega
  | unlockDevreg =>
      cases h
      cases k with
      | dev d k' => exact houtside nofun rfl d k' rfl
      | lock => exact hcovers
      | devreg =>
          have hle : rest + (if g.locks.registering then 1 else 0) ≤ if s.devreg then 1 else 0 := hcovers
          rw [hmay.1, if_pos rfl] at hle
          show rest + 0 ≤ 0
          split at hle <;> omega
  | setBindedUsbdev binded =>
      cases h
      cases k with
      | dev d k' => exact houtside nofun rfl d k' rfl
      | _ => exact hcovers
  | setFbhandle d handle =>
      cases h
      cases k with
      | dev d k' => exact houtside nofun rfl d k' rfl
      | _ => exact hcovers

/-- **Every display** stays regular. -/
theorem exec_regular {o : HostOp} {r : o.Res} (hknows : g.Knows s) (hmay : g.May info o)
    (h : s.exec info palette o c = some (r, s'))
    (hstatus : ∀ d, g.role = .status d → (s.dev d).statusHandlers ≠ 0)
    (hregular : ∀ d, (s.dev d).Regular (info d) (s.fb.fbHandle d)) (d : Nat) :
    (s'.dev d).Regular (info d) (s'.fb.fbHandle d) := by
  cases o with
  | dev d' o =>
      obtain ⟨x', hexec, rfl⟩ := exec_dev h
      by_cases hd : d = d'
      · subst hd
        rw [HostState.setDev_same]
        exact (hregular d).exec hmay hexec (fun ph hrole => hknows.life d ph hrole) (hstatus d)
      · rw [s.setDev_other x' hd]
        exact hregular d
  | fb o =>
      obtain ⟨fb', hexec, rfl⟩ := exec_fb h
      show (s.dev d).Regular (info d) (fb'.fbHandle d)
      rw [(fbExec_keeps hexec).2.1]
      exact hregular d
  | setFbhandle d' handle =>
      cases h
      by_cases hd : d = d'
      · subst hd
        obtain ⟨hsound, hkilled, hunkilled, hunknown, hattached⟩ := hregular d
        show (s.dev d).Regular (info d) (Function.update s.fb.fbHandle d handle d)
        rw [Function.update_self]
        rcases hmay with ⟨rfl, hrole⟩ | ⟨rfl, hrole⟩
        · obtain ⟨hcore, hunkilled'⟩ := hknows.life d _ hrole
          refine ⟨hsound, fun h => absurd (h.symm.trans hunkilled') nofun, hunkilled, ?_, hattached⟩
          exact fun h => absurd (hcore.symm.trans h) nofun
        · exact ⟨hsound, fun h => ⟨rfl, (hkilled h).2⟩, hunkilled,
            fun h => ⟨rfl, (hunknown h).2⟩, hattached⟩
      · show (s.dev d).Regular (info d) (Function.update s.fb.fbHandle d' handle d)
        rw [Function.update_of_ne hd]
        exact hregular d
  | lockDevreg =>
      simp only [HostState.exec] at h
      split at h
      · cases h
      · cases h
        exact hregular d
  | _ =>
      cases h
      exact hregular d

/-- Only the second store ends the time between the two. -/
theorem Ghost.Halfway.next {o : HostOp} {r : o.Res} {d : Nat} (h : g.Halfway d)
    (hmay : g.May info o) (hne : ∀ d' handle, o ≠ .setFbhandle d' handle) :
    (g.next o r).Halfway d := by
  obtain ⟨ph, hrole, hph⟩ : ∃ ph, g.role = .life d ph ∧ (ph = .binding ∨ ph = .unbinding) :=
    h.elim (fun h => ⟨_, h, Or.inl rfl⟩) (fun h => ⟨_, h, Or.inr rfl⟩)
  have hother : ∀ {ph' d'}, g.role = .life d' ph' → ph' = .binding ∨ ph' = .unbinding := by
    intro ph' d' h'
    rw [hrole] at h'
    rw [← (Role.life.inj h').2]
    exact hph
  have hsame : g.role.next o r = g.role → (g.next o r).Halfway d := by
    intro hsame
    show g.role.next o r = _ ∨ g.role.next o r = _
    rw [hsame]
    exact h
  cases o with
  | fb o =>
      apply hsame
      apply Role.next_fb
      intro d' hleaving
      exact absurd (hother hleaving) (by simp)
  | dev d' o =>
      apply hsame
      cases o with
      | allocDispTickets => exact absurd (hother hmay) (by simp)
      | killStatusUrb => exact absurd (hother hmay) (by simp)
      | cancelDelayedWorkSync => exact absurd (hother hmay) (by simp)
      | dispUrbCount => exact absurd (hother hmay) (by simp)
      | takeTicket =>
          obtain ⟨_, _, hdraining⟩ := hmay
          exact absurd (hother hdraining) (by simp)
      | probed retval =>
          rcases hmay with ⟨_, h'⟩ | ⟨_, h' | h'⟩ <;> exact absurd (hother h') (by simp)
      | disconnected =>
          obtain ⟨_, hdraining⟩ := hmay
          exact absurd (hother hdraining) (by simp)
      | workDone => exact absurd (hrole.symm.trans hmay) nofun
      | statusHandled => exact absurd (hrole.symm.trans hmay) nofun
      | usb o => rw [hrole]; cases o <;> rfl
      | _ => rw [hrole]; rfl
  | setBindedUsbdev binded =>
      obtain ⟨_, _, _, ⟨_, _, hprobing, _⟩ | ⟨_, _, hhandle⟩⟩ := hmay
      · exact absurd (hother hprobing) (by simp)
      · exact absurd (hother hhandle) (by simp)
  | setFbhandle d' handle => exact absurd rfl (hne d' handle)
  | _ =>
      apply hsame
      rw [hrole]
      rfl

/-! ## Lives -/

theorem Role.token_life {role : Role} {d : Nat} : role.token = some (d, .life) ↔ ∃ ph, role = .life d ph := by
  constructor
  · intro h
    cases role <;> cases h
    exact ⟨_, rfl⟩
  · intro h
    obtain ⟨ph, rfl⟩ := h
    rfl

theorem Role.token_status {role : Role} {d : Nat} : role.token = some (d, .status) ↔ role = .status d := by
  constructor
  · intro h
    cases role <;> cases h
    rfl
  · intro h
    rw [h]
    rfl

/-- What a thread has after an operation it had before. -/
theorem Role.token_of_next {o : HostOp} {r : o.Res} {token : Nat × DisplayToken} (hmay : g.May info o)
    (h : (g.role.next o r).token = some token) : g.role.token = some token := by
  by_cases hback : ∃ d o', o = .dev d o' ∧ o'.HandsBack = true
  · obtain ⟨d, o', rfl, hback⟩ := hback
    rw [(MayDo.handsBack hmay hback r).2] at h
    cases h
  · rw [← h]
    refine (g.role.next_token r ?_).symm
    intro d o' ho
    cases hno : o'.HandsBack with
    | false => rfl
    | true => exact absurd ⟨d, o', ho, hno⟩ hback

/-- Only who hands a display back changes what the USB core does with it. -/
theorem display_core {x x' : DisplayState} {o : DisplayOp} {r : o.Res} {dev : Dev}
    (h : x.exec dev o c = some (r, x')) (hback : o.HandsBack = false) : x'.core = x.core := by
  cases o with
  | usb o =>
      obtain ⟨_, _, heq⟩ := Option.map_eq_some_iff.mp h
      cases heq
      cases o <;> rfl
  | killStatusUrb =>
      simp only [DisplayState.exec] at h
      split at h
      · cases h
      · cases h
        rfl
  | cancelDelayedWorkSync =>
      simp only [DisplayState.exec] at h
      split at h
      · cases h
      · cases h
        rfl
  | takeTicket =>
      simp only [DisplayState.exec] at h
      split at h
      · cases h
        rfl
      · cases h
  | probed retval => cases hback
  | disconnected => cases hback
  | workDone => cases hback
  | statusHandled => cases hback
  | _ =>
      cases h
      rfl

/-- The USB core's part of a display ends with its probing and its removal. -/
theorem display_core_ends {x x' : DisplayState} {o : DisplayOp} {r : o.Res} {dev : Dev}
    (h : x.exec dev o c = some (r, x')) :
    x'.core = x.core ∨ x'.core = .attached ∨ x'.core = .gone := by
  cases hback : o.HandsBack with
  | false => exact Or.inl (display_core h hback)
  | true =>
      cases o with
      | probed retval =>
          cases h
          by_cases hretval : retval = 0
          · exact Or.inr (Or.inl (if_pos hretval))
          · exact Or.inr (Or.inr (if_neg hretval))
      | disconnected =>
          cases h
          exact Or.inr (Or.inr rfl)
      | workDone =>
          cases h
          exact Or.inl rfl
      | statusHandled =>
          cases h
          exact Or.inl rfl
      | _ => cases hback

/-- No operation starts a probing, and none brings a display back. -/
theorem exec_core {o : HostOp} {r : o.Res} (h : s.exec info palette o c = some (r, s')) (d : Nat) :
    (s'.dev d).core = (s.dev d).core ∨ (s'.dev d).core = .attached ∨ (s'.dev d).core = .gone :=
  exec_display (R := fun x x' => x'.core = x.core ∨ x'.core = .attached ∨ x'.core = .gone)
    (fun _ => Or.inl rfl) h d fun _ _ _ _ hexec => display_core_ends hexec

end Operations

section Worlds

/-! ## The world keeps to the invariant -/

variable {info : Nat → Dev} {palette : UInt32 → Pixel} {w w' : HostWorld} {a : Arch}

/-- Two threads with the same lock, or the same life, are one. -/
theorem Hosted.alone (h : Hosted info w) {i j : Nat} {t u : Thread HostOp HostOp.Res Unit Ghost}
    (hi : w.threads[i]? = some t) (hj : w.threads[j]? = some u) (hne : j ≠ i) :
    ¬ (t.ghost.locks.locked = true ∧ u.ghost.locks.locked = true) ∧
      ¬ (t.ghost.locks.registering = true ∧ u.ghost.locks.registering = true) ∧
      ∀ d ph ph', u.ghost.role = .life d ph' → t.ghost.role ≠ .life d ph := by
  have htwo : ∀ {k : Token}, (∀ n, w.shared.Covers k n → n ≤ 1) →
      ¬ (t.ghost.count k = 1 ∧ u.ghost.count k = 1) := by
    intro k hk hparts
    obtain ⟨ht, hu⟩ := hparts
    have hle := hk _ (h.covers k)
    have hsum := @count_add_le_total _ _ _ _ (fun g => Ghost.count g k) w.threads i j t u hi hj hne
    omega
  refine ⟨?_, ?_, ?_⟩
  · intro hparts
    obtain ⟨ht, hu⟩ := hparts
    refine htwo (k := .lock) ?_ ⟨if_pos ht, if_pos hu⟩
    intro n hn
    unfold HostState.Covers at hn
    dsimp only at hn
    split at hn <;> omega
  · intro hparts
    obtain ⟨ht, hu⟩ := hparts
    refine htwo (k := .devreg) ?_ ⟨if_pos ht, if_pos hu⟩
    intro n hn
    unfold HostState.Covers at hn
    dsimp only at hn
    split at hn <;> omega
  · intro d ph ph' hu ht
    refine htwo (k := .dev d .life) ?_ ⟨?_, ?_⟩
    · intro n hn
      unfold HostState.Covers DisplayState.Covers at hn
      dsimp only at hn
      split at hn <;> omega
    · rw [Ghost.count_token _ d (k := .life) nofun, ht]
      exact if_pos rfl
    · rw [Ghost.count_token _ d (k := .life) nofun, hu]
      exact if_pos rfl

/-- What a thread is told is what the protocol says. -/
theorem Hosted.answer (h : Hosted info w) {i : Nat} {o : HostOp} {k : o.Res → HostProg Unit}
    {g : Ghost} {r : o.Res} {s : HostState} {c : HostChoice}
    (hi : w.threads[i]? = some ⟨.op o k, g⟩) (hexec : w.shared.exec info palette o c = some (r, s)) :
    (hostProtocol info).answer g o r := by
  have hmay : g.May info o := (h.fine.pre hi).2
  have hknows : g.Knows w.shared := h.knows _ (List.mem_of_getElem? hi)
  cases o with
  | fb o =>
      cases o with
      | bindedUsbdev =>
          cases hexec
          exact fun b hb => (hknows.known b hb).1
      | _ => trivial
  | dev d o =>
      cases o with
      | usb o =>
          obtain ⟨x', hdev, rfl⟩ := exec_dev hexec
          obtain ⟨⟨_, u⟩, husb, heq⟩ := Option.map_eq_some_iff.mp hdev
          cases heq
          intro call hcall
          cases o with
          | sellTickets n =>
              obtain ⟨call', hcall', hpre⟩ := hmay
              obtain rfl : call' = call :=
                (Prod.mk.inj (Option.some.inj (hcall'.symm.trans hcall))).2
              exact ((h.regular d).sound.exec hpre husb).1
          | _ => trivial
      | _ => trivial
  | _ => trivial

/-- The two stores, after an operation. -/
theorem Hosted.bound_run (h : Hosted info w) {i : Nat} {o : HostOp} {k : o.Res → HostProg Unit}
    {g : Ghost} {r : o.Res} {s : HostState} {c : HostChoice}
    (hi : w.threads[i]? = some ⟨.op o k, g⟩) (hexec : w.shared.exec info palette o c = some (r, s))
    {d : Nat} (hnot : ∀ t ∈ w.threads.set i ⟨k r, g.next o r⟩, ¬ t.ghost.Halfway d) :
    s.fb.fbHandle d = true ↔ s.fb.pa.bindedUsbdev = some d := by
  have hmay : g.May info o := (h.fine.pre hi).2
  have hknows : g.Knows w.shared := h.knows _ (List.mem_of_getElem? hi)
  obtain ⟨hlt, _⟩ := List.getElem?_eq_some_iff.mp hi
  have hself : ¬ (g.next o r).Halfway d := hnot _ (List.mem_set hlt _)
  -- Whoever was between the two stores still is, save the thread itself.
  have hbefore : ¬ g.Halfway d → ∀ t ∈ w.threads, ¬ t.ghost.Halfway d := by
    intro hg t ht
    obtain ⟨j, hj⟩ := List.mem_iff_getElem?.mp ht
    by_cases hji : j = i
    · subst hji
      cases hi.symm.trans hj
      exact hg
    · exact hnot t (List.mem_iff_getElem?.mpr ⟨j, by rw [List.getElem?_set_ne (Ne.symm hji), hj]⟩)
  have hsame : s.fb.fbHandle d = w.shared.fb.fbHandle d →
      s.fb.pa.bindedUsbdev = w.shared.fb.pa.bindedUsbdev →
      (∀ d' handle, o ≠ .setFbhandle d' handle) →
      (s.fb.fbHandle d = true ↔ s.fb.pa.bindedUsbdev = some d) := by
    intro hhandle hbinded hne
    rw [hhandle, hbinded]
    exact h.bound d (hbefore fun hg => hself (hg.next hmay hne))
  cases o with
  | fb o =>
      obtain ⟨fb', hfb, rfl⟩ := exec_fb hexec
      obtain ⟨hbinded, hhandle, _⟩ := fbExec_keeps hfb
      exact hsame (congrFun hhandle d) hbinded nofun
  | dev d' o =>
      obtain ⟨x', _, rfl⟩ := exec_dev hexec
      exact hsame rfl rfl nofun
  | lockDevreg =>
      simp only [HostState.exec] at hexec
      split at hexec
      · cases hexec
      · cases hexec
        exact hsame rfl rfl nofun
  | setBindedUsbdev binded =>
      cases hexec
      obtain ⟨_, _, _, ⟨e, rfl, hrole, hfound⟩ | ⟨rfl, e, hrole⟩⟩ := hmay
      · have hde : d ≠ e := by
          intro heq
          obtain rfl := heq
          apply hself
          show g.role.next _ _ = _ ∨ _
          rw [hrole]
          exact Or.inl rfl
        have hbinded := (hknows.known none hfound).1
        have hunbound := h.bound d (hbefore (fun hhalfway => by rcases hhalfway with h' | h' <;> rw [hrole] at h' <;> cases h'))
        rw [hbinded] at hunbound
        have hhandle : w.shared.fb.fbHandle d ≠ true := fun h' => nomatch hunbound.mp h'
        exact ⟨fun h' => absurd h' hhandle, fun h' => absurd (Option.some.inj h').symm hde⟩
      · have hde : d ≠ e := by
          intro heq
          obtain rfl := heq
          apply hself
          show g.role.next _ _ = _ ∨ g.role.next _ _ = _
          rw [hrole]
          exact Or.inr rfl
        have hhandle : w.shared.fb.fbHandle e = true := (hknows.life e _ hrole).2.2
        have halone : ∀ t ∈ w.threads, ¬ t.ghost.Halfway e := by
          intro t ht hhalf
          obtain ⟨j, hj⟩ := List.mem_iff_getElem?.mp ht
          by_cases hji : j = i
          · subst hji
            cases hi.symm.trans hj
            rcases hhalf with h' | h' <;> rw [hrole] at h' <;> cases h'
          · obtain ⟨_, _, hlife⟩ := h.alone hi hj hji
            rcases hhalf with h' | h'
            · exact hlife e _ _ h' hrole
            · exact hlife e _ _ h' hrole
        have hbinded := (h.bound e halone).mp hhandle
        have hbound := h.bound d (hbefore (fun hhalfway => by rcases hhalfway with h' | h' <;> rw [hrole] at h' <;> cases h'))
        rw [hbinded] at hbound
        exact ⟨fun h' => absurd (Option.some.inj (hbound.mp h')).symm hde, nofun⟩
  | setFbhandle e handle =>
      cases hexec
      show Function.update w.shared.fb.fbHandle e handle d = true ↔ w.shared.fb.pa.bindedUsbdev = some d
      have hstored : ∀ b, g.locks.known = some b → w.shared.fb.pa.bindedUsbdev = b :=
        fun b hb => (hknows.known b hb).1
      by_cases hde : d = e
      · subst hde
        rw [Function.update_self]
        rcases hmay with ⟨rfl, hrole⟩ | ⟨rfl, hrole⟩
        · rw [hstored _ (hknows.binding d hrole).2.2]
          simp
        · rw [hstored _ (hknows.unbinding d hrole).2.2]
          simp
      · rw [Function.update_of_ne hde]
        apply h.bound d (hbefore _)
        intro hcase
        rcases hcase with h' | h'
        · rcases hmay with ⟨_, hrole⟩ | ⟨_, hrole⟩ <;> rw [hrole] at h' <;> cases h'
          exact hde rfl
        · rcases hmay with ⟨_, hrole⟩ | ⟨_, hrole⟩ <;> rw [hrole] at h' <;> cases h'
          exact hde rfl
  | _ =>
      cases hexec
      exact hsame rfl rfl nofun

/-- **Operations.** -/
theorem Hosted.run (h : Hosted info w) {i : Nat} {c : HostChoice}
    (hnext : w.step (HostState.exec info palette) Ghost.next i c = some w') : Hosted info w' := by
  obtain ⟨o, k, g, r, s, hi, hexec, rfl⟩ := World.step_some hnext
  have hmay : g.May info o := (h.fine.pre hi).2
  have hknows : g.Knows w.shared := h.knows _ (List.mem_of_getElem? hi)
  obtain ⟨hlt, _⟩ := List.getElem?_eq_some_iff.mp hi
  have hcovers : ∀ k', w.shared.Covers k' (total (fun g => Ghost.count g k') (w.threads.eraseIdx i) +
      g.count k') := by
    intro k'
    have htotal : total (fun g => Ghost.count g k') w.threads =
        total (fun g => Ghost.count g k') (w.threads.eraseIdx i) + (fun g => Ghost.count g k') g :=
      total_eraseIdx hi
    exact htotal ▸ h.covers k'
  refine ⟨h.fine.set hi (h.answer hi hexec) s, ?_, ?_, ?_, ?_⟩
  · intro k'
    show s.Covers k' _
    rw [total_set _ hlt]
    refine exec_covers hmay hexec ?_ (hcovers k')
    intro d hrole
    exact (hknows.life d _ hrole).2.2.2
  · intro t ht
    obtain ⟨j, hj⟩ := List.mem_iff_getElem?.mp ht
    by_cases hji : j = i
    · subst hji
      rw [List.getElem?_set_self hlt] at hj
      cases hj
      exact hknows.next hexec hmay fun d hd => ((h.regular d).unkilled hd).2
    · rw [List.getElem?_set_ne (Ne.symm hji)] at hj
      obtain ⟨hlock, hdevreg, hlife⟩ := h.alone hi hj hji
      exact (h.knows t (List.mem_of_getElem? hj)).other hexec hmay hlock hdevreg hlife
  · intro d
    refine exec_regular hknows hmay hexec ?_ h.regular d
    intro d' hrole hzero
    have hone : g.count (.dev d' .status) = 1 := by
      rw [Ghost.count_token g d' (k := .status) nofun, hrole]
      exact if_pos rfl
    have hle : _ ≤ (w.shared.dev d').statusHandlers := hcovers (.dev d' .status)
    omega
  · exact fun d hnot => h.bound_run hi hexec hnot

/-- A display in a stage of its life is being probed or removed. -/
theorem LifePhase.Fits.core {own : Own} {handle : Bool} {ph : LifePhase} (h : ph.Fits own handle) :
    own.core = .probing ∨ own.core = .leaving := by
  cases ph <;> first | exact Or.inl h.1 | exact Or.inr h.1

/-- What threads know does not depend on the rest of a display. -/
theorem Ghost.Knows.setDev {s : HostState} {g : Ghost} (hknows : g.Knows s) {d : Nat}
    {x : DisplayState} (hown : ∀ ph, g.role = .life d ph → x.own = (s.dev d).own) :
    g.Knows (s.setDev d x) := by
  refine ⟨hknows.known, ?_, hknows.binding, hknows.unbinding, hknows.serving⟩
  intro e ph hrole
  by_cases he : e = d
  · subst he
    rw [HostState.setDev_same, hown ph hrole]
    exact hknows.life e ph hrole
  · rw [s.setDev_other x he]
    exact hknows.life e ph hrole

/-- A new thread knows at most what the phase of its life says. -/
theorem Ghost.knows_start {s : HostState} {role : Role}
    (hlife : ∀ d ph, role = .life d ph →
      ph.Fits (s.dev d).own (s.fb.fbHandle d) ∧ ph ≠ .binding ∧ ph ≠ .unbinding) :
    (Ghost.mk role {} none).Knows s where
  known _ hnone := by cases hnone
  life d ph hrole := (hlife d ph hrole).1
  binding d hrole := absurd rfl (hlife d _ hrole).2.1
  unbinding d hrole := absurd rfl (hlife d _ hrole).2.2
  serving _ _ hnone := by cases hnone

/-- A new thread holds what its role comes with. -/
theorem Ghost.count_start (role : Role) {k : Token} (h : ∀ d k', role.token = some (d, k') → k ≠ .dev d k') :
    (Ghost.mk role {} none).count k = 0 := by
  cases k with
  | lock => rfl
  | devreg => rfl
  | dev d k' =>
      by_cases hk : k' = .ticket
      · subst hk
        rfl
      · rw [Ghost.count_token _ d hk]
        exact if_neg fun htoken => h d k' htoken rfl

/-- **A new thread**, and what the kernel does to the display it is about. -/
theorem Hosted.spawn (h : Hosted info w) {d : Nat} {x : DisplayState} {p : HostProg Unit} {g : Ghost}
    (hp : p.wp (hostProtocol info) (fun _ => True) (fun _ _ => True) g)
    (hcovers : ∀ k n, (w.shared.dev d).Covers k n → x.Covers k (n + g.count (.dev d k)))
    (hcount : ∀ k, (∀ k', k ≠ .dev d k') → g.count k = 0)
    (hown : ∀ t ∈ w.threads, ∀ ph, t.ghost.role = .life d ph → x.own = (w.shared.dev d).own)
    (hknows : g.Knows (w.shared.setDev d x))
    (hregular : x.Regular (info d) (w.shared.fb.fbHandle d)) :
    Hosted info (w.spawn (w.shared.setDev d x) p g) := by
  refine ⟨h.fine.spawn hp, ?_, ?_, ?_, ?_⟩
  · intro k
    have htotal := h.covers k
    show (w.shared.setDev d x).Covers k (total _ (w.threads ++ [⟨p, g⟩]))
    rw [total_append]
    cases k with
    | dev e k =>
        by_cases he : e = d
        · subst he
          show ((w.shared.setDev e x).dev e).Covers k _
          rw [HostState.setDev_same]
          exact hcovers k _ htotal
        · show ((w.shared.setDev d x).dev e).Covers k _
          rw [w.shared.setDev_other x he]
          have hzero : g.count (.dev e k) = 0 :=
            hcount _ fun k' hk' => he (Token.dev.inj hk').1
          rw [hzero]
          exact htotal
    | lock =>
        have hzero : g.count .lock = 0 := hcount _ nofun
        rw [hzero]
        exact htotal
    | devreg =>
        have hzero : g.count .devreg = 0 := hcount _ nofun
        rw [hzero]
        exact htotal
  · intro t ht
    rcases List.mem_append.mp ht with ht | ht
    · exact (h.knows t ht).setDev (hown t ht)
    · rw [List.mem_singleton.mp ht]
      exact hknows
  · intro e
    by_cases he : e = d
    · subst he
      show ((w.shared.setDev e x).dev e).Regular _ _
      rw [HostState.setDev_same]
      exact hregular
    · show ((w.shared.setDev d x).dev e).Regular _ _
      rw [w.shared.setDev_other x he]
      exact h.regular e
  · intro e hnot
    exact h.bound e fun t ht => hnot t (List.mem_append_left _ ht)

/-- A new thread whose role comes with a part of its display. -/
theorem Hosted.spawn_role (h : Hosted info w) {d : Nat} {x : DisplayState} {p : HostProg Unit}
    {role : Role} {k : DisplayToken} (htoken : role.token = some (d, k)) (hticket : k ≠ .ticket)
    (hp : p.wp (hostProtocol info) (fun _ => True) (fun _ _ => True) { role := role })
    (hone : ∀ n, (w.shared.dev d).Covers k n → x.Covers k (n + 1))
    (hkeep : ∀ k' n, k' ≠ k → (w.shared.dev d).Covers k' n → x.Covers k' n)
    (hown : ∀ t ∈ w.threads, ∀ ph, t.ghost.role = .life d ph → x.own = (w.shared.dev d).own)
    (hknows : (Ghost.mk role {} none).Knows (w.shared.setDev d x))
    (hregular : x.Regular (info d) (w.shared.fb.fbHandle d)) :
    Hosted info (w.spawn (w.shared.setDev d x) p { role := role }) := by
  have hrole : ∀ d' k', role.token = some (d', k') → d' = d ∧ k' = k := by
    intro d' k' h'
    rw [htoken] at h'
    obtain ⟨rfl, rfl⟩ := Prod.mk.inj (Option.some.inj h')
    exact ⟨rfl, rfl⟩
  refine h.spawn hp ?_ ?_ hown hknows hregular
  · intro k' n hn
    by_cases hk : k' = k
    · subst hk
      rw [Ghost.count_token _ d hticket, if_pos htoken]
      exact hone n hn
    · rw [Ghost.count_start role fun d' k'' h' he =>
        hk ((Token.dev.inj he).2.trans (hrole d' k'' h').2)]
      exact hkeep k' n hk hn
  · intro k' hk
    exact Ghost.count_start role fun d' k'' h' he => hk k'' ((hrole d' k'' h').1 ▸ he)

/-- A new thread about nothing in particular. -/
theorem Hosted.spawn_drawing (h : Hosted info w) {p : HostProg Unit}
    (hp : p.wp (hostProtocol info) (fun _ => True) (fun _ _ => True) { role := .drawing }) :
    Hosted info (w.spawn (w.shared.setDev 0 (w.shared.dev 0)) p { role := .drawing }) := by
  have hzero : ∀ k, (Ghost.mk .drawing {} none).count k = 0 :=
    fun k => Ghost.count_start .drawing fun _ _ htoken => by cases htoken
  refine h.spawn hp ?_ (fun k _ => hzero k) (fun _ _ _ _ => rfl)
    (Ghost.knows_start fun _ _ hrole => by cases hrole) (h.regular 0)
  intro k n hk
  rw [hzero]
  exact hk

/-- A display that is neither probed nor removed can begin to be. -/
theorem DisplayState.Covers.life_start {x : DisplayState} {core : CoreState} {n : Nat}
    (h : x.Covers .life n) (hprobing : x.core ≠ .probing) (hleaving : x.core ≠ .leaving)
    (hcore : core = .probing ∨ core = .leaving) :
    DisplayState.Covers { x with core := core } .life (n + 1) := by
  have hzero : n ≤ 0 := by
    have hnone : ¬ (x.core = .probing ∨ x.core = .leaving) := fun h' => h'.elim hprobing hleaving
    unfold DisplayState.Covers at h
    rwa [if_neg hnone] at h
  show n + 1 ≤ if core = .probing ∨ core = .leaving then 1 else 0
  rw [if_pos hcore]
  omega

/-- The completion of a display URB has its ticket. -/
theorem Hosted.spawn_urb (h : Hosted info w) {d k : Nat} {status : Int} {t : Ticket}
    (hk : (w.shared.dev d).usb.inFlight[k]? = some t) :
    Hosted info (w.spawn
      (w.shared.setDev d { w.shared.dev d with
        usb := { (w.shared.dev d).usb with
          inFlight := (w.shared.dev d).usb.inFlight.eraseIdx k } })
      (urbThread info d (t.setStatus status))
      { role := .urb d false
        serving := some (d,
          { Call.start (.completion (t.setStatus status)) with held := [t.id] }) }) := by
  obtain ⟨hsound, hkilled, hunkilled, hunknown, hattached⟩ := h.regular d
  have hroom : (t.setStatus status).room = RPUSBDISP_MAX_TRANSFER_SIZE :=
    hsound.flying t (List.mem_of_getElem? hk)
  obtain ⟨hlt, _⟩ := List.getElem?_eq_some_iff.mp hk
  refine h.spawn (urb_wp hroom rfl) ?_ ?_ (fun _ _ _ _ => rfl) ⟨nofun, nofun, nofun, nofun, ?_⟩
    ⟨⟨hsound.ready, hsound.count, ?_⟩, hkilled, hunkilled, hunknown, hattached⟩
  · intro k' n hk'
    by_cases hticket : k' = .ticket
    · subst hticket
      rw [DisplayState.covers_ticket] at hk' ⊢
      rw [Ghost.count_ticket]
      show n + (if d = d then 1 else 0) + (w.shared.dev d).usb.pool.list.length +
        ((w.shared.dev d).usb.inFlight.eraseIdx k).length + (w.shared.dev d).taken ≤
          (w.shared.dev d).usb.pool.dispUrbCount
      rw [if_pos rfl, List.length_eraseIdx_of_lt hlt]
      omega
    · rw [Ghost.count_token _ d hticket, if_neg nofun]
      cases k' with
      | ticket => exact absurd rfl hticket
      | _ => exact hk'
  · intro k' hk'
    cases k' with
    | dev e k' =>
        have he : e ≠ d := fun he => hk' k' (by rw [he])
        by_cases hticket : k' = .ticket
        · subst hticket
          rw [Ghost.count_ticket]
          exact if_neg fun h => he h.symm
        · rw [Ghost.count_token _ e hticket]
          exact if_neg nofun
    | _ => rfl
  · intro e call heq
    cases heq
    exact Or.inl ⟨false, rfl⟩
  · exact fun u hu => hsound.flying u (List.mem_of_mem_eraseIdx hu)

/-- **Step.** -/
theorem Hosted.next (h : Hosted info w) {e : HostEvent a} (hnext : nextHost info palette w e = some w') :
    Hosted info w' := by
  have hweaken : ∀ {p : HostProg Unit} {Q : Unit → Ghost → Prop} {g : Ghost},
      p.wp (hostProtocol info) (fun _ => True) Q g →
      p.wp (hostProtocol info) (fun _ => True) (fun _ _ => True) g :=
    fun hp => wp_mono hp (fun _ he => he) fun _ _ _ => trivial
  -- No thread is about the life of a display that is neither probed nor removed.
  have hnoLife : ∀ {d : Nat} {x : DisplayState}, (w.shared.dev d).core ≠ .probing →
      (w.shared.dev d).core ≠ .leaving → ∀ t ∈ w.threads, ∀ ph, t.ghost.role = .life d ph →
      x.own = (w.shared.dev d).own := by
    intro d x hprobing hleaving t ht ph hrole
    rcases ((h.knows t ht).life d ph hrole).core with hcore | hcore
    · exact absurd hcore hprobing
    · exact absurd hcore hleaving
  rcases nextHost_some hnext with ⟨i, c, rfl⟩ | ⟨d, x, p, g, hstarts, rfl⟩
  · exact h.run hnext
  · obtain ⟨hsound, hkilled, hunkilled, hunknown, hattached⟩ := h.regular d
    cases hstarts with
    | callback c => exact h.spawn_drawing (hweaken (drawing_wp trivial (callback_locks c)))
    | defio pfns => exact h.spawn_drawing (hweaken (drawing_wp trivial (defio_locks pfns)))
    | probe hcore =>
        obtain ⟨hhandle, hunkilled', hzero⟩ := hunknown hcore
        have hprobing : (w.shared.dev d).core ≠ .probing := by rw [hcore]; exact nofun
        have hleaving : (w.shared.dev d).core ≠ .leaving := by rw [hcore]; exact nofun
        refine h.spawn_role rfl nofun (probe_wp d)
          (fun n hn => hn.life_start hprobing hleaving (Or.inl rfl)) ?_ (hnoLife hprobing hleaving)
          (Ghost.knows_start ?_) ⟨hsound, hkilled, hunkilled, nofun, nofun⟩
        · intro k n hk hn
          cases k <;> first | exact hn | exact absurd rfl hk
        · intro e ph heq
          cases heq
          rw [HostState.setDev_same]
          exact ⟨⟨rfl, hunkilled', hhandle, hzero⟩, by simp, by simp⟩
    | disconnect hcore =>
        have hprobing : (w.shared.dev d).core ≠ .probing := by rw [hcore]; exact nofun
        have hleaving : (w.shared.dev d).core ≠ .leaving := by rw [hcore]; exact nofun
        refine h.spawn_role rfl nofun (disconnect_wp d)
          (fun n hn => hn.life_start hprobing hleaving (Or.inr rfl)) ?_ (hnoLife hprobing hleaving)
          (Ghost.knows_start ?_) ⟨hsound, hkilled, hunkilled, nofun, nofun⟩
        · intro k n hk hn
          cases k <;> first | exact hn | exact absurd rfl hk
        · intro e ph heq
          cases heq
          rw [HostState.setDev_same]
          exact ⟨⟨rfl, hattached hcore⟩, by simp, by simp⟩
    | startWork hqueued =>
        refine h.spawn_role rfl nofun (work_wp d) (fun n hn => Nat.add_le_add_right hn 1) ?_
          (fun _ _ _ _ => rfl) (Ghost.knows_start fun _ _ hrole => by cases hrole)
          ⟨hsound, hkilled, hunkilled, hunknown, hattached⟩
        intro k n hk hn
        cases k <;> first | exact hn | exact absurd rfl hk
    | complete hflight => exact h.spawn_urb hflight
    | statusComplete hflight =>
        refine h.spawn_role rfl nofun (status_wp d _ _)
          (fun n hn => Nat.add_le_add_right hn 1) ?_ (fun _ _ _ _ => rfl)
          (Ghost.knows_start fun _ _ hrole => by cases hrole) ⟨hsound, ?_, hunkilled, hunknown, hattached⟩
        · intro k n hk hn
          cases k <;> first | exact hn | exact absurd rfl hk
        · intro hkilled'
          exact absurd (hflight.symm.trans (hkilled hkilled').2.1) nofun

/-- **Start.** -/
theorem loadedHost_hosted {fb : FbState} (hunbound : Unbound fb) : Hosted info (loadedHost fb) := by
  refine ⟨fun _ ht => absurd ht List.not_mem_nil, ?_, fun _ ht => absurd ht List.not_mem_nil, ?_, ?_⟩
  · intro k
    cases k with
    | lock => exact Nat.zero_le _
    | devreg => exact Nat.zero_le _
    | dev d k => cases k <;> exact Nat.zero_le _
  · intro d
    have hhandle : fb.fbHandle d = false := hunbound.handle d
    exact ⟨⟨nofun, rfl, nofun⟩, nofun, fun _ => ⟨rfl, rfl⟩, fun _ => ⟨hhandle, rfl, rfl⟩, nofun⟩
  · intro d _
    show fb.fbHandle d = true ↔ fb.pa.bindedUsbdev = some d
    rw [hunbound.handle d, hunbound.binded]
    exact ⟨nofun, nofun⟩

/-- **Run.** -/
theorem Hosted.of_run {fb : FbState} (hunbound : Unbound fb) {allowed : HostWorld → HostEvent a → Prop}
    (run : Runs.Run (nextHost info palette) allowed (loadedHost fb) w) : Hosted info w :=
  run.invariant (I := Hosted info) (loadedHost_hosted hunbound) fun _ _ _ h _ hnext => h.next hnext

/-- Two threads do not share a life. -/
theorem Hosted.one_life (h : Hosted info w) {i j d : Nat} {t u : Thread HostOp HostOp.Res Unit Ghost}
    (hi : w.threads[i]? = some t) (hj : w.threads[j]? = some u) (hne : j ≠ i)
    (ht : t.ghost.role.token = some (d, .life)) : u.ghost.role.token ≠ some (d, .life) := by
  intro hu
  obtain ⟨ph, hrole⟩ := Role.token_life.mp ht
  obtain ⟨ph', hrole'⟩ := Role.token_life.mp hu
  exact (h.alone hi hj hne).2.2 d _ _ hrole' hrole

/-- Only its own life changes what the USB core does with a display. -/
theorem Hosted.core_same (h : Hosted info w) {i d : Nat} {o : HostOp}
    {k : o.Res → HostProg Unit} {g : Ghost} {r : o.Res} {s : HostState} {c : HostChoice}
    (hi : w.threads[i]? = some ⟨.op o k, g⟩)
    (hexec : w.shared.exec info palette o c = some (r, s)) (hlife : g.role.token ≠ some (d, .life)) :
    (s.dev d).core = (w.shared.dev d).core := by
  refine exec_display (R := fun x x' => x'.core = x.core) (fun _ => rfl) hexec d ?_
  intro o' r' x' heq hdone
  obtain rfl := heq
  have hmay : g.MayDo info d o' := (h.fine.pre hi).2
  have hnoLife : ∀ ph, g.role ≠ .life d ph := fun ph hrole => hlife (Role.token_life.mpr ⟨ph, hrole⟩)
  exact congrArg Own.core (display_own hmay hdone hnoLife)

/-! ## Past the removal -/

/-- `fbhandler_on_remove_device` has returned for display `d`: its removal is about to
kill the status URB, or has done so. -/
def RemoveReturned (w : HostWorld) (d : Nat) : Prop :=
  (w.shared.dev d).killed = true ∨ ∃ t ∈ w.threads, t.asks = some (.dev d .killStatusUrb)

/-- A display that is removed has no handle, and nobody is about to give it one. -/
theorem Hosted.removed (h : Hosted info w) {d : Nat} (hremoved : RemoveReturned w d) :
    w.shared.fb.fbHandle d = false ∧ ∀ t ∈ w.threads, ¬ t.ghost.Halfway d := by
  have hunkilled : ∀ t ∈ w.threads, t.ghost.Halfway d → (w.shared.dev d).killed = false := by
    intro t ht hcase
    rcases hcase with hrole | hrole
    · exact ((h.knows t ht).life d _ hrole).2
    · exact ((h.knows t ht).life d _ hrole).2
  rcases hremoved with hkilled | ⟨t, ht, hkill⟩
  · refine ⟨((h.regular d).killed hkilled).1, fun t ht hhalf => ?_⟩
    exact absurd (hkilled.symm.trans (hunkilled t ht hhalf)) nofun
  · obtain ⟨i, hi⟩ := List.mem_iff_getElem?.mp ht
    have hrole : t.ghost.role = .life d (.handle false) := (h.fine.asks ht hkill).2
    refine ⟨((h.knows _ ht).life d _ hrole).2.2, fun u hu hhalf => ?_⟩
    obtain ⟨j, hj⟩ := List.mem_iff_getElem?.mp hu
    obtain ⟨ph, hlife, hph⟩ : ∃ ph, u.ghost.role = .life d ph ∧ ph ≠ .handle false :=
      hhalf.elim (fun h' => ⟨_, h', nofun⟩) (fun h' => ⟨_, h', nofun⟩)
    by_cases hji : j = i
    · subst hji
      cases hi.symm.trans hj
      exact hph (Role.life.inj (hlife.symm.trans hrole)).2
    · exact (h.alone hi hj hji).2.2 d _ _ hlife hrole

/-- Nobody goes on finding bound what is removed. -/
theorem Hosted.not_known (h : Hosted info w) {d : Nat} (hremoved : RemoveReturned w d)
    {t : Thread HostOp HostOp.Res Unit Ghost} (ht : t ∈ w.threads) :
    t.ghost.locks.known ≠ some (some d) := by
  intro hknown
  obtain ⟨hhandle, hnot⟩ := h.removed hremoved
  have hbound := (h.bound d hnot).mpr ((h.knows t ht).known _ hknown).1
  exact absurd (hhandle.symm.trans hbound) nofun

/-- **Where nobody registers**, the two stores are in step. -/
theorem Hosted.in_step (h : Hosted info w) (hdevreg : w.shared.devreg = false) (d : Nat) :
    w.shared.fb.fbHandle d = true ↔ w.shared.fb.pa.bindedUsbdev = some d := by
  apply h.bound d
  intro t ht hhalf
  have hregistering : t.ghost.locks.registering = true :=
    hhalf.elim (fun h' => ((h.knows t ht).binding d h').2.1)
      (fun h' => ((h.knows t ht).unbinding d h').2.1)
  have hone : t.ghost.count .devreg = 1 := if_pos hregistering
  have hle : t.ghost.count .devreg ≤ total (fun g => Ghost.count g .devreg) w.threads :=
    @count_le_total _ _ _ _ (fun g => Ghost.count g .devreg) _ _ ht
  have hcovers : _ ≤ if w.shared.devreg then 1 else 0 := h.covers .devreg
  rw [hdevreg, if_neg Bool.false_ne_true] at hcovers
  omega

end Worlds

/-- **The framebuffer's display and the display's framebuffer stay in step**, whatever
comes and goes: outside the registration critical sections a display has a handle
exactly when it is the bound one, so that one display has one at most; and once
`fbhandler_on_remove_device` has returned, no call is made on the display. -/
theorem binding_in_step {info : Nat → Dev} {palette : UInt32 → Pixel} {a : Arch} {fb : FbState}
    {w : HostWorld} (hunbound : Unbound fb)
    (run : Runs.Run (nextHost info palette) (fun _ (_ : HostEvent a) => True) (loadedHost fb) w) :
    (w.shared.devreg = false →
      (∀ d, w.shared.fb.fbHandle d = true ↔ w.shared.fb.pa.bindedUsbdev = some d) ∧
      ∀ d d', w.shared.fb.fbHandle d = true → w.shared.fb.fbHandle d' = true → d = d') ∧
    ∀ d, RemoveReturned w d → ∀ t ∈ w.threads, ∀ c, t.asks ≠ some (.callDisplay d c) := by
  have hosted : Hosted info w := Hosted.of_run hunbound run
  constructor
  · intro hdevreg
    have hbound := hosted.in_step hdevreg
    refine ⟨hbound, fun d d' hd hd' => ?_⟩
    have hsame := ((hbound d).mp hd).symm.trans ((hbound d').mp hd')
    exact Option.some.inj hsame
  · intro d hremoved t ht c hcall
    obtain ⟨_, hknown, _⟩ : t.ghost.May info (.callDisplay d c) := (hosted.fine.asks ht hcall).2
    exact hosted.not_known hremoved ht hknown

/-- No display has come yet. -/
def neverBound : FbState :=
  { justBound with
    pa := { justBound.pa with bindedUsbdev := none }
    fbHandle := fun _ => false }

theorem neverBound_unbound : Unbound neverBound := ⟨rfl, rfl, fun _ => rfl⟩

/-- Everything is granted, and there is memory for one ticket. -/
def plenty : HostChoice := { buffers := .zeros 1 one_le_maxTickets }

/-- A display comes and is taken away, and before that is over another one comes. -/
def replugged : List (HostEvent amd64) :=
  [.probe 0] ++ List.replicate 22 (.run 0 plenty) ++ [.disconnect 0] ++
    List.replicate 9 (.run 1 plenty) ++ [.probe 1] ++ List.replicate 22 (.run 2 plenty)

/-- Display 0 is removed, and display 1 is bound. -/
theorem binding_in_step_replugged : ∃ w,
    Runs.Run (nextHost (fun _ => .attached 64 0x0104 .little) (fun c => c.toUInt16))
      (fun _ (_ : HostEvent amd64) => True) (loadedHost neverBound) w ∧
    w.shared.devreg = false ∧ w.shared.fb.fbHandle 1 = true ∧ RemoveReturned w 0 ∧
    w.shared.fb.pa.bindedUsbdev = some 1 ∧
    ∀ t ∈ w.threads, ∀ c, t.asks ≠ some (.callDisplay 0 c) := by
  obtain ⟨w, hrun, hdevreg, hhandle, hreturned⟩ : ∃ w,
      Runs.after (nextHost (fun _ => .attached 64 0x0104 .little) (fun c => c.toUInt16))
        (loadedHost neverBound) replugged = some w ∧
      w.shared.devreg = false ∧ w.shared.fb.fbHandle 1 = true ∧
      ∃ t, w.threads[1]? = some t ∧ t.asks = some (.dev 0 .killStatusUrb) :=
    ⟨_, by with_unfolding_all rfl, by with_unfolding_all rfl, by with_unfolding_all rfl,
      _, by with_unfolding_all rfl, by with_unfolding_all rfl⟩
  have run := Runs.Run.of_after hrun
  obtain ⟨t, ht, hkill⟩ := hreturned
  have hremoved : RemoveReturned w 0 := Or.inr ⟨t, List.mem_of_getElem? ht, hkill⟩
  obtain ⟨hbound, hcall⟩ := binding_in_step neverBound_unbound run
  exact ⟨w, run, hdevreg, hhandle, hremoved, ((hbound hdevreg).1 1).mp hhandle, hcall 0 hremoved⟩

end RpUsbDisp.Hotplug
