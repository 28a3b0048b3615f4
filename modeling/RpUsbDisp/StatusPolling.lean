import RpUsbDisp.Binding

/-!
# Status polling

The status URB of a display is submitted by its probing, and again by every
completion.  Whoever has taken the URB's place, a probing display or a completion
handler, owes its submission, until it has submitted the URB, has found the display
dead, or has found the fail count at its limit.

`_status_start_querying` counts a submission that is refused, and returns: nothing
submits the URB once more, although the limit is not reached (`polling_given_up`).
Where no submission is refused polling goes on (`polling_stays_alive`).
-/

namespace RpUsbDisp.Hotplug

open Programs

/-! ## What is owed -/

/-- Where a thread is with the status URB: its display does not live yet, it owes the
submission, it has seen to it, or the display is dead. -/
inductive Poll where
  | early
  | owing
  | settled
  | dead
  deriving DecidableEq

/-- The operations of `_status_start_querying`. -/
def DisplayOp.Polls : DisplayOp → Bool
  | .usb .isAlive => true
  | .statusFailCount => true
  | .request .usbPipeEndpoint => true
  | .submitStatusUrb => true
  | .aside .usbClearHalt => true
  | .setStatusFailCount _ => true
  | _ => false

/-- None of them hands the display back. -/
theorem DisplayOp.not_polls (o : DisplayOp) (h : o.HandsBack = true) : o.Polls = false := by
  cases o <;> first | rfl | cases h

namespace Poll

/-- Where it is after an operation. -/
def next : Poll → (o : DisplayOp) → o.Res → Poll
  | _, .setAlive _, _ => .owing
  | .owing, .usb .isAlive, alive => if alive then .owing else .dead
  | .owing, .statusFailCount, count =>
      if RPUSBDISP_STATUS_QUERY_RETRY_COUNT ≤ count then .settled else .owing
  | .owing, .setStatusFailCount _, _ => .settled
  | _, .submitStatusUrb, status => if status = 0 then .settled else .dead
  | p, _, _ => p

/-- What it may do there. -/
def May (p : Poll) : DisplayOp → Prop
  | .setAlive alive => alive = true ∧ p = .early
  | .setStatusFailCount count => RPUSBDISP_STATUS_QUERY_RETRY_COUNT ≤ count ∨ p = .dead
  | .statusHandled => p ≠ .owing
  | _ => True

/-- What it says about the display. -/
def Fits (x : DisplayState) : Poll → Prop
  | .early => x.usb.isAlive = false ∧ x.statusInFlight = false ∧ x.statusHandlers = 0
  | .dead => x.usb.isAlive = false
  | _ => True

end Poll

/-- What a probing (`probing`) and a completion handler do for the status URB of display
`d`.  The endpoint is found; a probing that owes the submission is in
`_status_start_querying`. -/
def pollProtocol (d : Nat) (probing : Bool) : Protocol HostOp HostOp.Res Poll where
  pre p
    | .dev e o => e = d ∧ p.May o ∧ (probing = true → p = .owing → o.Polls = true)
    | _ => probing = true → p ≠ .owing
  answer _
    | .dev _ (.request .usbPipeEndpoint), granted => granted = true
    | _, _ => True
  track p
    | .dev _ o, r => p.next o r
    | _, _ => p

section Programs

/-! ## The programs keep to it -/

variable {d : Nat} {probing : Bool} {F : Fault → Prop}

/-- An operation on the display and what follows it. -/
theorem polls_ask {α : Type} {o : DisplayOp} {f : o.Res → HostProg α} {Q : α → Poll → Prop} {p : Poll}
    (hmay : p.May o) (hpolls : probing = true → p = .owing → o.Polls = true)
    (h : ∀ r, (pollProtocol d probing).answer p (.dev d o) r →
      (f r).wp (pollProtocol d probing) F Q (p.next o r)) :
    (Prog.ask (HostOp.dev d o) >>= f).wp (pollProtocol d probing) F Q p :=
  ⟨⟨rfl, hmay, hpolls⟩, h⟩

/-- Another operation and what follows it. -/
theorem polls_aside {α : Type} {o : HostOp} {f : o.Res → HostProg α} {Q : α → Poll → Prop} {p : Poll}
    (ho : ∀ e o', o ≠ .dev e o') (hp : p ≠ .owing)
    (h : ∀ r, (f r).wp (pollProtocol d probing) F Q p) :
    (Prog.ask o >>= f).wp (pollProtocol d probing) F Q p := by
  cases o with
  | dev e o' => exact absurd rfl (ho e o')
  | _ => exact ⟨fun _ => hp, fun r _ => h r⟩

/-- `fbhandler_set_unsync_flag` has nothing to do with it. -/
theorem setUnsync_polls {p : Poll} (hp : probing = true → p ≠ .owing) :
    (framebufferPart (fbhandlerSetUnsync d)).wp (pollProtocol d probing) F (fun _ p' => p' = p) p := by
  refine ⟨hp, fun handle _ => ?_⟩
  cases handle with
  | false => exact rfl
  | true => exact ⟨hp, fun _ _ => rfl⟩

/-- **`_status_start_querying`** sees to the submission. -/
theorem statusStartQuerying_polls {p : Poll} (hp : p ≠ .early) :
    (statusStartQuerying d).wp (pollProtocol d probing) F
      (fun _ p' => p' = .settled ∨ p' = .dead) p := by
  have hcount : (do
      let failCount ← (Prog.ask (HostOp.dev d .statusFailCount) : HostProg Nat)
      Prog.ask (HostOp.dev d (.setStatusFailCount (failCount + 1))) : HostProg Unit).wp
      (pollProtocol d probing) F (fun _ p' => p' = .settled ∨ p' = .dead) .dead :=
    polls_ask trivial (fun _ _ => rfl) fun _ _ =>
      ⟨⟨rfl, Or.inr rfl, fun _ _ => rfl⟩, fun _ _ => Or.inr rfl⟩
  unfold statusStartQuerying
  refine polls_ask trivial (fun _ _ => rfl) fun alive _ => ?_
  cases alive with
  | false =>
      cases p with
      | early => exact absurd rfl hp
      | owing => exact Or.inr rfl
      | settled => exact Or.inl rfl
      | dead => exact Or.inr rfl
  | true =>
      have hsame : p.next (.usb .isAlive) true = p := by cases p <;> rfl
      rw [hsame, if_pos rfl]
      refine polls_ask trivial (fun _ _ => rfl) fun failCount _ => ?_
      by_cases hlimit : RPUSBDISP_STATUS_QUERY_RETRY_COUNT ≤ failCount
      · rw [if_pos hlimit]
        cases p with
        | early => exact absurd rfl hp
        | owing => exact Or.inl (if_pos hlimit)
        | settled => exact Or.inl rfl
        | dead => exact Or.inr rfl
      · have hstill : p.next .statusFailCount failCount = p := by
          cases p with
          | owing => exact if_neg hlimit
          | _ => rfl
        rw [hstill, if_neg hlimit]
        refine polls_ask trivial (fun _ _ => rfl) fun granted hgranted => ?_
        obtain rfl : granted = true := hgranted
        have hfound : p.next (.request .usbPipeEndpoint) true = p := by cases p <;> rfl
        rw [hfound, if_pos rfl]
        refine polls_ask trivial (fun _ _ => rfl) fun status _ => ?_
        have htrack : p.next .submitStatusUrb status = if status = 0 then .settled else .dead := by
          cases p <;> rfl
        rw [htrack]
        by_cases hstatus : status = 0
        · rw [if_pos hstatus, if_neg (fun hne => hne hstatus)]
          exact Or.inl rfl
        · rw [if_neg hstatus, if_pos hstatus]
          by_cases hpipe : status = -EPIPE
          · rw [if_pos hpipe]
            exact polls_ask trivial (fun _ _ => rfl) fun _ _ => hcount
          · rw [if_neg hpipe]
            exact hcount

/-- The end of `_on_status_query_finished`. -/
theorem queryAgain_polls {p : Poll} (hp : p = .owing ∨ p = .settled) :
    (do
      let failCount ← (Prog.ask (HostOp.dev d .statusFailCount) : HostProg Nat)
      if failCount < RPUSBDISP_STATUS_QUERY_RETRY_COUNT then
        statusStartQuerying d : HostProg Unit).wp (pollProtocol d false) F
      (fun _ p' => p' = .settled ∨ p' = .dead) p := by
  refine polls_ask trivial nofun fun failCount _ => ?_
  by_cases hlimit : failCount < RPUSBDISP_STATUS_QUERY_RETRY_COUNT
  · rw [if_pos hlimit]
    apply statusStartQuerying_polls
    rcases hp with rfl | rfl
    · have hstill : Poll.owing.next .statusFailCount failCount = .owing :=
        if_neg (Nat.not_le.mpr hlimit)
      rw [hstill]
      exact nofun
    · exact nofun
  · rw [if_neg hlimit]
    rcases hp with rfl | rfl
    · exact Or.inl (if_pos (Nat.not_lt.mp hlimit))
    · exact Or.inl rfl

/-- `_on_parse_status_packet` has nothing to do with it. -/
theorem onParseStatusPacket_polls {packet : StatusNormalPacket} :
    (onParseStatusPacket d packet).wp (pollProtocol d false) F (fun _ p => p = .owing) .owing := by
  have htouch : ∀ touch, (Prog.ask (HostOp.dev d (.aside (.touchhandlerSendTsEvent
      packet.touchX packet.touchY touch))) : HostProg Unit).wp (pollProtocol d false) F
      (fun _ p => p = .owing) .owing := fun _ => ⟨⟨rfl, trivial, nofun⟩, fun _ _ => rfl⟩
  unfold onParseStatusPacket
  split
  · split
    · rw [wp_bind]
      have hquiet : false = true → Poll.owing ≠ .owing := fun h => absurd h Bool.false_ne_true
      apply wp_mono (setUnsync_polls hquiet) (fun _ he => he)
      intro _ _ heq
      obtain rfl := heq
      exact polls_ask trivial nofun fun _ _ => htouch _
    · exact htouch _
  · exact rfl

/-- **A completion handler** sees to the submission. -/
theorem status_polls {status : Int} {packet : StatusNormalPacket} :
    (statusThread d status packet).wp (pollProtocol d false) F (fun _ p => p ≠ .owing) .owing := by
  have hdone : ∀ p : Poll, p = .settled ∨ p = .dead →
      (Prog.ask (HostOp.dev d .statusHandled) : HostProg Unit).wp (pollProtocol d false) F
        (fun _ p => p ≠ .owing) p := by
    intro p hp
    rcases hp with rfl | rfl
    · exact ⟨⟨rfl, nofun, nofun⟩, fun _ _ => nofun⟩
    · exact ⟨⟨rfl, nofun, nofun⟩, fun _ _ => nofun⟩
  unfold statusThread
  rw [wp_bind]
  apply wp_mono (Q := fun _ p => p = .settled ∨ p = .dead) _ (fun _ he => he) fun _ => hdone
  unfold onStatusQueryFinished
  refine polls_ask trivial nofun fun alive _ => ?_
  cases alive with
  | false => exact Or.inr rfl
  | true =>
      rw [if_pos rfl]
      by_cases hstatus : status = 0
      · rw [if_pos hstatus, wp_bind]
        apply wp_mono onParseStatusPacket_polls (fun _ he => he)
        intro _ _ h
        obtain rfl := h
        exact queryAgain_polls (Or.inl rfl)
      · rw [if_neg hstatus]
        exact polls_ask (Or.inl le_rfl) nofun fun _ _ => queryAgain_polls (Or.inr rfl)

/-- `fbhandler_on_new_device` has nothing to do with it. -/
theorem fbhandlerOnNewDevice_polls {p : Poll} (hp : p ≠ .owing) :
    (fbhandlerOnNewDevice d).wp (pollProtocol d probing) F (fun _ p' => p' = p) p := by
  refine polls_aside nofun hp fun _ => polls_aside nofun hp fun binded => ?_
  cases binded with
  | some other => exact polls_aside nofun hp fun _ => rfl
  | none =>
      refine polls_aside nofun hp fun _ => polls_aside nofun hp fun _ => ?_
      refine polls_aside nofun hp fun _ => polls_aside nofun hp fun _ => ?_
      exact polls_aside nofun hp fun _ => rfl

/-- Past its submission a probing does nothing more for it. -/
theorem probingEnd_polls {p : Poll} (hp : p = .settled ∨ p = .dead) :
    (do
      let _ ← fbhandlerOnNewDevice d
      Prog.ask (HostOp.dev d (.aside .touchhandlerOnNewDevice))
      framebufferPart (fbhandlerSetUnsync d)
      Prog.ask (HostOp.dev d (.usb .scheduleCompletionWork))
      return 0 : HostProg Int).wp (pollProtocol d true) F
      (fun retval p => if retval = 0 then p = .settled ∨ p = .dead else p = .early) p := by
  have howing : p ≠ .owing := by
    rcases hp with rfl | rfl
    · exact nofun
    · exact nofun
  have hsame : ∀ r, p.next (.aside .touchhandlerOnNewDevice) r = p := by
    rcases hp with rfl | rfl
    · exact fun _ => rfl
    · exact fun _ => rfl
  have hscheduled : ∀ r, p.next (.usb .scheduleCompletionWork) r = p := by
    rcases hp with rfl | rfl
    · exact fun _ => rfl
    · exact fun _ => rfl
  rw [wp_bind]
  apply wp_mono (fbhandlerOnNewDevice_polls howing) (fun _ he => he)
  intro _ _ heq
  obtain rfl := heq
  refine polls_ask trivial (fun _ h => absurd h howing) fun r _ => ?_
  rw [hsame r, wp_bind]
  apply wp_mono (setUnsync_polls fun _ => howing) (fun _ he => he)
  intro _ _ heq
  obtain rfl := heq
  refine polls_ask trivial (fun _ h => absurd h howing) fun r _ => ?_
  rw [hscheduled r]
  exact hp

/-- `_on_new_usb_device` starts polling, if it gets that far. -/
theorem onNewUsbDevice_polls :
    (onNewUsbDevice d).wp (pollProtocol d true) F
      (fun retval p => if retval = 0 then p = .settled ∨ p = .dead else p = .early) .early := by
  unfold onNewUsbDevice
  refine polls_ask trivial nofun fun granted _ => ?_
  cases granted with
  | false => exact rfl
  | true =>
      refine polls_ask trivial nofun fun allocated _ => ?_
      cases allocated with
      | false => exact polls_ask trivial nofun fun _ _ => rfl
      | true =>
          refine polls_ask (o := .aside .addUsbdevToList) trivial nofun fun _ _ => ?_
          refine polls_ask ⟨rfl, rfl⟩ nofun fun _ _ => ?_
          rw [wp_bind]
          have hquery : (statusStartQuerying d).wp (pollProtocol d true) F
              (fun _ p => p = .settled ∨ p = .dead) .owing := statusStartQuerying_polls nofun
          apply wp_mono hquery (fun _ he => he)
          exact fun _ _ => probingEnd_polls

/-- **A probing** sees to the submission once its display lives. -/
theorem probe_polls :
    (usbProbe d).wp (pollProtocol d true) F (fun _ p => p ≠ .owing) .early := by
  have hprobed : ∀ (p : Poll) (retval : Int), p ≠ .owing →
      (Prog.ask (HostOp.dev d (.probed retval)) : HostProg Unit).wp (pollProtocol d true) F
        (fun _ p => p ≠ .owing) p := by
    intro p retval hp
    refine ⟨⟨rfl, trivial, fun _ h => absurd h hp⟩, fun _ _ => ?_⟩
    cases p with
    | owing => exact absurd rfl hp
    | _ => exact nofun
  have hfailed : (Prog.ask (HostOp.dev d .kfree) >>= fun _ =>
      Prog.ask (HostOp.dev d (.probed (-ENOMEM))) : HostProg Unit).wp (pollProtocol d true) F
        (fun _ p => p ≠ .owing) .early :=
    polls_ask trivial nofun fun _ _ => hprobed .early _ nofun
  unfold usbProbe rpusbdispProbe
  refine polls_ask (o := .request .kzalloc) trivial nofun fun granted _ => ?_
  cases granted with
  | false => exact hprobed .early _ nofun
  | true =>
      refine polls_ask (o := .request .endpoints) trivial nofun fun found _ => ?_
      cases found with
      | false => exact hfailed
      | true =>
          have hassoc : ((onNewUsbDevice d >>= fun retval =>
              if retval ≠ 0 then do
                Prog.ask (HostOp.dev d .kfree)
                return -ENOMEM
              else return 0 : HostProg Int) >>= fun retval =>
                Prog.ask (HostOp.dev d (.probed retval)) : HostProg Unit).wp (pollProtocol d true) F
              (fun _ p => p ≠ .owing) .early := by
            rw [Prog.bind_assoc, wp_bind]
            apply wp_mono onNewUsbDevice_polls (fun _ he => he)
            intro retval p hp
            by_cases hzero : retval = 0
            · rw [if_pos hzero] at hp
              rw [if_neg (fun hne => hne hzero)]
              rcases hp with rfl | rfl
              · exact hprobed .settled _ nofun
              · exact hprobed .dead _ nofun
            · rw [if_neg hzero] at hp
              rw [if_pos hzero, hp]
              exact hfailed
          exact hassoc

end Programs

/-! ## The invariant -/

/-- The thread probes display `d` (`probing`), or handles a completion of its status URB. -/
def Concerned (d : Nat) (probing : Bool) (s : HostState) (g : Ghost) : Prop :=
  match probing with
  | true => g.role.token = some (d, .life) ∧ (s.dev d).core = .probing
  | false => g.role.token = some (d, .status)

/-- The thread owes the submission of the status URB. -/
def Owes (d : Nat) (s : HostState) (t : Thread HostOp HostOp.Res Unit Ghost) : Prop :=
  ∃ probing, Concerned d probing s t.ghost ∧
    t.prog.wp (pollProtocol d probing) (fun _ => False) (fun _ p => p ≠ .owing) .owing

/-- **Polling goes on.**  Where a display lives its status URB is in flight, the fail
count is at its limit, or somebody owes the submission. -/
structure Polled (d : Nat) (w : HostWorld) : Prop where
  fresh : (w.shared.dev d).core = .unknown → Poll.early.Fits (w.shared.dev d)
  keeps : ∀ probing, w.Keeps (pollProtocol d probing) (fun _ => False) (fun _ p => p ≠ .owing)
    (Concerned d probing) fun s p => p.Fits (s.dev d)
  polled : (w.shared.dev d).usb.isAlive = true → (w.shared.dev d).statusInFlight = true ∨
    RPUSBDISP_STATUS_QUERY_RETRY_COUNT ≤ (w.shared.dev d).urbStatusFailCount ∨
      ∃ t ∈ w.threads, Owes d w.shared t

/-- `usb_pipe_endpoint` finds the status endpoint of display `d`. -/
def EndpointFound {a : Arch} (d : Nat) (w : HostWorld) : HostEvent a → Prop
  | .run i choice => ∀ t, w.threads[i]? = some t →
      t.asks = some (.dev d (.request .usbPipeEndpoint)) → choice.granted = true
  | _ => True

/-- No submission of the status URB is refused while display `d` lives. -/
def Accepted {a : Arch} (d : Nat) (w : HostWorld) : HostEvent a → Prop
  | .run i choice => ∀ t, w.threads[i]? = some t → t.asks = some (.dev d .submitStatusUrb) →
      choice.submit = .submitted ∨ (w.shared.dev d).usb.isAlive = false
  | _ => True

section Operations

/-! ## What an operation does to it -/

variable {info : Nat → Dev} {palette : UInt32 → Pixel} {s s' : HostState} {c : HostChoice} {g : Ghost}
  {d : Nat} {probing : Bool}

/-- What of a display polling is about. -/
def DisplayState.polling (x : DisplayState) : Bool × Nat × Bool × Nat :=
  (x.usb.isAlive, x.urbStatusFailCount, x.statusInFlight, x.statusHandlers)

/-- Operations that polling is not about. -/
def DisplayOp.PollingAside : DisplayOp → Bool
  | .setAlive _ => false
  | .setStatusFailCount _ => false
  | .submitStatusUrb => false
  | .statusHandled => false
  | _ => true

/-- They leave it alone. -/
theorem display_polling {x x' : DisplayState} {o : DisplayOp} {r : o.Res} {dev : Dev}
    (h : x.exec dev o c = some (r, x')) (haside : o.PollingAside = true) : x'.polling = x.polling := by
  cases o with
  | usb o =>
      obtain ⟨⟨_, u⟩, hexec, heq⟩ := Option.map_eq_some_iff.mp h
      cases heq
      have halive : u.isAlive = x.usb.isAlive := by
        cases o with
        | submitUrb site t => cases hc : c.submit <;> rw [hc] at hexec <;> cases hexec <;> rfl
        | _ =>
            cases hexec
            rfl
      have hnotify : (x.notify o).polling = x.polling := by cases o <;> rfl
      unfold DisplayState.polling at hnotify ⊢
      grind
  | setAlive alive => cases haside
  | setStatusFailCount count => cases haside
  | submitStatusUrb => cases haside
  | statusHandled => cases haside
  | killStatusUrb =>
      simp only [DisplayState.exec] at h
      split at h
      · cases h
      · cases h
        rfl
  | cancelDelayedWorkSync =>
      simp only [DisplayState.exec] at h
      split at h
      · cases h
      · cases h
        rfl
  | takeTicket =>
      simp only [DisplayState.exec] at h
      split at h
      · cases h
        rfl
      · cases h
  | _ =>
      cases h
      rfl

/-- They leave it alone. -/
theorem exec_polling {o : HostOp} {r : o.Res} (h : s.exec info palette o c = some (r, s'))
    (haside : ∀ o', o = .dev d o' → o'.PollingAside = true) :
    (s'.dev d).polling = (s.dev d).polling :=
  exec_display (R := fun x x' => x'.polling = x.polling) (fun _ => rfl) h d
    fun o' _ _ ho hexec => display_polling hexec (haside o' ho)

/-- Facts about polling are the same where what it is about is. -/
theorem Poll.Fits.of_polling {x x' : DisplayState} {p : Poll} (hfits : p.Fits x)
    (hsame : x'.polling = x.polling) : p.Fits x' := by
  unfold DisplayState.polling at hsame
  cases p <;> grind [Poll.Fits]

/-- **An operation leads on.** -/
theorem Poll.Fits.exec {x x' : DisplayState} {dev : Dev} {o : DisplayOp} {r : o.Res} {p : Poll}
    (hfits : p.Fits x) (hmay : p.May o) (h : x.exec dev o c = some (r, x'))
    (haccepted : o = .submitStatusUrb → c.submit = .submitted ∨ x.usb.isAlive = false) :
    (p.next o r).Fits x' := by
  cases o with
  | setAlive alive => exact trivial
  | setStatusFailCount count =>
      cases h
      cases p <;> exact hfits
  | statusHandled =>
      cases h
      cases p with
      | early =>
          obtain ⟨halive, hflight, hhandlers⟩ := hfits
          exact ⟨halive, hflight, by rw [hhandlers]⟩
      | _ => exact hfits
  | submitStatusUrb =>
      cases h
      have hnext : p.next .submitStatusUrb c.status = if c.status = 0 then .settled else .dead := by
        cases p <;> rfl
      rw [hnext]
      by_cases hstatus : c.status = 0
      · rw [if_pos hstatus]
        exact trivial
      · rw [if_neg hstatus]
        rcases haccepted rfl with hsubmit | hdead
        · exact absurd (by unfold HostChoice.status; rw [hsubmit]) hstatus
        · exact hdead
  | usb o =>
      have hsame : x'.polling = x.polling := display_polling h rfl
      cases o with
      | isAlive =>
          cases h
          cases p with
          | owing =>
              cases halive : x.usb.isAlive with
              | true => exact trivial
              | false => exact halive
          | _ => exact hfits
      | _ => cases p <;> exact hfits.of_polling hsame
  | statusFailCount =>
      cases h
      cases p with
      | owing =>
          show Poll.Fits _ (if RPUSBDISP_STATUS_QUERY_RETRY_COUNT ≤ _ then .settled else .owing)
          split <;> exact trivial
      | _ => exact hfits
  | _ =>
      have hsame : x'.polling = x.polling := display_polling h rfl
      cases p <;> exact hfits.of_polling hsame

end Operations

section Worlds

/-! ## The invariant is kept -/

variable {info : Nat → Dev} {palette : UInt32 → Pixel} {w w' : HostWorld} {a : Arch} {d : Nat}
  {s : HostState} {c : HostChoice} {i : Nat} {o : HostOp} {k : o.Res → HostProg Unit} {g : Ghost}
  {r : o.Res}

/-- A completion handler of the status URB is accounted for. -/
theorem Hosted.handler_counts (h : Hosted info w) {t : Thread HostOp HostOp.Res Unit Ghost}
    (ht : t ∈ w.threads) (htoken : t.ghost.role.token = some (d, .status)) :
    (w.shared.dev d).statusHandlers ≠ 0 := by
  have hone : t.ghost.count (.dev d .status) = 1 := by
    rw [Ghost.count_token _ d (k := .status) nofun]
    exact if_pos htoken
  have hle := @count_le_total _ _ _ _ (fun g => Ghost.count g (.dev d .status)) _ _ ht
  have hcovers : _ ≤ (w.shared.dev d).statusHandlers := h.covers (.dev d .status)
  omega

/-- A display that does not live yet is left alone by all but its own probing. -/
theorem Hosted.undisturbed (h : Hosted info w) (hi : w.threads[i]? = some ⟨.op o k, g⟩)
    (hexec : w.shared.exec info palette o c = some (r, s))
    (hfits : Poll.early.Fits (w.shared.dev d)) (hlife : g.role.token ≠ some (d, .life)) :
    (s.dev d).polling = (w.shared.dev d).polling := by
  apply exec_polling hexec
  intro o' heq
  obtain rfl := heq
  have hmay : g.MayDo info d o' := (h.fine.pre hi).2
  have hnoLife : ∀ ph, g.role ≠ .life d ph := fun ph hrole => hlife (Role.token_life.mpr ⟨ph, hrole⟩)
  have hnoStatus : g.role ≠ .status d := fun hrole =>
    h.handler_counts (List.mem_of_getElem? hi) (Role.token_status.mpr hrole) hfits.2.2
  cases o' with
  | setAlive alive =>
      rcases hmay with ⟨_, hrole⟩ | ⟨_, hrole⟩
      · exact absurd hrole (hnoLife _)
      · exact absurd hrole (hnoLife _)
  | setStatusFailCount count =>
      rcases hmay with hrole | hrole
      · exact absurd hrole (hnoLife _)
      · exact absurd hrole hnoStatus
  | submitStatusUrb =>
      rcases hmay with hrole | hrole
      · exact absurd hrole (hnoLife _)
      · exact absurd hrole hnoStatus
  | statusHandled => exact absurd hmay hnoStatus
  | _ => rfl

/-- Only `setAlive` changes whether a display lives. -/
theorem exec_alive {s s' : HostState} (h : s.exec info palette o c = some (r, s'))
    (hne : ∀ b, o ≠ .dev d (.setAlive b)) : (s'.dev d).usb.isAlive = (s.dev d).usb.isAlive := by
  refine exec_display (R := fun x x' => x'.usb.isAlive = x.usb.isAlive) (fun _ => rfl) h d ?_
  intro o' r' x' ho hexec
  cases o' with
  | setAlive b => exact absurd ho (hne b)
  | setStatusFailCount count =>
      cases hexec
      rfl
  | submitStatusUrb =>
      cases hexec
      rfl
  | statusHandled =>
      cases hexec
      rfl
  | _ => exact congrArg Prod.fst (display_polling hexec rfl)

/-- What a thread is told is what the protocol says. -/
theorem pollProtocol_answer {p : Poll} {probing : Bool} (hi : w.threads[i]? = some ⟨.op o k, g⟩)
    (hexec : w.shared.exec info palette o c = some (r, s))
    (hfound : EndpointFound d w (.run i c : HostEvent a)) (hpre : (pollProtocol d probing).pre p o) :
    (pollProtocol d probing).answer p o r := by
  cases o with
  | dev e o =>
      obtain ⟨rfl, _, _⟩ := hpre
      obtain ⟨x', hdone, _⟩ := exec_dev hexec
      cases o with
      | request what =>
          cases what with
          | usbPipeEndpoint =>
              cases hdone
              exact hfound _ hi rfl
          | _ => trivial
      | _ => trivial
  | _ => trivial

/-- **Threads keep to it.** -/
theorem Polled.keeps_run (h : Hosted info w) (hpolled : Polled d w)
    (hi : w.threads[i]? = some ⟨.op o k, g⟩)
    (hexec : w.shared.exec info palette o c = some (r, s))
    (hfound : EndpointFound d w (.run i c : HostEvent a))
    (haccepted : Accepted d w (.run i c : HostEvent a)) (probing : Bool) :
    World.Keeps (pollProtocol d probing) (fun _ => False) (fun _ p => p ≠ .owing)
      (Concerned d probing) (fun s p => p.Fits (s.dev d))
      ⟨s, w.threads.set i ⟨k r, g.next o r⟩⟩ := by
  have hmay : g.May info o := (h.fine.pre hi).2
  have hcore : (s.dev d).core = .probing → (w.shared.dev d).core = .probing := by
    intro hprobing
    rcases exec_core hexec d with hsame | hother | hother
    · exact hsame.symm.trans hprobing
    · exact absurd (hprobing.symm.trans hother) nofun
    · exact absurd (hprobing.symm.trans hother) nofun
  refine (hpolled.keeps probing).set hi ?_ ?_
  · intro hconcerned
    constructor
    · cases probing with
      | true => exact ⟨Role.token_of_next hmay hconcerned.1, hcore hconcerned.2⟩
      | false => exact Role.token_of_next hmay hconcerned
    · intro p hpre hfits
      refine ⟨pollProtocol_answer hi hexec hfound hpre, ?_⟩
      cases o with
      | dev e o =>
          obtain ⟨rfl, hmay', _⟩ := hpre
          obtain ⟨x', hdone, rfl⟩ := exec_dev hexec
          rw [HostState.setDev_same]
          refine hfits.exec hmay' hdone ?_
          intro heq
          obtain rfl := heq
          exact haccepted _ hi rfl
      | _ => exact hfits.of_polling (exec_polling hexec nofun)
  · intro j u hj hji hconcerned
    have hbefore : Concerned d probing w.shared u.ghost := by
      cases probing with
      | true => exact ⟨hconcerned.1, hcore hconcerned.2⟩
      | false => exact hconcerned
    refine ⟨hbefore, fun p hfits => ?_⟩
    have hnobody : Poll.early.Fits (w.shared.dev d) → g.role.token ≠ some (d, .life) := by
      intro hearly hlife
      cases probing with
      | true => exact h.one_life hi hj hji hlife hbefore.1
      | false => exact h.handler_counts (List.mem_of_getElem? hj) hbefore hearly.2.2
    cases p with
    | early => exact hfits.of_polling (h.undisturbed hi hexec hfits (hnobody hfits))
    | dead =>
        by_cases halive : ∃ b, o = .dev d (.setAlive b)
        · obtain ⟨b, rfl⟩ := halive
          obtain ⟨x', hdone, rfl⟩ := exec_dev hexec
          cases hdone
          rw [HostState.setDev_same]
          rcases hmay with ⟨_, hrole⟩ | ⟨hdead, _⟩
          · have hknows := h.knows _ (List.mem_of_getElem? hi)
            have hprobing : Concerned d true w.shared g :=
              ⟨Role.token_life.mpr ⟨_, hrole⟩, (hknows.life d _ hrole).1⟩
            obtain ⟨p, hp, hearly⟩ := hpolled.keeps true _ (List.mem_of_getElem? hi) hprobing
            obtain ⟨_, ⟨_, rfl⟩, _⟩ := hp.1
            exact absurd hprobing.1 (hnobody hearly)
          · exact hdead
        · exact (exec_alive hexec fun b hb => halive ⟨b, hb⟩).trans hfits
    | _ => trivial

/-- **Who owes the submission** still does, or has seen to it. -/
theorem Owes.run (h : Hosted info w) (hi : w.threads[i]? = some ⟨.op o k, g⟩)
    (hexec : w.shared.exec info palette o c = some (r, s))
    (hfound : EndpointFound d w (.run i c : HostEvent a))
    (haccepted : Accepted d w (.run i c : HostEvent a))
    (halive : (w.shared.dev d).usb.isAlive = true) (hset : ∀ b, o ≠ .dev d (.setAlive b))
    (howes : Owes d w.shared ⟨.op o k, g⟩) :
    (s.dev d).statusInFlight = true ∨
      RPUSBDISP_STATUS_QUERY_RETRY_COUNT ≤ (s.dev d).urbStatusFailCount ∨
      Owes d s ⟨k r, g.next o r⟩ := by
  obtain ⟨probing, hconcerned, hpre, hrest⟩ := howes
  have hmay : g.May info o := (h.fine.pre hi).2
  have hgo := hrest r (pollProtocol_answer hi hexec hfound hpre)
  -- As long as it owes the submission it does not hand its part of the display back.
  have hback : ∀ e o', o = .dev e o' → o'.HandsBack = false := by
    intro e o' heq
    obtain rfl := heq
    obtain ⟨rfl, hmay', hpolls⟩ := hpre
    cases hback : o'.HandsBack with
    | false => rfl
    | true =>
        exfalso
        cases probing with
        | true =>
            exact absurd (hpolls rfl rfl) (by rw [o'.not_polls hback]; exact nofun)
        | false =>
            have hrole : g.role = .status e := Role.token_status.mp hconcerned
            cases o' with
            | statusHandled => exact hmay' rfl
            | probed retval =>
                rcases hmay with ⟨_, h'⟩ | ⟨_, h' | h'⟩
                · exact absurd (hrole.symm.trans h') nofun
                · exact absurd (hrole.symm.trans h') nofun
                · exact absurd (hrole.symm.trans h') nofun
            | disconnected =>
                obtain ⟨_, h'⟩ := hmay
                exact absurd (hrole.symm.trans h') nofun
            | workDone => exact absurd (hrole.symm.trans hmay) nofun
            | _ => cases hback
  have hstill : (pollProtocol d probing).track .owing o r = .owing → Owes d s ⟨k r, g.next o r⟩ := by
    intro howing
    rw [howing] at hgo
    have htoken : (g.role.next o r).token = g.role.token := g.role.next_token r hback
    have hcore : (s.dev d).core = (w.shared.dev d).core :=
      exec_display (R := fun x x' => x'.core = x.core) (fun _ => rfl) hexec d
        fun o' _ _ ho hdone => display_core hdone (hback d o' ho)
    refine ⟨probing, ?_, hgo⟩
    cases probing with
    | true => exact ⟨htoken.trans hconcerned.1, hcore.trans hconcerned.2⟩
    | false => exact htoken.trans hconcerned
  cases o with
  | dev e o =>
      obtain ⟨rfl, hmay', _⟩ := hpre
      obtain ⟨x', hdone, rfl⟩ := exec_dev hexec
      rw [HostState.setDev_same]
      cases o with
      | setAlive b => exact absurd rfl (hset b)
      | setStatusFailCount count =>
          cases hdone
          rcases hmay' with hlimit | hdead
          · exact Or.inr (Or.inl hlimit)
          · cases hdead
      | statusFailCount =>
          cases hdone
          by_cases hlimit : RPUSBDISP_STATUS_QUERY_RETRY_COUNT ≤ (w.shared.dev e).urbStatusFailCount
          · exact Or.inr (Or.inl hlimit)
          · exact Or.inr (Or.inr (hstill (if_neg hlimit)))
      | submitStatusUrb =>
          cases hdone
          rcases haccepted _ hi rfl with hsubmit | hdead
          · refine Or.inl ?_
            show (_ || decide (c.submit = .submitted)) = true
            rw [hsubmit]
            exact Bool.or_true _
          · exact absurd (halive.symm.trans hdead) nofun
      | usb o =>
          cases o with
          | isAlive =>
              cases hdone
              exact Or.inr (Or.inr (hstill (if_pos halive)))
          | _ => exact Or.inr (Or.inr (hstill rfl))
      | _ => exact Or.inr (Or.inr (hstill rfl))
  | _ => exact Or.inr (Or.inr (hstill rfl))

/-- A display that is given life has its submission owed. -/
theorem Polled.setAlive (h : Hosted info w) (hpolled : Polled d w) {b : Bool}
    {k : Unit → HostProg Unit} {r : Unit}
    (hi : w.threads[i]? = some ⟨.op (.dev d (.setAlive b)) k, g⟩)
    (hexec : w.shared.exec info palette (.dev d (.setAlive b)) c = some (r, s))
    (halive : (s.dev d).usb.isAlive = true) :
    Owes d s ⟨k r, g.next (.dev d (.setAlive b)) r⟩ := by
  have hmay : g.MayDo info d (.setAlive b) := (h.fine.pre hi).2
  have hmem := List.mem_of_getElem? hi
  cases hexec
  rw [HostState.setDev_same] at halive
  obtain rfl : b = true := halive
  rcases hmay with ⟨_, hrole⟩ | ⟨hdead, _⟩
  · have hprobing : (w.shared.dev d).core = .probing := ((h.knows _ hmem).life d _ hrole).1
    have htoken : g.role.token = some (d, .life) := Role.token_life.mpr ⟨_, hrole⟩
    obtain ⟨p, hp, _⟩ := hpolled.keeps true _ hmem ⟨htoken, hprobing⟩
    refine ⟨true, ⟨?_, ?_⟩, hp.2 () trivial⟩
    · exact (g.role.next_token (o := .dev d (.setAlive true)) () fun _ _ ho => by cases ho; rfl).trans htoken
    · rw [HostState.setDev_same]
      exact hprobing
  · cases hdead

/-- No operation takes the status URB out of flight. -/
theorem exec_flight {s s' : HostState} (h : s.exec info palette o c = some (r, s'))
    (hflight : (s.dev d).statusInFlight = true) : (s'.dev d).statusInFlight = true := by
  refine exec_display (R := fun x x' => x.statusInFlight = true → x'.statusInFlight = true)
    (fun _ hx => hx) h d ?_ hflight
  intro o' r' x' _ hdone hx
  cases o' with
  | submitStatusUrb =>
      cases hdone
      show (_ || _) = true
      rw [hx]
      exact Bool.true_or _
  | setAlive b =>
      cases hdone
      exact hx
  | setStatusFailCount count =>
      cases hdone
      exact hx
  | statusHandled =>
      cases hdone
      exact hx
  | _ => exact (congrArg (·.2.2.1) (display_polling hdone rfl)).trans hx

/-- Where the display lives the fail count does not come back from its limit. -/
theorem Polled.limit_run (h : Hosted info w) (hpolled : Polled d w)
    (hi : w.threads[i]? = some ⟨.op o k, g⟩) (hexec : w.shared.exec info palette o c = some (r, s))
    (halive : (w.shared.dev d).usb.isAlive = true)
    (hlimit : RPUSBDISP_STATUS_QUERY_RETRY_COUNT ≤ (w.shared.dev d).urbStatusFailCount) :
    RPUSBDISP_STATUS_QUERY_RETRY_COUNT ≤ (s.dev d).urbStatusFailCount := by
  have hmem := List.mem_of_getElem? hi
  refine exec_display (R := fun x x' => RPUSBDISP_STATUS_QUERY_RETRY_COUNT ≤ x.urbStatusFailCount →
    RPUSBDISP_STATUS_QUERY_RETRY_COUNT ≤ x'.urbStatusFailCount) (fun _ hx => hx) hexec d ?_ hlimit
  intro o' r' x' heq hdone hx
  obtain rfl := heq
  cases o' with
  | setStatusFailCount count =>
      have hmay : g.MayDo info d (.setStatusFailCount count) := (h.fine.pre hi).2
      have hconcerned : ∃ probing, Concerned d probing w.shared g := by
        rcases hmay with hrole | hrole
        · exact ⟨true, Role.token_life.mpr ⟨_, hrole⟩, ((h.knows _ hmem).life d _ hrole).1⟩
        · exact ⟨false, Role.token_status.mpr hrole⟩
      obtain ⟨probing, hconcerned⟩ := hconcerned
      obtain ⟨p, hp, hfits⟩ := hpolled.keeps probing _ hmem hconcerned
      obtain ⟨_, hcount | rfl, _⟩ := hp.1
      · cases hdone
        exact hcount
      · exact absurd (halive.symm.trans hfits) nofun
  | setAlive b =>
      cases hdone
      exact hx
  | submitStatusUrb =>
      cases hdone
      exact hx
  | statusHandled =>
      cases hdone
      exact hx
  | _ =>
      have hsame : x'.urbStatusFailCount = _ := congrArg (·.2.1) (display_polling hdone rfl)
      exact hsame ▸ hx

/-- **Operations.** -/
theorem Polled.run (h : Hosted info w) (hpolled : Polled d w)
    (hfound : EndpointFound d w (.run i c : HostEvent a))
    (haccepted : Accepted d w (.run i c : HostEvent a))
    (hnext : nextHost info palette w (.run i c : HostEvent a) = some w') : Polled d w' := by
  obtain ⟨o, k, g, r, s, hi, hexec, rfl⟩ := World.step_some hnext
  have hmay : g.May info o := (h.fine.pre hi).2
  have hmem := List.mem_of_getElem? hi
  obtain ⟨hlt, _⟩ := List.getElem?_eq_some_iff.mp hi
  have hself : (⟨k r, g.next o r⟩ : Thread HostOp HostOp.Res Unit Ghost) ∈ w.threads.set i ⟨k r, g.next o r⟩ :=
    List.mem_of_getElem? (List.getElem?_set_self hlt)
  refine ⟨?_, fun probing => hpolled.keeps_run h hi hexec hfound haccepted probing, ?_⟩
  · intro hunknown
    have hbefore : (w.shared.dev d).core = .unknown := by
      rcases exec_core hexec d with hsame | hother | hother
      · exact hsame.symm.trans hunknown
      · exact absurd (hunknown.symm.trans hother) nofun
      · exact absurd (hunknown.symm.trans hother) nofun
    have hfits := hpolled.fresh hbefore
    refine hfits.of_polling (h.undisturbed hi hexec hfits ?_)
    intro hlife
    obtain ⟨ph, hrole⟩ := Role.token_life.mp hlife
    rcases ((h.knows _ hmem).life d ph hrole).core with hcore | hcore
    · exact absurd (hbefore.symm.trans hcore) nofun
    · exact absurd (hbefore.symm.trans hcore) nofun
  · intro halive
    by_cases hset : ∃ b, o = .dev d (.setAlive b)
    · obtain ⟨b, rfl⟩ := hset
      exact Or.inr (Or.inr ⟨_, hself, hpolled.setAlive h hi hexec halive⟩)
    · have hne : ∀ b, o ≠ .dev d (.setAlive b) := fun b hb => hset ⟨b, hb⟩
      have hbefore : (w.shared.dev d).usb.isAlive = true := (exec_alive hexec hne).symm.trans halive
      rcases hpolled.polled hbefore with hflight | hlimit | ⟨t, ht, howes⟩
      · exact Or.inl (exec_flight hexec hflight)
      · exact Or.inr (Or.inl (hpolled.limit_run h hi hexec hbefore hlimit))
      · obtain ⟨j, hj⟩ := List.mem_iff_getElem?.mp ht
        by_cases hji : j = i
        · subst hji
          cases hi.symm.trans hj
          rcases howes.run h hi hexec hfound haccepted hbefore hne with hflight | hlimit | howes'
          · exact Or.inl hflight
          · exact Or.inr (Or.inl hlimit)
          · exact Or.inr (Or.inr ⟨_, hself, howes'⟩)
        · have hother : t ∈ w.threads.set i ⟨k r, g.next o r⟩ :=
            List.mem_of_getElem? ((List.getElem?_set_ne (Ne.symm hji)).trans hj)
          refine Or.inr (Or.inr ⟨t, hother, ?_⟩)
          obtain ⟨probing, hconcerned, hwp⟩ := howes
          refine ⟨probing, ?_, hwp⟩
          cases probing with
          | true =>
              have hlife : g.role.token ≠ some (d, .life) := h.one_life hj hi (Ne.symm hji) hconcerned.1
              exact ⟨hconcerned.1, (h.core_same hi hexec hlife).trans hconcerned.2⟩
          | false => exact hconcerned

/-- A new thread, where polling is not touched. -/
theorem Polled.spawn (hpolled : Polled d w) {e : Nat} {x : DisplayState} {p : HostProg Unit} {g : Ghost}
    (hpolling : d = e → x.polling = (w.shared.dev e).polling)
    (hcore : d = e → x.core = (w.shared.dev e).core ∨ (x.core ≠ .unknown ∧ x.core ≠ .probing ∧
      (w.shared.dev e).core ≠ .probing))
    (hother : ∀ probing, ¬ Concerned d probing (w.shared.setDev e x) g) :
    Polled d (w.spawn (w.shared.setDev e x) p g) := by
  have hsame : ((w.shared.setDev e x).dev d).polling = (w.shared.dev d).polling := by
    by_cases he : d = e
    · subst he
      rw [HostState.setDev_same]
      exact hpolling rfl
    · rw [w.shared.setDev_other x he]
  have hcores : ((w.shared.setDev e x).dev d).core = (w.shared.dev d).core ∨
      (((w.shared.setDev e x).dev d).core ≠ .unknown ∧ ((w.shared.setDev e x).dev d).core ≠ .probing ∧
        (w.shared.dev d).core ≠ .probing) := by
    by_cases he : d = e
    · subst he
      rw [HostState.setDev_same]
      exact hcore rfl
    · exact Or.inl (by rw [w.shared.setDev_other x he])
  have hconcerned : ∀ probing g', Concerned d probing (w.shared.setDev e x) g' ↔
      Concerned d probing w.shared g' := by
    intro probing g'
    cases probing with
    | false => exact Iff.rfl
    | true =>
        rcases hcores with heq | ⟨_, hnot, hnot'⟩
        · show _ ∧ _ ↔ _ ∧ _
          rw [heq]
        · exact ⟨fun h' => absurd h'.2 hnot, fun h' => absurd h'.2 hnot'⟩
  refine ⟨?_, ?_, ?_⟩
  · intro hunknown
    rcases hcores with heq | ⟨hnot, _⟩
    · exact (hpolled.fresh (heq.symm.trans hunknown)).of_polling hsame
    · exact absurd hunknown hnot
  · intro probing
    apply (hpolled.keeps probing).spawn
    · exact fun habout => absurd habout (hother probing)
    · exact fun u _ habout => ⟨(hconcerned probing _).mp habout, fun _ hfits => hfits.of_polling hsame⟩
  · intro halive
    unfold DisplayState.polling at hsame
    obtain ⟨halives, hcounts, hflights, _⟩ : _ ∧ _ ∧ _ ∧ _ := by
      simpa only [Prod.mk.injEq] using hsame
    rcases hpolled.polled (halives.symm.trans halive) with hflight | hlimit | ⟨t, ht, probing, habout, hwp⟩
    · exact Or.inl (hflights.trans hflight)
    · exact Or.inr (Or.inl (hcounts ▸ hlimit))
    · exact Or.inr (Or.inr ⟨t, List.mem_append_left _ ht, probing, (hconcerned probing _).mpr habout, hwp⟩)

/-- The display itself is plugged in. -/
theorem Polled.probe (h : Hosted info w) (hpolled : Polled d w)
    (hunknown : (w.shared.dev d).core = .unknown) :
    Polled d (w.spawn (w.shared.setDev d { w.shared.dev d with core := .probing }) (usbProbe d)
      { role := .life d .allocating }) := by
  have hearly := hpolled.fresh hunknown
  refine ⟨?_, ?_, ?_⟩
  · intro hcore
    have hprobing : ((w.shared.setDev d { w.shared.dev d with core := .probing }).dev d).core = .probing := by
      rw [HostState.setDev_same]
    exact absurd (hcore.symm.trans hprobing) nofun
  · intro probing
    apply (hpolled.keeps probing).spawn
    · intro habout
      cases probing with
      | true =>
          refine ⟨.early, probe_polls, ?_⟩
          rw [HostState.setDev_same]
          exact hearly
      | false => cases habout
    · intro u hu habout
      cases probing with
      | true =>
          obtain ⟨ph, hrole⟩ := Role.token_life.mp habout.1
          rcases ((h.knows u hu).life d ph hrole).core with hcore | hcore
          · exact absurd (hunknown.symm.trans hcore) nofun
          · exact absurd (hunknown.symm.trans hcore) nofun
      | false =>
          refine ⟨habout, fun p hfits => ?_⟩
          rw [HostState.setDev_same]
          exact hfits.of_polling rfl
  · intro halive
    have hlives : (w.shared.dev d).usb.isAlive = true := by
      have hsame : ((w.shared.setDev d { w.shared.dev d with core := .probing }).dev d).usb.isAlive =
          (w.shared.dev d).usb.isAlive := by
        rw [HostState.setDev_same]
      exact hsame.symm.trans halive
    exact absurd (hearly.1.symm.trans hlives) nofun

/-- The status URB of the display itself completes. -/
theorem Polled.statusComplete (hpolled : Polled d w) {status : Int} {packet : StatusNormalPacket}
    (hflight : (w.shared.dev d).statusInFlight = true) :
    Polled d (w.spawn (w.shared.setDev d { w.shared.dev d with
        statusInFlight := false, statusHandlers := (w.shared.dev d).statusHandlers + 1 })
      (statusThread d status packet) { role := .status d }) := by
  have hnotEarly : ¬ Poll.early.Fits (w.shared.dev d) := by
    intro h
    obtain ⟨_, hidle, _⟩ := h
    exact absurd (hflight.symm.trans hidle) nofun
  refine ⟨?_, ?_, ?_⟩
  · intro hcore
    have hunknown : (w.shared.dev d).core = .unknown := by
      have hsame : ((w.shared.setDev d { w.shared.dev d with
          statusInFlight := false, statusHandlers := (w.shared.dev d).statusHandlers + 1 }).dev d).core =
          (w.shared.dev d).core := by
        rw [HostState.setDev_same]
      exact hsame.symm.trans hcore
    exact absurd (hpolled.fresh hunknown) hnotEarly
  · intro probing
    apply (hpolled.keeps probing).spawn
    · intro habout
      cases probing with
      | true => cases habout.1
      | false => exact ⟨.owing, status_polls, trivial⟩
    · intro u _ habout
      have hbefore : Concerned d probing w.shared u.ghost := by
        cases probing with
        | true =>
            obtain ⟨htoken, hcore⟩ := habout
            rw [HostState.setDev_same] at hcore
            exact ⟨htoken, hcore⟩
        | false => exact habout
      refine ⟨hbefore, fun p hfits => ?_⟩
      rw [HostState.setDev_same]
      cases p with
      | early => exact absurd hfits hnotEarly
      | _ => exact hfits
  · intro _
    have hnew : (⟨statusThread d status packet, { role := .status d }⟩ :
        Thread HostOp HostOp.Res Unit Ghost) ∈ w.threads ++ [⟨statusThread d status packet, { role := .status d }⟩] :=
      List.mem_append_right _ (List.mem_singleton_self _)
    exact Or.inr (Or.inr ⟨_, hnew, false, rfl, status_polls⟩)

/-- **Step.** -/
theorem Polled.next (h : Hosted info w) (hpolled : Polled d w) {e : HostEvent a}
    (hfound : EndpointFound d w e) (haccepted : Accepted d w e)
    (hnext : nextHost info palette w e = some w') : Polled d w' := by
  rcases nextHost_some hnext with ⟨i, c, rfl⟩ | ⟨e, x, p, g, hstarts, rfl⟩
  · exact hpolled.run h hfound haccepted hnext
  · cases hstarts with
    | probe hunknown =>
        by_cases he : d = e
        · subst he
          exact hpolled.probe h hunknown
        · refine hpolled.spawn (fun _ => rfl) (fun h' => absurd h' he) fun probing habout => ?_
          cases probing with
          | true =>
              cases habout.1
              exact he rfl
          | false => cases habout
    | disconnect hattached =>
        refine hpolled.spawn (fun _ => rfl) (fun _ => Or.inr ⟨by simp, by simp, ?_⟩) fun probing habout => ?_
        · simp [hattached]
        · cases probing with
          | true =>
              obtain ⟨htoken, hcore⟩ := habout
              cases htoken
              rw [HostState.setDev_same] at hcore
              cases hcore
          | false => cases habout
    | statusComplete hflight =>
        by_cases he : d = e
        · subst he
          exact hpolled.statusComplete hflight
        · refine hpolled.spawn (fun h' => absurd h' he) (fun h' => absurd h' he) fun probing habout => ?_
          cases probing with
          | true => cases habout.1
          | false =>
              cases habout
              exact he rfl
    | _ =>
        refine hpolled.spawn (fun _ => rfl) (fun _ => Or.inl rfl) fun probing habout => ?_
        cases probing with
        | true => cases habout.1
        | false => cases habout

/-- **Run.** -/
theorem Polled.of_run {fb : FbState} (hunbound : Unbound fb)
    (run : Runs.Run (nextHost info palette)
      (fun w (e : HostEvent a) => EndpointFound d w e ∧ Accepted d w e) (loadedHost fb) w) :
    Hosted info w ∧ Polled d w := by
  have hstart : Polled d (loadedHost fb) :=
    ⟨fun _ => ⟨rfl, rfl, rfl⟩, fun _ _ ht => absurd ht List.not_mem_nil, nofun⟩
  refine run.invariant (I := fun w => Hosted info w ∧ Polled d w)
    ⟨loadedHost_hosted hunbound, hstart⟩ ?_
  intro w w' e hparts hparts' hnext
  obtain ⟨h, hpolled⟩ := hparts
  obtain ⟨hfound, haccepted⟩ := hparts'
  exact ⟨h.next hnext, hpolled.next h hfound haccepted hnext⟩

end Worlds

/-! ## Polling -/

/-- No thread is in `_status_start_querying` or a completion handler of the status URB
of display `d`. -/
structure OutsidePolling (d : Nat) (w : HostWorld) : Prop where
  handlers : (w.shared.dev d).statusHandlers = 0
  querying : ∀ t ∈ w.threads, ∀ ph o, t.ghost.role = .life d ph → t.asks = some (.dev d o) → o.Polls = false

/-- **Status polling stays alive**, where no submission is refused: outside
`_status_start_querying` and the completion handler, the status URB of a display that
lives and whose endpoint is found is in flight, unless the fail count is at its
limit. -/
theorem polling_stays_alive {info : Nat → Dev} {palette : UInt32 → Pixel} {a : Arch} {fb : FbState}
    {w : HostWorld} {d : Nat} (hunbound : Unbound fb)
    (run : Runs.Run (nextHost info palette)
      (fun w (e : HostEvent a) => EndpointFound d w e ∧ Accepted d w e) (loadedHost fb) w)
    (halive : (w.shared.dev d).usb.isAlive = true) (houtside : OutsidePolling d w) :
    (w.shared.dev d).statusInFlight = true ∨
      RPUSBDISP_STATUS_QUERY_RETRY_COUNT ≤ (w.shared.dev d).urbStatusFailCount := by
  obtain ⟨h, hpolled⟩ := Polled.of_run hunbound run
  rcases hpolled.polled halive with hflight | hlimit | ⟨t, ht, probing, habout, hwp⟩
  · exact Or.inl hflight
  · exact Or.inr hlimit
  · exfalso
    cases probing with
    | false => exact h.handler_counts ht habout houtside.handlers
    | true =>
        obtain ⟨ph, hrole⟩ := Role.token_life.mp habout.1
        obtain ⟨p, g⟩ := t
        cases p with
        | ret u => exact hwp rfl
        | fault e => exact hwp
        | op o k =>
            cases o with
            | dev e o =>
                obtain ⟨⟨rfl, _, hpolls⟩, _⟩ := hwp
                have hno := houtside.querying _ ht ph o hrole rfl
                exact absurd ((hpolls rfl rfl).symm.trans hno) nofun
            | _ => exact hwp.1 rfl rfl

/-- Every request is granted, and every submission if `accepting`. -/
def granting (accepting : Bool) (_ : HostWorld) : HostEvent amd64 → Bool
  | .run _ choice => choice.granted && (!accepting || decide (choice.submit = .submitted))
  | _ => true

theorem endpointFound_of_granting {accepting : Bool} (w : HostWorld) (e : HostEvent amd64)
    (h : granting accepting w e = true) : EndpointFound 0 w e := by
  cases e with
  | run i choice => exact fun _ _ _ => (Bool.and_eq_true_iff.mp h).1
  | _ => trivial

theorem accepted_of_granting (w : HostWorld) (e : HostEvent amd64) (h : granting true w e = true) :
    Accepted 0 w e := by
  cases e with
  | run i choice => exact fun _ _ _ => Or.inl (of_decide_eq_true (Bool.and_eq_true_iff.mp h).2)
  | _ => trivial

/-- Display 0 lives, nobody is at work, and what is known of its status URB. -/
def calmlyPolled (inFlight : Bool) (failCount : Nat) (w : HostWorld) : Bool :=
  (w.shared.dev 0).usb.isAlive && (w.shared.dev 0).statusHandlers = 0 &&
    (w.shared.dev 0).statusInFlight = inFlight && (w.shared.dev 0).urbStatusFailCount = failCount &&
    w.threads.all fun t => t.asks.isNone

theorem calmlyPolled_spec {inFlight : Bool} {failCount : Nat} {w : HostWorld}
    (h : calmlyPolled inFlight failCount w = true) :
    (w.shared.dev 0).usb.isAlive = true ∧ OutsidePolling 0 w ∧
      (w.shared.dev 0).statusInFlight = inFlight ∧ (w.shared.dev 0).urbStatusFailCount = failCount := by
  unfold calmlyPolled at h
  simp only [Bool.and_eq_true, decide_eq_true_eq, List.all_eq_true] at h
  obtain ⟨⟨⟨⟨halive, hhandlers⟩, hflight⟩, hcount⟩, hcalm⟩ := h
  refine ⟨halive, ⟨hhandlers, ?_⟩, hflight, hcount⟩
  intro t ht ph o _ hasks
  have hnone := hcalm t ht
  rw [hasks] at hnone
  cases hnone

/-- The status URB completes, and is in flight again. -/
theorem polling_stays_alive_again : ∃ w,
    Runs.Run (nextHost (fun _ => .attached 64 0x0104 .little) (fun c => c.toUInt16))
      (fun w (e : HostEvent amd64) => EndpointFound 0 w e ∧ Accepted 0 w e) (loadedHost neverBound) w ∧
    (w.shared.dev 0).usb.isAlive = true ∧ OutsidePolling 0 w ∧
    ((w.shared.dev 0).statusInFlight = true ∨
      RPUSBDISP_STATUS_QUERY_RETRY_COUNT ≤ (w.shared.dev 0).urbStatusFailCount) := by
  have hends : (Runs.tested (nextHost (fun _ => .attached 64 0x0104 .little) (fun c => c.toUInt16))
      (granting true) (loadedHost neverBound)
      ([.probe 0] ++ List.replicate 22 (.run 0 plenty) ++
        [.statusComplete 0 0 ⟨0, 0, 1, 160, 120⟩] ++ List.replicate 8 (.run 1 plenty))).any
      (calmlyPolled true 0) = true := by decide +kernel
  obtain ⟨w, htested, hcalm⟩ := (Option.any_eq_true _ _).mp hends
  obtain ⟨halive, houtside, _⟩ := calmlyPolled_spec hcalm
  have hgranting : ∀ w e, granting true w e = true → EndpointFound 0 w e ∧ Accepted 0 w e :=
    fun w e he => ⟨endpointFound_of_granting w e he, accepted_of_granting w e he⟩
  have run := Runs.Run.start.of_tested hgranting htested
  exact ⟨w, run, halive, houtside, polling_stays_alive neverBound_unbound run halive houtside⟩

/-- **Polling is given up.**  The first submission of the status URB is refused; the
fail count is 1, and nothing submits the URB again. -/
theorem polling_given_up : ∃ w,
    Runs.Run (nextHost (fun _ => .attached 64 0x0104 .little) (fun c => c.toUInt16))
      (fun w (e : HostEvent amd64) => EndpointFound 0 w e) (loadedHost neverBound) w ∧
    (w.shared.dev 0).usb.isAlive = true ∧ OutsidePolling 0 w ∧
    (w.shared.dev 0).urbStatusFailCount = 1 ∧
    ¬ ((w.shared.dev 0).statusInFlight = true ∨
      RPUSBDISP_STATUS_QUERY_RETRY_COUNT ≤ (w.shared.dev 0).urbStatusFailCount) := by
  have hends : (Runs.tested (nextHost (fun _ => .attached 64 0x0104 .little) (fun c => c.toUInt16))
      (granting false) (loadedHost neverBound)
      ([.probe 0] ++ List.replicate 9 (.run 0 plenty) ++
        [.run 0 { plenty with submit := .refused (-28) }] ++ List.replicate 14 (.run 0 plenty))).any
      (calmlyPolled false 1) = true := by decide +kernel
  obtain ⟨w, htested, hcalm⟩ := (Option.any_eq_true _ _).mp hends
  obtain ⟨halive, houtside, hflight, hcount⟩ := calmlyPolled_spec hcalm
  refine ⟨w, Runs.Run.start.of_tested endpointFound_of_granting htested, halive, houtside, hcount, ?_⟩
  intro h
  rcases h with h | h
  · exact absurd (hflight.symm.trans h) nofun
  · rw [hcount] at h
    exact absurd h (by decide)

end RpUsbDisp.Hotplug
