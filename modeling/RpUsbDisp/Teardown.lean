import RpUsbDisp.Binding

/-!
# A display is freed

`rpusbdisp_disconnect` kills the status URB, cancels the completion work, waits for
the tickets in the release loop, and frees the display.  The display URBs are not
killed: they complete between any two of these steps, and the handler of the one that
fills the pool schedules the completion work once more.

When the display is freed every ticket has been released, so no URB is left.  The
work is left alone only in runs that are `Timely` (`idle_at_kfree`); where the last
URB completes between the cancelling and the release loop, the work is queued on a
display that is freed (`freed_with_work_queued`).
-/

namespace RpUsbDisp.Hotplug

open Programs

/-! ## What must be over -/

/-- Nothing is left to run on display `d`: its completion work is neither queued nor
running, none of its URBs is in flight, and no completion handler has an operation of
the model left.  (The `wake_up` with which `_return_disp_tickets` ends is none.) -/
structure Idle (w : HostWorld) (d : Nat) : Prop where
  unqueued : (w.shared.dev d).workQueued = false
  notRunning : (w.shared.dev d).workRunning = 0
  landed : (w.shared.dev d).usb.inFlight = []
  statusLanded : (w.shared.dev d).statusInFlight = false
  statusHandled : (w.shared.dev d).statusHandlers = 0
  handled : ∀ t ∈ w.threads, ∀ announcing, t.ghost.role = .urb d announcing → t.asks = none

/-- The completion work stays cancelled: `cancel_delayed_work_sync` is not called
while a thread is about to schedule the work, and afterwards no URB that was
transferred well brings back the ticket that fills the pool. -/
def Timely {a : Arch} (w : HostWorld) : HostEvent a → Prop
  | .run i _ => ∀ t, w.threads[i]? = some t → ∀ d,
      (t.asks = some (.dev d .cancelDelayedWorkSync) →
        ∀ u ∈ w.threads, u.asks ≠ some (.dev d (.usb .scheduleCompletionWork))) ∧
      ∀ ticket, t.asks = some (.dev d (.usb (.returnTicket ticket))) →
        (w.shared.dev d).cancelled = true → ticket.transferUrb.status = 0 →
        (w.shared.dev d).usb.pool.availiableCount + 1 ≠ (w.shared.dev d).usb.pool.dispUrbCount
  | _ => True

/-- The completion work of display `d` is over. -/
structure Cancelled (w : HostWorld) (d : Nat) : Prop where
  unqueued : (w.shared.dev d).workQueued = false
  notRunning : (w.shared.dev d).workRunning = 0
  unscheduled : ∀ t ∈ w.threads, t.asks ≠ some (.dev d (.usb .scheduleCompletionWork))

section Worlds

variable {info : Nat → Dev} {palette : UInt32 → Pixel} {w w' : HostWorld} {a : Arch} {d : Nat}

/-! ## Who schedules the work -/

/-- Once the work is cancelled only the handler of a display URB schedules it. -/
theorem Hosted.scheduler (h : Hosted info w) (hcancelled : (w.shared.dev d).cancelled = true)
    {t : Thread HostOp HostOp.Res Unit Ghost} (ht : t ∈ w.threads)
    (hasks : t.asks = some (.dev d (.usb .scheduleCompletionWork))) : t.ghost.role = .urb d true := by
  have hkilled : (w.shared.dev d).killed = true := by
    by_contra hunkilled
    have hnot := ((h.regular d).unkilled (Bool.eq_false_iff.mpr hunkilled)).1
    exact absurd (hcancelled.symm.trans hnot) nofun
  have hmay : t.ghost.MaySchedule d := (h.fine.asks ht hasks).2
  rcases hmay with hknown | hrole | hrole | hrole | hrole
  · exact absurd hknown (h.not_known (Or.inl hkilled) ht)
  · exact hrole
  · have hone : t.ghost.count (.dev d .status) = 1 := by
      rw [Ghost.count_token _ d (k := .status) nofun, hrole]
      exact if_pos rfl
    have hle := @count_le_total _ _ _ _ (fun g => Ghost.count g (.dev d .status)) _ _ ht
    have hcovers : _ ≤ (w.shared.dev d).statusHandlers := h.covers (.dev d .status)
    have hnone := ((h.regular d).killed hkilled).2.2
    omega
  · obtain ⟨_, hunkilled, _⟩ := (h.knows t ht).life d _ hrole
    exact absurd (hkilled.symm.trans hunkilled) nofun
  · obtain ⟨_, hunkilled⟩ := (h.knows t ht).life d _ hrole
    exact absurd (hkilled.symm.trans hunkilled) nofun

/-- A handler has to schedule the work once it has brought a ticket back. -/
theorem Role.next_announcing {role : Role} {o : HostOp} {r : o.Res} (h : role.next o r = .urb d true) :
    (role = .urb d true ∧ o ≠ .dev d (.usb .scheduleCompletionWork)) ∨
      ∃ e ticket announcing, o = .dev e (.usb (.returnTicket ticket)) ∧ role = .urb d announcing ∧
        HEq r true ∧ ticket.transferUrb.status = 0 := by
  cases o with
  | dev e o =>
      cases o with
      | usb o =>
          cases o with
          | returnTicket ticket =>
              cases role with
              | urb d' announcing =>
                  obtain ⟨rfl, hlast⟩ := Role.urb.inj h
                  obtain ⟨hall, hstatus⟩ := Bool.and_eq_true_iff.mp hlast
                  exact Or.inr ⟨e, ticket, announcing, rfl, rfl, heq_of_eq hall, of_decide_eq_true hstatus⟩
              | _ => cases h
          | scheduleCompletionWork => cases role <;> cases h
          | _ => cases role <;> first | (cases h; exact Or.inl ⟨rfl, nofun⟩) | cases h
      | _ => cases role <;> first | (cases h; exact Or.inl ⟨rfl, nofun⟩) | cases h
  | _ => cases role <;> first | (cases h; exact Or.inl ⟨rfl, nofun⟩) | cases h

/-- **The ticket that fills the pool**, of a URB that was transferred well, is what
makes a handler schedule the work. -/
theorem Hosted.announcing (h : Hosted info w) {i : Nat} {o : HostOp} {k : o.Res → HostProg Unit}
    {g : Ghost} {r : o.Res} {s : HostState} {c : HostChoice}
    (hi : w.threads[i]? = some ⟨.op o k, g⟩) (hexec : w.shared.exec info palette o c = some (r, s))
    (hrole : g.role.next o r = .urb d true) :
    ∃ ticket, o = .dev d (.usb (.returnTicket ticket)) ∧ ticket.transferUrb.status = 0 ∧
      (w.shared.dev d).usb.pool.availiableCount + 1 = (w.shared.dev d).usb.pool.dispUrbCount := by
  obtain ⟨hbusy, hmay⟩ := h.fine.pre hi
  rcases Role.next_announcing hrole with ⟨hurb, hne⟩ | ⟨e, ticket, announcing, rfl, hurb, hall, hstatus⟩
  · exact absurd (hbusy d true hurb) hne
  · have hserving : ∃ call, g.serving = some (d, call) := by
      cases announcing with
      | true => exact absurd (hbusy d true hurb) nofun
      | false =>
          obtain ⟨call, hcall, _⟩ := hbusy d false hurb
          exact ⟨call, hcall⟩
    obtain ⟨call, hcall⟩ := hserving
    obtain ⟨call', hcall', _⟩ := hmay
    obtain ⟨rfl, _⟩ := Prod.mk.inj (Option.some.inj (hcall.symm.trans hcall'))
    obtain ⟨x', hdone, _⟩ := exec_dev hexec
    cases hdone
    exact ⟨ticket, rfl, hstatus, of_decide_eq_true (eq_of_heq hall)⟩

/-! ## The work stays cancelled -/

/-- What an operation does to the work of a display. -/
theorem exec_work {s s' : HostState} {o : HostOp} {r : o.Res} {c : HostChoice}
    (h : s.exec info palette o c = some (r, s')) (d : Nat) :
    (o = .dev d .cancelDelayedWorkSync ∧ (s'.dev d).workQueued = false ∧ (s'.dev d).workRunning = 0) ∨
      ((s'.dev d).cancelled = (s.dev d).cancelled ∧
        (s'.dev d).workRunning ≤ (s.dev d).workRunning ∧
        (o ≠ .dev d (.usb .scheduleCompletionWork) → (s'.dev d).workQueued = (s.dev d).workQueued)) := by
  refine exec_display (R := fun x x' =>
    (o = .dev d .cancelDelayedWorkSync ∧ x'.workQueued = false ∧ x'.workRunning = 0) ∨
      (x'.cancelled = x.cancelled ∧ x'.workRunning ≤ x.workRunning ∧
        (o ≠ .dev d (.usb .scheduleCompletionWork) → x'.workQueued = x.workQueued)))
    (fun _ => Or.inr ⟨rfl, le_rfl, fun _ => rfl⟩) h d ?_
  intro o' r' x' ho hexec
  subst ho
  cases o' with
  | usb o =>
      obtain ⟨⟨_, u⟩, _, heq⟩ := Option.map_eq_some_iff.mp hexec
      cases heq
      cases o with
      | scheduleCompletionWork => exact Or.inr ⟨rfl, le_rfl, fun hne => absurd rfl hne⟩
      | _ => exact Or.inr ⟨rfl, le_rfl, fun _ => rfl⟩
  | cancelDelayedWorkSync =>
      simp only [DisplayState.exec] at hexec
      split at hexec
      · cases hexec
      · rename_i hidle
        cases hexec
        exact Or.inl ⟨rfl, rfl, not_not.mp hidle⟩
  | killStatusUrb =>
      simp only [DisplayState.exec] at hexec
      split at hexec
      · cases hexec
      · cases hexec
        exact Or.inr ⟨rfl, le_rfl, fun _ => rfl⟩
  | takeTicket =>
      simp only [DisplayState.exec] at hexec
      split at hexec
      · cases hexec
        exact Or.inr ⟨rfl, le_rfl, fun _ => rfl⟩
      · cases hexec
  | workDone =>
      cases hexec
      exact Or.inr ⟨rfl, Nat.sub_le _ _, fun _ => rfl⟩
  | _ =>
      cases hexec
      exact Or.inr ⟨rfl, le_rfl, fun _ => rfl⟩

/-- **Operations** leave it cancelled. -/
theorem Hosted.cancelled_run (h : Hosted info w)
    (hover : (w.shared.dev d).cancelled = true → Cancelled w d) {i : Nat} {c : HostChoice}
    (htimely : Timely w (.run i c : HostEvent a))
    (hnext : nextHost info palette w (.run i c : HostEvent a) = some w')
    (hcancelled : (w'.shared.dev d).cancelled = true) : Cancelled w' d := by
  have hosted : Hosted info w' := h.next hnext
  obtain ⟨o, k, g, r, s, hi, hexec, rfl⟩ := World.step_some hnext
  obtain ⟨hcancel, hlast⟩ := htimely _ hi d
  obtain ⟨hlt, _⟩ := List.getElem?_eq_some_iff.mp hi
  have hself : ¬ (w.shared.dev d).cancelled = true → o = .dev d .cancelDelayedWorkSync := by
    intro hnot
    rcases exec_work hexec d with ⟨rfl, _⟩ | ⟨hsame, _⟩
    · rfl
    · exact absurd (hsame.symm.trans hcancelled) hnot
  have hothers : ∀ u ∈ w.threads, u.asks ≠ some (.dev d (.usb .scheduleCompletionWork)) := by
    by_cases hbefore : (w.shared.dev d).cancelled = true
    · exact (hover hbefore).unscheduled
    · obtain rfl := hself hbefore
      exact hcancel rfl
  have hunscheduled : ∀ u ∈ w.threads.set i ⟨k r, g.next o r⟩,
      u.asks ≠ some (.dev d (.usb .scheduleCompletionWork)) := by
    intro u hu hasks
    rcases List.mem_or_eq_of_mem_set hu with hu' | rfl
    · exact hothers u hu' hasks
    · have hrole : g.role.next o r = .urb d true := hosted.scheduler hcancelled hu hasks
      obtain ⟨ticket, rfl, hstatus, hfull⟩ := h.announcing hi hexec hrole
      have hbefore : (w.shared.dev d).cancelled = true := by
        by_contra hnot
        exact absurd (hself hnot) nofun
      exact hlast ticket rfl hbefore hstatus hfull
  rcases exec_work hexec d with ⟨_, hqueued, hrunning⟩ | ⟨hsame, hrunning, hqueued⟩
  · exact ⟨hqueued, hrunning, hunscheduled⟩
  · obtain ⟨hunqueued, hnotRunning, _⟩ := hover (hsame.symm.trans hcancelled)
    have hne : o ≠ .dev d (.usb .scheduleCompletionWork) := by
      intro heq
      obtain rfl := heq
      exact hothers _ (List.mem_of_getElem? hi) rfl
    exact ⟨(hqueued hne).trans hunqueued, Nat.le_zero.mp (hnotRunning ▸ hrunning), hunscheduled⟩

/-- A new thread leaves it cancelled. -/
theorem Hosted.cancelled_spawn {e : Nat} {x : DisplayState} {p : HostProg Unit} {g : Ghost}
    (hosted : Hosted info (w.spawn (w.shared.setDev e x) p g))
    (hover : (w.shared.dev d).cancelled = true → Cancelled w d)
    (hsame : x.cancelled = (w.shared.dev e).cancelled) (hrole : g.role ≠ .urb d true)
    (hwork : d = e → Cancelled w e → x.workQueued = false ∧ x.workRunning = 0)
    (hcancelled : ((w.shared.setDev e x).dev d).cancelled = true) :
    Cancelled (w.spawn (w.shared.setDev e x) p g) d := by
  have hstate : Cancelled w d ∧ ((w.shared.setDev e x).dev d).workQueued = false ∧
      ((w.shared.setDev e x).dev d).workRunning = 0 := by
    by_cases he : d = e
    · subst he
      rw [HostState.setDev_same] at hcancelled ⊢
      have hover' := hover (hsame.symm.trans hcancelled)
      exact ⟨hover', hwork rfl hover'⟩
    · rw [w.shared.setDev_other x he] at hcancelled ⊢
      have hover' := hover hcancelled
      exact ⟨hover', hover'.unqueued, hover'.notRunning⟩
  obtain ⟨hover', hunqueued, hnotRunning⟩ := hstate
  refine ⟨hunqueued, hnotRunning, fun u hu hasks => ?_⟩
  rcases List.mem_append.mp hu with hu' | hu'
  · exact hover'.unscheduled u hu' hasks
  · have hannouncing := hosted.scheduler hcancelled hu hasks
    rw [List.mem_singleton.mp hu'] at hannouncing
    exact hrole hannouncing

/-- **Step.** -/
theorem Hosted.cancelled_next (h : Hosted info w)
    (hover : ∀ d, (w.shared.dev d).cancelled = true → Cancelled w d) {e : HostEvent a}
    (htimely : Timely w e) (hnext : nextHost info palette w e = some w') (d : Nat)
    (hcancelled : (w'.shared.dev d).cancelled = true) : Cancelled w' d := by
  have hosted : Hosted info w' := h.next hnext
  rcases nextHost_some hnext with ⟨i, c, rfl⟩ | ⟨e, x, p, g, hstarts, rfl⟩
  · exact h.cancelled_run (hover d) htimely hnext hcancelled
  · cases hstarts with
    | startWork hqueued =>
        refine hosted.cancelled_spawn (hover d) rfl (by simp) ?_ hcancelled
        intro _ hover'
        cases hqueued.symm.trans hover'.unqueued
    | _ =>
        exact hosted.cancelled_spawn (hover d) rfl (by simp)
          (fun _ hover' => ⟨hover'.unqueued, hover'.notRunning⟩) hcancelled

/-- **Run.** -/
theorem Hosted.cancelled_of_run {fb : FbState} (hunbound : Unbound fb)
    (run : Runs.Run (nextHost info palette) (fun w (e : HostEvent a) => Timely w e) (loadedHost fb) w) :
    Hosted info w ∧ ∀ d, (w.shared.dev d).cancelled = true → Cancelled w d := by
  refine run.invariant (I := fun w => Hosted info w ∧
    ∀ d, (w.shared.dev d).cancelled = true → Cancelled w d) ⟨loadedHost_hosted hunbound, nofun⟩ ?_
  intro w w' e hparts htimely hnext
  obtain ⟨h, hover⟩ := hparts
  exact ⟨h.next hnext, h.cancelled_next hover htimely hnext⟩

/-! ## The display is freed -/

/-- Who frees a display that is taken away has released every ticket. -/
theorem Hosted.released (h : Hosted info w) {t : Thread HostOp HostOp.Res Unit Ghost}
    (ht : t ∈ w.threads) (hkfree : t.asks = some (.dev d .kfree))
    (hleaving : (w.shared.dev d).core = .leaving) :
    (w.shared.dev d).killed = true ∧ (w.shared.dev d).cancelled = true ∧
      (w.shared.dev d).taken = (w.shared.dev d).usb.pool.dispUrbCount := by
  have hmay : t.ghost.MayDo info d .kfree := (h.fine.asks ht hkfree).2
  rcases hmay with hrole | ⟨taken, hrole⟩
  · have hprobing := ((h.knows t ht).life d _ hrole).1
    exact absurd (hleaving.symm.trans hprobing) nofun
  · obtain ⟨_, hkilled, hcancelled, hcount, htaken⟩ := (h.knows t ht).life d _ hrole
    exact ⟨hkilled, hcancelled, htaken.trans hcount.symm⟩

/-- Where every ticket has been released no URB is left. -/
theorem Hosted.landed (h : Hosted info w)
    (hreleased : (w.shared.dev d).taken = (w.shared.dev d).usb.pool.dispUrbCount) :
    (w.shared.dev d).usb.inFlight = [] ∧ ∀ t ∈ w.threads, t.ghost.serving.tickets d = 0 := by
  have hcovers := DisplayState.covers_ticket.mp (h.covers (.dev d .ticket))
  constructor
  · apply List.eq_nil_of_length_eq_zero
    omega
  · intro t ht
    have hle := @count_le_total _ _ _ _ (fun g => Ghost.count g (.dev d .ticket)) _ _ ht
    rw [Ghost.count_ticket] at hle
    omega

end Worlds

/-- **Nothing runs on a display that is freed**, in runs that are `Timely`: when
`rpusbdisp_disconnect` frees it, its completion work is neither queued nor running,
none of its URBs is in flight, and no completion handler has anything left to do. -/
theorem idle_at_kfree {info : Nat → Dev} {palette : UInt32 → Pixel} {a : Arch} {fb : FbState}
    {w : HostWorld} (hunbound : Unbound fb)
    (run : Runs.Run (nextHost info palette) (fun w (e : HostEvent a) => Timely w e) (loadedHost fb) w)
    {d : Nat} (hleaving : (w.shared.dev d).core = .leaving)
    {t : Thread HostOp HostOp.Res Unit Ghost} (ht : t ∈ w.threads)
    (hkfree : t.asks = some (.dev d .kfree)) : Idle w d := by
  obtain ⟨h, hover⟩ := Hosted.cancelled_of_run hunbound run
  obtain ⟨hkilled, hcancelled, hreleased⟩ := h.released ht hkfree hleaving
  obtain ⟨hunqueued, hnotRunning, hunscheduled⟩ := hover d hcancelled
  obtain ⟨_, hstatus, hhandlers⟩ := (h.regular d).killed hkilled
  obtain ⟨hlanded, htickets⟩ := h.landed hreleased
  refine ⟨hunqueued, hnotRunning, hlanded, hstatus, hhandlers, ?_⟩
  intro u hu announcing hrole
  cases hasks : u.asks with
  | none => rfl
  | some o =>
      have hbusy : u.ghost.Busy o := (h.fine.asks hu hasks).1
      cases announcing with
      | true =>
          obtain rfl : o = _ := hbusy d true hrole
          exact absurd hasks (hunscheduled u hu)
      | false =>
          obtain ⟨call, hserving, hheld⟩ := hbusy d false hrole
          have hnone : call.held.length = 0 := by
            have hzero := htickets u hu
            rw [hserving] at hzero
            exact (if_pos rfl).symm.trans hzero
          exact absurd (List.eq_nil_of_length_eq_zero hnone) hheld

/-! ## The last URB -/

/-- A display is plugged in, a pixel is drawn, and the display is pulled out; the URB of
the pixel completes with `status` once the work is cancelled, before the release loop
takes the ticket.  In the end the display is about to be freed. -/
def pulledOut (status : Int) : List (HostEvent amd64) :=
  [.probe 0] ++ List.replicate 22 (.run 0 plenty) ++
    [.callback (.fillrect dot)] ++ List.replicate 14 (.run 1 plenty) ++
    [.disconnect 0] ++ List.replicate 9 (.run 2 plenty) ++
    [.statusComplete 0 (-2) ⟨0, 0, 0, 0, 0⟩] ++ List.replicate 2 (.run 3 plenty) ++
    List.replicate 4 (.run 2 plenty) ++ [.complete 0 0 status] ++ List.replicate 2 (.run 4 plenty) ++
    List.replicate 3 (.run 2 plenty)

/-- Thread 2 is about to free display 0, and whether the work is queued. -/
def freesNext (queued : Bool) (w : HostWorld) : Bool :=
  (w.shared.dev 0).core = .leaving && (w.shared.dev 0).workQueued = queued &&
    match (w.threads[2]?.bind Thread.asks : Option HostOp) with
    | some (.dev 0 .kfree) => true
    | _ => false

theorem freesNext_spec {queued : Bool} {w : HostWorld} (h : freesNext queued w = true) :
    (w.shared.dev 0).core = .leaving ∧ (w.shared.dev 0).workQueued = queued ∧
      ∃ t ∈ w.threads, t.asks = some (.dev 0 .kfree) := by
  obtain ⟨hstate, hasks⟩ := Bool.and_eq_true_iff.mp h
  obtain ⟨hleaving, hqueued⟩ := Bool.and_eq_true_iff.mp hstate
  refine ⟨of_decide_eq_true hleaving, of_decide_eq_true hqueued, ?_⟩
  split at hasks
  · rename_i hkfree
    obtain ⟨t, ht, hask⟩ := Option.bind_eq_some_iff.mp hkfree
    exact ⟨t, List.mem_of_getElem? ht, hask⟩
  · cases hasks

/-- A test that is enough for `Timely`. -/
def timely (w : HostWorld) : HostEvent amd64 → Bool
  | .run i _ =>
      match (w.threads[i]?.bind Thread.asks : Option HostOp) with
      | some (.dev _ .cancelDelayedWorkSync) => w.threads.all fun u =>
          match u.asks with
          | some (.dev _ (.usb .scheduleCompletionWork)) => false
          | _ => true
      | some (.dev _ (.usb (.returnTicket ticket))) => ticket.transferUrb.status ≠ 0
      | _ => true
  | _ => true

theorem Timely.of_test (w : HostWorld) (e : HostEvent amd64) (h : timely w e = true) : Timely w e := by
  cases e with
  | run i c =>
      intro t ht d
      have hasks : (w.threads[i]?.bind Thread.asks : Option HostOp) = t.asks := by rw [ht]; rfl
      unfold timely at h
      dsimp only at h
      rw [hasks] at h
      constructor
      · intro hcancel u hu hschedule
        rw [hcancel] at h
        have hother := List.all_eq_true.mp h u hu
        rw [hschedule] at hother
        cases hother
      · intro ticket hreturn _ hstatus
        rw [hreturn] at h
        exact absurd hstatus (of_decide_eq_true h)
  | _ => trivial

/-- The URB fails: its handler schedules nothing. -/
theorem idle_at_kfree_failed : ∃ w,
    Runs.Run (nextHost (fun _ => .attached 64 0x0104 .little) (fun c => c.toUInt16))
      (fun w (e : HostEvent amd64) => Timely w e) (loadedHost neverBound) w ∧
    (∃ t ∈ w.threads, t.asks = some (.dev 0 .kfree)) ∧ Idle w 0 := by
  have hends : (Runs.tested (nextHost (fun _ => .attached 64 0x0104 .little) (fun c => c.toUInt16))
      timely (loadedHost neverBound) (pulledOut (-71))).any (freesNext false) = true := by
    decide +kernel
  obtain ⟨w, htested, hfrees⟩ := (Option.any_eq_true _ _).mp hends
  obtain ⟨hleaving, _, t, ht, hkfree⟩ := freesNext_spec hfrees
  have run := Runs.Run.start.of_tested Timely.of_test htested
  exact ⟨w, run, ⟨t, ht, hkfree⟩, idle_at_kfree neverBound_unbound run hleaving ht hkfree⟩

/-- **A display is freed with its work queued.**  The URB comes through: its handler
finds every ticket back and schedules the work, which was cancelled before. -/
theorem freed_with_work_queued : ∃ w,
    Runs.Run (nextHost (fun _ => .attached 64 0x0104 .little) (fun c => c.toUInt16))
      (fun _ (_ : HostEvent amd64) => True) (loadedHost neverBound) w ∧
    (w.shared.dev 0).core = .leaving ∧ (∃ t ∈ w.threads, t.asks = some (.dev 0 .kfree)) ∧
    (w.shared.dev 0).workQueued = true ∧ ¬ Idle w 0 := by
  have hends : (Runs.after (nextHost (fun _ => .attached 64 0x0104 .little) (fun c => c.toUInt16))
      (loadedHost neverBound) (pulledOut 0)).any (freesNext true) = true := by decide +kernel
  obtain ⟨w, hafter, hfrees⟩ := (Option.any_eq_true _ _).mp hends
  obtain ⟨hleaving, hqueued, hkfree⟩ := freesNext_spec hfrees
  refine ⟨w, Runs.Run.of_after hafter, hleaving, hkfree, hqueued, fun hidle => ?_⟩
  exact absurd (hqueued.symm.trans hidle.unqueued) nofun

end RpUsbDisp.Hotplug
