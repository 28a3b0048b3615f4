import RpUsbDisp.SdkSafety

/-!
# Who waits for whom

The threads of a display wait for `statusLock_`, for the flag of `call_once`, for libusb and, in the
destructor, for the status thread.  As long as the callbacks call nothing but `isAlive`, they
never wait for each other in a circle: somebody goes on, or libusb has a transfer that is waited for
(`threads_go_on`).

A callback that makes a call which locks `statusLock_` stops the status thread for good, and
with it everybody who is to take the lock, and the destructor (`callback_deadlocks`).  A command that
is submitted when no pipeline of the process runs is never waited for to the end
(`draw_needs_pipeline`): the commands start none, other than
`sendDataToDisplayEndpointNoWait`, which nothing calls.
-/

namespace RpUsbDisp.SdkDevice

open Programs Sdk StatusPackets Hotplug

variable {cfg : Config} {w w' : SdkWorld cfg} {e : Event}

section Progress

/-! ## Going on -/

/-- The events that are the display's own. -/
def Event.own : Event → Bool
  | .startWorker | .again _ | .run _ _ | .finish _ => true
  | _ => false

/-- Something of the display can happen. -/
def GoesOn (w : SdkWorld cfg) : Prop :=
  ∃ e : Event, e.own = true ∧ (nextWorld w e).isSome = true

/-- A thread waits for a transfer that libusb has. -/
def AwaitsUsb (w : SdkWorld cfg) : Prop :=
  ∃ i t transfer, Asks w i (.waitForCompletion t) ∧ w.shared.transfers t = some transfer ∧
    transfer.inFlight = true

variable {i : Nat} {o : SdkOp cfg}

/-- An operation that can be done is an event. -/
theorem goesOn_run (hgoes : Terminated w = false) (ho : Asks w i o) {result : Int}
    {r : o.Res} {s : State cfg} (hexec : w.shared.exec o result = some (r, s)) : GoesOn w := by
  obtain ⟨k, g, hi⟩ := ho
  refine ⟨.run i result, rfl, ?_⟩
  simp only [nextWorld, hgoes, World.step, hi, hexec]
  rfl

/-- A thread that has returned goes round or is gone. -/
theorem goesOn_ret (hgoes : Terminated w = false) {outcome : Outcome} {g : Task}
    (hi : w.threads[i]? = some ⟨.ret outcome, g⟩) : GoesOn w := by
  cases outcome with
  | again t =>
      refine ⟨.again i, rfl, ?_⟩
      simp only [nextWorld, hgoes, hi]
      rfl
  | _ =>
      refine ⟨.finish i, rfl, ?_⟩
      simp only [nextWorld, hgoes, hi]
      rfl

/-- What does not wait can be done. -/
theorem exec_goes {s : State cfg} {g : Task} {gs : List Task} (howned : Owned s gs) (hg : g ∈ gs)
    (hpermits : g.Permits o) (hwaits : o.waits = false) :
    ∃ result r s', s.exec o result = some (r, s') := by
  cases o with
  | lockStatus => cases hwaits
  | onceBegin => cases hwaits
  | waitForCompletion t => cases hwaits
  | join => cases hwaits
  | submitStatus t =>
      obtain ⟨transfer, ht, _⟩ := howned.idle g hg t hpermits.1
      exact ⟨0, 0, _, by simp only [State.exec, State.submit, ht]; rfl⟩
  | submitDisplay t sent =>
      obtain ⟨transfer, ht, _⟩ := howned.idle g hg t hpermits.1
      exact ⟨0, 0, _, by simp only [State.exec, State.submit, ht]; rfl⟩
  | transferStatus t =>
      obtain ⟨transfer, ht, _⟩ := howned.idle g hg t hpermits
      exact ⟨0, _, _, by simp only [State.exec, ht]; rfl⟩
  | decodeStatus t =>
      obtain ⟨transfer, ht, _⟩ := howned.idle g hg t hpermits
      exact ⟨0, _, _, by simp only [State.exec, ht]; rfl⟩
  | _ => exact ⟨0, _, _, rfl⟩

/-- Whoever does not have to wait goes on. -/
theorem Sound.goesOn (h : Sound w) (hgoes : Terminated w = false) (ho : Asks w i o)
    (hwaits : o.waits = false) : GoesOn w := by
  obtain ⟨g, hpermits, _, _, hg⟩ := h.asks ho
  obtain ⟨result, r, s', hexec⟩ := exec_goes h.agreed.owned hg hpermits hwaits
  exact goesOn_run hgoes ho hexec

/-- What a thread of the display is at. -/
theorem thread_cases (hgoes : Terminated w = false) {g : Task} (hg : g ∈ w.ghosts) :
    (∃ (i : Nat) (outcome : Outcome), w.threads[i]? = some ⟨.ret outcome, g⟩) ∨
      ∃ (i : Nat) (o : SdkOp cfg) (k : o.Res → SdkProg cfg Outcome),
        w.threads[i]? = some ⟨.op o k, g⟩ := by
  obtain ⟨⟨p, _⟩, ht, rfl⟩ := List.mem_map.mp hg
  obtain ⟨i, hi⟩ := List.mem_iff_getElem?.mp ht
  cases p with
  | ret outcome => exact Or.inl ⟨i, outcome, hi⟩
  | op o k => exact Or.inr ⟨i, o, k, hi⟩
  | fault e =>
      have hwrong : Terminated w = true := List.any_eq_true.mpr ⟨_, ht, rfl⟩
      rw [hgoes] at hwrong
      cases hwrong

/-- Who has the lock goes on. -/
theorem Sound.holder_goesOn (h : Sound w) (hquiet : cfg.Quiet) (hgoes : Terminated w = false)
    (htaken : w.shared.statusLock = true) : GoesOn w := by
  obtain ⟨g, hg, hholds⟩ := h.agreed.locked.taken htaken
  rcases thread_cases hgoes hg with ⟨i, outcome, hi⟩ | ⟨i, o, k, hi⟩
  · exact goesOn_ret hgoes hi
  · exact h.goesOn hgoes ⟨k, g, hi⟩ ((h.fine.pre hi).2 hquiet hholds)

/-- Who is to take the lock, or somebody else, goes on. -/
theorem Sound.lock_goesOn (h : Sound w) (hquiet : cfg.Quiet) (hgoes : Terminated w = false)
    (ho : Asks w i .lockStatus) : GoesOn w := by
  cases htaken : w.shared.statusLock with
  | true => exact h.holder_goesOn hquiet hgoes htaken
  | false =>
      have hexec : w.shared.exec .lockStatus 0 = some ((), { w.shared with statusLock := true }) := by
        simp only [State.exec, htaken]
        rfl
      exact goesOn_run hgoes ho hexec

/-- Who is in the function of `call_once` goes on, or somebody else. -/
theorem Sound.enabling_goesOn (h : Sound w) (hquiet : cfg.Quiet) (hgoes : Terminated w = false)
    {g : Task} (hg : g ∈ w.ghosts) (henabling : g.enabling = true) : GoesOn w := by
  have hplain : ¬ g.Plain := by
    intro hplain
    rw [Task.enabling, hplain.1] at henabling
    cases henabling
  rcases thread_cases hgoes hg with ⟨i, outcome, hi⟩ | ⟨i, o, k, hi⟩
  · exact goesOn_ret hgoes hi
  · have ho : Asks w i o := ⟨k, g, hi⟩
    have hpermits := (h.fine.pre hi).1
    cases hwaits : o.waits with
    | false => exact h.goesOn hgoes ho hwaits
    | true =>
        cases o with
        | lockStatus => exact h.lock_goesOn hquiet hgoes ho
        | onceBegin => exact absurd hpermits.1 hplain
        | waitForCompletion t => exact absurd hpermits.2 hplain
        | join =>
            rw [Task.enabling, hpermits.2] at henabling
            cases henabling
        | _ => cases hwaits

/-- Who is at the once flag goes on, or somebody else. -/
theorem Sound.once_goesOn (h : Sound w) (hquiet : cfg.Quiet) (hgoes : Terminated w = false)
    (ho : Asks w i .onceBegin) : GoesOn w := by
  cases honce : w.shared.once with
  | fresh =>
      have hexec : w.shared.exec .onceBegin 0 = some (true, { w.shared with once := .running }) := by
        simp only [State.exec, honce]
      exact goesOn_run hgoes ho hexec
  | done =>
      have hexec : w.shared.exec .onceBegin 0 = some (false, w.shared) := by
        simp only [State.exec, honce]
      exact goesOn_run hgoes ho hexec
  | running =>
      have hpos : 0 < w.ghosts.countP Task.enabling := by
        rw [h.agreed.staged.once, honce]
        exact Nat.one_pos
      obtain ⟨g, hg, henabling⟩ := List.countP_pos_iff.mp hpos
      exact h.enabling_goesOn hquiet hgoes hg henabling

/-- Who waits for a transfer goes on, or libusb has it. -/
theorem Sound.wait_goesOn (h : Sound w) (hgoes : Terminated w = false) {t : Nat}
    (ho : Asks w i (.waitForCompletion t)) : GoesOn w ∨ AwaitsUsb w := by
  obtain ⟨g, hpermits, _, _, hg⟩ := h.asks ho
  obtain ⟨transfer, ht, hflying⟩ := h.agreed.owned.flying g hg t hpermits.1
  cases hcompletion : transfer.completion with
  | true =>
      have hexec : w.shared.exec (.waitForCompletion t) 0 =
          some ((), w.shared.setTransfer t (some { transfer with completion := false })) := by
        simp only [State.exec, ht, hcompletion]
        rfl
      exact Or.inl (goesOn_run hgoes ho hexec)
  | false =>
      refine Or.inr ⟨i, t, transfer, ho, ht, ?_⟩
      rw [hflying, hcompletion]
      rfl

/-- A thread that is not about to join. -/
theorem Sound.thread_goesOn (h : Sound w) (hquiet : cfg.Quiet) (hgoes : Terminated w = false)
    (ho : Asks w i o) (hjoin : o ≠ .join) : GoesOn w ∨ AwaitsUsb w := by
  cases hwaits : o.waits with
  | false => exact Or.inl (h.goesOn hgoes ho hwaits)
  | true =>
      cases o with
      | lockStatus => exact Or.inl (h.lock_goesOn hquiet hgoes ho)
      | onceBegin => exact Or.inl (h.once_goesOn hquiet hgoes ho)
      | waitForCompletion t => exact h.wait_goesOn hgoes ho
      | join => exact absurd rfl hjoin
      | _ => cases hwaits

/-- The destructor goes on, or the status thread does. -/
theorem Sound.join_goesOn (h : Sound w) (hquiet : cfg.Quiet) (hgoes : Terminated w = false)
    (ho : Asks w i .join) : GoesOn w ∨ AwaitsUsb w := by
  obtain ⟨g, hpermits, _, _, hg⟩ := h.asks ho
  have hneeds := h.agreed.staged.needs g hg
  rw [hpermits.2] at hneeds
  obtain ⟨_, hnone, hjoined⟩ := hneeds
  cases hthread : w.shared.statusThread with
  | none => exact absurd hthread hnone
  | joined => exact absurd hthread hjoined
  | created =>
      refine Or.inl ⟨.startWorker, rfl, ?_⟩
      simp only [nextWorld, hgoes, hthread]
      rfl
  | ended =>
      have hexec : w.shared.exec .join 0 = some ((), { w.shared with statusThread := .joined }) := by
        simp only [State.exec, hthread]
        rfl
      exact Or.inl (goesOn_run hgoes ho hexec)
  | running =>
      have hpos : 0 < w.ghosts.countP Task.isWorker := by
        rw [h.agreed.staged.worker, hthread]
        exact Nat.one_pos
      obtain ⟨u, hu, hworker⟩ := List.countP_pos_iff.mp hpos
      rcases thread_cases hgoes hu with ⟨j, outcome, hj⟩ | ⟨j, o', k, hj⟩
      · exact Or.inl (goesOn_ret hgoes hj)
      · refine h.thread_goesOn hquiet hgoes ⟨k, u, hj⟩ ?_
        intro hjoin
        have hpermits' := (h.fine.pre hj).1
        rw [hjoin] at hpermits'
        rw [Task.isWorker, hpermits'.1] at hworker
        cases hworker

/-- **Nobody waits in a circle.**  Where the callbacks call nothing but `isAlive`, in every world with a
thread in it something of the display can happen, or a thread waits for a transfer that libusb
has. -/
theorem threads_go_on (hquiet : cfg.Quiet) (h : Reachable w) (hgoes : Terminated w = false)
    (hthreads : w.threads ≠ []) : GoesOn w ∨ AwaitsUsb w := by
  have hsound := reachable_sound h
  obtain ⟨t, ht⟩ := List.exists_mem_of_ne_nil _ hthreads
  rcases thread_cases hgoes (List.mem_map_of_mem ht) with ⟨i, outcome, hi⟩ | ⟨i, o, k, hi⟩
  · exact Or.inl (goesOn_ret hgoes hi)
  · have ho : Asks w i o := ⟨k, _, hi⟩
    by_cases hjoin : o = .join
    · subst hjoin
      exact hsound.join_goesOn hquiet hgoes ho
    · exact hsound.thread_goesOn hquiet hgoes ho hjoin

theorem threads_go_on_fetching : GoesOn fetchingWorld ∨ AwaitsUsb fetchingWorld := by
  refine threads_go_on (fun _ _ c hc => ?_) fetchingWorld_reachable rfl
    (List.ne_nil_of_length_eq_add_one rfl)
  cases hc

end Progress

section Deadlock

/-! ## A callback that locks -/

/-- A call that locks before it does anything else. -/
def ApiCall.LocksFirst (cfg : Config) (c : ApiCall) : Prop :=
  ∀ number, ∃ k, c.prog cfg number = .op .lockStatus k

theorem getStatus_locksFirst : ApiCall.getStatus.LocksFirst cfg := fun _ => ⟨_, rfl⟩

theorem setStatusUpdatedCallback_locksFirst (callback : Option Nat) :
    (ApiCall.setStatusUpdatedCallback callback).LocksFirst cfg := fun _ => ⟨_, rfl⟩

/-- A command that can be allocated reads the status. -/
theorem draw_locksFirst {call : DisplayCall} {env : Environment} {submission : Submission}
    (hprepared : prepared cfg call env 0 = .ok submission) (hcount : packetCount cfg call env ≠ 0) :
    (ApiCall.draw call env).LocksFirst cfg := by
  intro number
  show ∃ k, draw cfg number call env = .op .lockStatus k
  unfold draw
  rw [hprepared]
  simp only [markedStatus, if_neg hcount]
  exact ⟨_, rfl⟩

/-- What a callback does first. -/
theorem react_locks {α : Type} {number : Nat} {c : ApiCall} {calls reactions : List ApiCall}
    {k : Unit → SdkProg cfg Outcome} (hk : c.prog cfg number = .op .lockStatus k)
    (hreact : reactions = c :: calls) (f : Bool → SdkProg cfg α) :
    ∃ k', (react cfg number reactions >>= f) = .op .lockStatus k' := by
  rw [hreact]
  simp only [react, hk]
  exact ⟨_, rfl⟩

/-- An operation that can be done is done. -/
theorem nextWorld_run (hgoes : Terminated w = false) {i : Nat} {o : SdkOp cfg}
    {k : o.Res → SdkProg cfg Outcome} {g : Task} (hi : w.threads[i]? = some ⟨.op o k, g⟩)
    {result : Int} {r : o.Res} {s : State cfg} (hexec : w.shared.exec o result = some (r, s)) :
    nextWorld w (.run i result) = some ⟨s, w.threads.set i ⟨k r, g.track o r⟩⟩ := by
  simp only [nextWorld, hgoes, World.step, hi, hexec]
  rfl

/-- A thread other than the one that something happens to. -/
theorem mem_eraseIdx_of_ne {α : Type} {l : List α} {i : Nat} {a b : α} (ha : a ∈ l)
    (hi : l[i]? = some b) (hne : a ≠ b) : a ∈ l.eraseIdx i := by
  obtain ⟨j, hj⟩ := List.mem_iff_getElem?.mp ha
  refine List.mem_eraseIdx_iff_getElem?.mpr ⟨j, fun hji => hne ?_, hj⟩
  rw [hji, hi] at hj
  exact (Option.some.inj hj).symm

theorem mem_set_of_ne {α : Type} {l : List α} {i : Nat} {a b c : α} (ha : a ∈ l)
    (hi : l[i]? = some b) (hne : a ≠ b) : a ∈ l.set i c := by
  obtain ⟨hlt, _⟩ := List.getElem?_eq_some_iff.mp hi
  exact (List.set_perm_cons_eraseIdx hlt c).mem_iff.mpr
    (List.mem_cons_of_mem _ (mem_eraseIdx_of_ne ha hi hne))

/-- The status thread waits for the lock that it has. -/
def AwaitsItself (w : SdkWorld cfg) : Prop :=
  ∃ t ∈ w.threads, (∃ k, t.prog = .op .lockStatus k) ∧ t.ghost.holds = true ∧ t.ghost.role = .worker

/-- So it does, and nothing is published or called since. -/
structure Stuck (before w : SdkWorld cfg) : Prop where
  waits : AwaitsItself w
  callback : w.shared.callback = before.shared.callback
  published : w.shared.published = before.shared.published
  invoked : w.shared.invoked = before.shared.invoked

theorem Stuck.step {before : SdkWorld cfg} (hsound : Sound w) (h : Stuck before w)
    (hstep : Step w e w') : Stuck before w' := by
  obtain ⟨⟨t, ht, ⟨k, hk⟩, hholds, hrole⟩, hcallback, hpublished, hinvoked⟩ := h
  have hwaits : ∀ threads : List (Thread (SdkOp cfg) SdkOp.Res Outcome Task), t ∈ threads →
      ∃ t ∈ threads, (∃ k, t.prog = .op .lockStatus k) ∧ t.ghost.holds = true ∧
        t.ghost.role = .worker := fun _ hmem => ⟨t, hmem, ⟨k, hk⟩, hholds, hrole⟩
  have htaken : w.shared.statusLock = true := by
    refine Bool.not_eq_false _ ▸ fun hfree => ?_
    rw [hsound.agreed.locked.free hfree t.ghost (List.mem_map_of_mem ht)] at hholds
    cases hholds
  have hret : ∀ {outcome : Outcome} {g : Task}, t ≠ ⟨.ret outcome, g⟩ := by
    intro outcome g he
    rw [he] at hk
    cases hk
  cases hstep with
  | @enter e role prog s henter =>
      have hmem : t ∈ (enter { w with shared := s } role prog).threads := List.mem_append_left _ ht
      refine ⟨hwaits _ hmem, ?_, ?_, ?_⟩
      all_goals cases henter <;> assumption
  | again hi => exact ⟨hwaits _ (mem_set_of_ne ht hi hret), hcallback, hpublished, hinvoked⟩
  | @run i result o k' g r s hi heffect =>
      have hother : t ≠ ⟨.op o k', g⟩ := by
        intro he
        rw [he] at hk
        cases hk
        cases heffect with
        | lockStatus hfree =>
            rw [htaken] at hfree
            cases hfree
      have hmem : t.ghost ∈ w.others i := List.mem_map_of_mem (mem_eraseIdx_of_ne ht hi hother)
      have hpre := (hsound.fine.pre hi).1
      have hguarded : o.guarded = false := by
        refine Bool.eq_false_iff.mpr fun hguarded => ?_
        have hnot := ((hsound.split hi).locked.alone (hpre.holds hguarded)).2 t.ghost hmem
        rw [hnot] at hholds
        cases hholds
      refine ⟨hwaits _ (mem_set_of_ne ht hi hother), ?_, ?_, ?_⟩
      all_goals cases heffect <;> first | assumption | cases hguarded
  | finish hi =>
      refine ⟨hwaits _ (mem_eraseIdx_of_ne ht hi hret), ?_, ?_, ?_⟩
      all_goals
        unfold State.retire
        split <;> assumption
  | complete => exact ⟨hwaits _ ht, hcallback, hpublished, hinvoked⟩
  | others => exact ⟨hwaits _ ht, hcallback, hpublished, hinvoked⟩

/-- Where it waits for itself. -/
theorem Stuck.waits_forever {before : SdkWorld cfg} (hsound : Sound w) (h : Stuck before w) :
    w.shared.statusLock = true ∧ w.shared.statusThread = .running ∧ ¬ Destroyed w := by
  obtain ⟨t, ht, _, hholds, hrole⟩ := h.waits
  have hmem : t.ghost ∈ w.ghosts := List.mem_map_of_mem ht
  refine ⟨?_, ?_, fun hover => ?_⟩
  · refine Bool.not_eq_false _ ▸ fun hfree => ?_
    rw [hsound.agreed.locked.free hfree _ hmem] at hholds
    cases hholds
  · have hworker : t.ghost.isWorker = true := by rw [Task.isWorker, hrole]
    have hpos : 0 < w.ghosts.countP Task.isWorker := List.countP_pos_iff.mpr ⟨_, hmem, hworker⟩
    have hle := Bool.toNat_le (decide (w.shared.statusThread = .running))
    have hone := hsound.agreed.staged.worker
    exact of_decide_eq_true (Bool.toNat_eq_one.mp (by omega))
  · rw [(hover.empty hsound).1] at ht
    cases ht

/-- A thread does an operation and nobody goes wrong by that. -/
theorem Later.run {w₀ : SdkWorld cfg} (h : Later w₀ w) (hgoes : Terminated w = false) {i : Nat}
    {o o' : SdkOp cfg} {k : o.Res → SdkProg cfg Outcome} {g : Task}
    (hi : w.threads[i]? = some ⟨.op o k, g⟩) {result : Int} {r : o.Res} {s : State cfg}
    (hexec : w.shared.exec o result = some (r, s)) {k' : o'.Res → SdkProg cfg Outcome}
    (hk : k r = .op o' k') :
    ∃ w₁, Later w₀ w₁ ∧ Terminated w₁ = false ∧ w₁.shared = s ∧
      w₁.threads[i]? = some ⟨.op o' k', g.track o r⟩ := by
  obtain ⟨hlt, _⟩ := List.getElem?_eq_some_iff.mp hi
  refine ⟨⟨s, w.threads.set i ⟨k r, g.track o r⟩⟩, h.next trivial (nextWorld_run hgoes hi hexec), ?_,
    rfl, ?_⟩
  · refine Bool.eq_false_iff.mpr fun hwrong => ?_
    obtain ⟨u, hu, hfault⟩ := List.any_eq_true.mp hwrong
    rcases List.mem_or_eq_of_mem_set hu with hu | rfl
    · have hbefore : Terminated w = true := List.any_eq_true.mpr ⟨u, hu, hfault⟩
      rw [hgoes] at hbefore
      cases hbefore
    · simp only [hk] at hfault
      cases hfault
  · rw [List.getElem?_set_self hlt, hk]

/-- A display whose callback asks for the status. -/
def askingConfig : Config := { plainConfig with reactions := fun _ _ => [.getStatus] }

/-- Its status thread when the first packet has come in. -/
def publishing : List Event :=
  [.call (.setStatusUpdatedCallback (some 7)), .run 0 0, .run 0 0, .run 0 0, .finish 0] ++ fetching ++
    [.run 0 0, .complete 0 .completed ⟨[], Nat.zero_le _⟩, .run 0 0, .run 0 0, .run 0 0]

theorem publishing_happens : (after askingConfig publishing).isSome = true := rfl

/-- What is known of it then, and the packet. -/
def publisher : Task := ⟨.worker, 2, false, .plain, .looked, false, [0], [], []⟩

def firstPacket : StatusNormalPacket :=
  decodeAsStatus .little (StatusBuffer.zeros.receive ⟨[], Nat.zero_le _⟩)

theorem publishing_publishes :
    ((after askingConfig publishing).get publishing_happens).threads[0]? =
      some ⟨publish askingConfig publisher.number 0 firstPacket, publisher⟩ := rfl

end Deadlock

section Pipelines

/-! ## Without a pipeline -/

/-- The events that start a pipeline, or may. -/
def Event.powers : Event → Bool
  | .call (.enable _ _) => true
  | .others true => true
  | _ => false

/-- No pipeline runs, nor is going to. -/
structure Dark (s : State cfg) (gs : List Task) : Prop where
  pipeline : s.pipeline = false
  others : s.otherPipelines = false
  thread : s.statusThread = .none
  enabling : ∀ g ∈ gs, g.enabling = false
  calls : ∀ g ∈ gs, ∀ c, g.role = .call c → ¬ c.Enables
  waiting : ∀ g ∈ gs, g.submitted ≠ [] → g.flying ≠ []
  completed : ∀ t transfer, s.transfers t = some transfer → transfer.completion = false
  finished : ∀ f ∈ s.finished, s.sentBy f.number = []

variable {s s' : State cfg} {g : Task} {rest : List Task} {o : SdkOp cfg} {r : o.Res}

/-- Nobody gets to the once flag. -/
theorem Dark.not_once (h : Dark s (g :: rest)) (hagreed : Agreed s (g :: rest))
    (hplain : g.Plain) (hrole : ∀ c, g.role = .call c → c.Enables) : False := by
  cases hg : g.role with
  | call c => exact h.calls g List.mem_cons_self c hg (hrole c hg)
  | destructor =>
      have hnot := hplain.2
      rw [Task.isDestructor, hg] at hnot
      cases hnot
  | worker =>
      have hworker : g.isWorker = true := by rw [Task.isWorker, hg]
      have hpos : 0 < (g :: rest).countP Task.isWorker :=
        List.countP_pos_iff.mpr ⟨g, List.mem_cons_self, hworker⟩
      rw [hagreed.staged.worker, h.thread] at hpos
      exact Nat.lt_irrefl 0 hpos

/-- Something that does not touch the pipeline, or submit. -/
theorem Dark.update {g' : Task} (h : Dark s (g :: rest)) (hpipeline : s'.pipeline = false)
    (hthread : s'.statusThread = .none) (hothers : s'.otherPipelines = s.otherPipelines)
    (hrole : g'.role = g.role) (hstage : g'.enabling = false)
    (hwaiting : g'.submitted ≠ [] → g'.flying ≠ [])
    (hcompleted : ∀ t transfer, s'.transfers t = some transfer → transfer.completion = false)
    (hfinished : ∀ f ∈ s'.finished, s'.sentBy f.number = []) : Dark s' (g' :: rest) where
  pipeline := hpipeline
  others := hothers.trans h.others
  thread := hthread
  enabling := List.forall_mem_cons.mpr ⟨hstage, fun u hu => h.enabling u (List.mem_cons_of_mem _ hu)⟩
  calls := List.forall_mem_cons.mpr ⟨by
    rw [hrole]
    exact h.calls g List.mem_cons_self, fun u hu => h.calls u (List.mem_cons_of_mem _ hu)⟩
  waiting := List.forall_mem_cons.mpr ⟨hwaiting, fun u hu => h.waiting u (List.mem_cons_of_mem _ hu)⟩
  completed := hcompleted
  finished := hfinished

/-- What a change of a transfer leaves. -/
theorem Dark.changed (h : Dark s (g :: rest)) {t : Nat} {transfer : Option TransferImpl}
    (hnew : ∀ new, transfer = some new → new.completion = false) :
    ∀ x other, (s.setTransfer t transfer).transfers x = some other → other.completion = false := by
  intro x other hx
  by_cases hxt : x = t
  · subst hxt
    have hthis : (s.setTransfer x transfer).transfers x = transfer := Function.update_self _ _ _
    exact hnew other (hthis.symm.trans hx)
  · have hother : (s.setTransfer t transfer).transfers x = s.transfers x :=
      Function.update_of_ne hxt _ _
    exact h.completed x other (hother.symm.trans hx)

/-- **One operation** of a thread. -/
theorem Dark.track (h : Dark s (g :: rest)) (hagreed : Agreed s (g :: rest)) (hpre : g.Permits o)
    (heffect : Effect s o r s') : Dark s' (g.track o r :: rest) := by
  have hnot := h.enabling g List.mem_cons_self
  have hwaits := h.waiting g List.mem_cons_self
  have hpipeline := h.pipeline
  have hthread := h.thread
  cases heffect with
  | onceFirst => exact (h.not_once hagreed hpre.1 hpre.2).elim
  | onceAgain => exact (h.not_once hagreed hpre.1 hpre.2).elim
  | onceEnd =>
      rw [hpre.1] at hnot
      cases hnot
  | summonPipeline =>
      rw [Task.enabling, hpre.1] at hnot
      cases hnot
  | storeWorking working =>
      cases working with
      | true =>
          rw [Task.enabling, hpre.1] at hnot
          cases hnot
      | false =>
          have hsame : (g.track (SdkOp.storeWorking false : SdkOp cfg) ()).submitted = g.submitted ∧
              (g.track (SdkOp.storeWorking false : SdkOp cfg) ()).flying = g.flying :=
            ⟨Task.track_submitted rfl, (Task.track_transfers rfl).2⟩
          refine h.update hpipeline hthread rfl (Task.track_role g _ _) ?_ ?_ h.completed h.finished
          · simp only [Task.track]
            split
            · rfl
            · exact hnot
          · rw [hsame.1, hsame.2]
            exact hwaits
  | createThread =>
      rw [Task.enabling, hpre.1] at hnot
      cases hnot
  | join hended =>
      rw [h.thread] at hended
      cases hended
  | waitForCompletion ht hcompletion =>
      rw [h.completed _ _ ht] at hcompletion
      cases hcompletion
  | joinable =>
      refine h.update hpipeline hthread rfl rfl ?_ hwaits h.completed h.finished
      simp only [Task.track]
      split <;> rfl
  | releasePipeline => exact h.update rfl hthread rfl rfl rfl hwaits h.completed h.finished
  | allocTransfer =>
      refine h.update hpipeline hthread rfl rfl hnot hwaits (h.changed fun new hnew => ?_) h.finished
      rw [← Option.some.inj hnew]
  | submitStatus ht =>
      refine h.update hpipeline hthread rfl rfl hnot (fun _ => List.cons_ne_nil _ _)
        (h.changed fun new hnew => ?_) h.finished
      have hold := h.completed _ _ ht
      rw [← Option.some.inj hnew]
      exact hold
  | @submitDisplay t sent transfer ht =>
      refine h.update hpipeline hthread rfl rfl hnot (fun _ => List.cons_ne_nil _ _)
        (h.changed fun new hnew => ?_) ?_
      · have hold := h.completed _ _ ht
        rw [← Option.some.inj hnew]
        exact hold
      · intro f hf
        have hother : f.number ≠ g.number := hagreed.numbered.other.2 f hf
        have hcaller : ¬ sent.caller = f.number := fun he => hother (he.symm.trans hpre.2)
        have hnone : ((s.wire ++ [sent]).filter fun x => x.caller = f.number) =
            s.wire.filter fun x => x.caller = f.number := by
          rw [List.filter_append, List.filter_cons_of_neg (by simpa using hcaller), List.filter_nil,
            List.append_nil]
        show ((s.wire ++ [sent]).filter fun x => x.caller = f.number).map Sent.call = []
        rw [hnone]
        exact h.finished f hf
  | refuseStatus hresult =>
      rw [Task.track_submitStatus, if_neg hresult]
      exact h
  | refuseDisplay hresult =>
      rw [Task.track_submitDisplay, if_neg hresult]
      exact h
  | freeTransfer t =>
      exact h.update hpipeline hthread rfl rfl hnot hwaits
        (h.changed fun new hnew => by cases hnew) h.finished
  | _ => exact h.update hpipeline hthread rfl rfl hnot hwaits h.completed h.finished

theorem Dark.perm {gs : List Task} (h : Dark s gs) (hperm : gs.Perm rest) : Dark s rest := by
  have hall : ∀ {P : Task → Prop}, (∀ g ∈ gs, P g) → ∀ g ∈ rest, P g :=
    fun hP g hg => hP g (hperm.mem_iff.mpr hg)
  exact { h with
    enabling := hall h.enabling
    calls := hall h.calls
    waiting := hall h.waiting }

/-- A thread enters that does not enable. -/
theorem Dark.enter {gs : List Task} (h : Dark s gs) (role : Role) (number : Nat)
    (hrole : ∀ c, role = .call c → ¬ c.Enables) : Dark s (Task.start role number :: gs) :=
  { h with
    enabling := List.forall_mem_cons.mpr ⟨rfl, h.enabling⟩
    calls := List.forall_mem_cons.mpr ⟨hrole, h.calls⟩
    waiting := List.forall_mem_cons.mpr ⟨fun hne => absurd rfl hne, h.waiting⟩ }

theorem Dark.tail (h : Dark s (g :: rest)) : Dark s rest :=
  { h with
    enabling := fun u hu => h.enabling u (List.mem_cons_of_mem _ hu)
    calls := fun u hu => h.calls u (List.mem_cons_of_mem _ hu)
    waiting := fun u hu => h.waiting u (List.mem_cons_of_mem _ hu) }

/-- A call that ends has submitted nothing. -/
theorem Dark.finish (h : Dark s (g :: rest)) (hagreed : Agreed s (g :: rest)) {outcome : Outcome}
    (hends : EndsWell outcome g) : Dark (s.retire g outcome) rest := by
  have hnothing : g.submitted = [] := by
    by_contra hne
    exact h.waiting g List.mem_cons_self hne hends.landed
  unfold State.retire
  cases hrole : g.role with
  | call c =>
      refine { h.tail with finished := fun f hf => ?_ }
      rcases List.mem_append.mp hf with hf | hf
      · exact h.finished f hf
      · rw [List.mem_singleton.mp hf]
        exact (hagreed.numbered.sent g List.mem_cons_self).trans hnothing
  | worker =>
      have hworker : g.isWorker = true := by rw [Task.isWorker, hrole]
      have hpos : 0 < (g :: rest).countP Task.isWorker :=
        List.countP_pos_iff.mpr ⟨g, List.mem_cons_self, hworker⟩
      rw [hagreed.staged.worker, h.thread] at hpos
      exact absurd hpos (Nat.lt_irrefl 0)
  | destructor => exact h.tail

theorem Dark.step (hsound : Sound w) (h : Dark w.shared w.ghosts) (he : e.powers = false)
    (hstep : Step w e w') : Dark w'.shared w'.ghosts := by
  cases hstep with
  | enter henter =>
      refine Dark.perm ?_ (World.ghosts_spawn_perm _ _ _ _).symm
      cases henter with
      | call c hopen =>
          refine { h.enter (.call c) w.shared.nextNumber fun c' hc => ?_ with }
          cases hc
          cases c with
          | enable first second => cases he
          | _ => exact id
      | destructor =>
          have hnew := h.enter .destructor w.shared.nextNumber fun c' hc => by cases hc
          exact { hnew with }
      | worker hcreated =>
          rw [h.thread] at hcreated
          cases hcreated
  | @again i t g hi =>
      have hback : Dark w.shared (g.again :: w.others i) := by
        have hsplit := h.perm (World.ghosts_perm hi)
        exact hsplit.update hsplit.pipeline hsplit.thread rfl rfl
          (hsplit.enabling g List.mem_cons_self) (hsplit.waiting g List.mem_cons_self)
          hsplit.completed hsplit.finished
      exact hback.perm (World.ghosts_set_perm hi _ ⟨workerRound cfg g.number t, g.again⟩).symm
  | @run i result o k g r s hi heffect =>
      exact ((h.perm (World.ghosts_perm hi)).track (hsound.split hi) (hsound.fine.pre hi).1
        heffect).perm (World.ghosts_set_perm hi _ ⟨k r, g.track o r⟩).symm
  | finish hi => exact (h.perm (World.ghosts_perm hi)).finish (hsound.split hi) (hsound.fine.ret hi)
  | complete ht hflight hpolled =>
      rw [h.pipeline, h.others] at hpolled
      rcases hpolled with hno | hno <;> cases hno
  | others running =>
      cases running with
      | true => cases he
      | false => exact { h with others := rfl }

/-- A fill for which there is no memory, and one that is submitted. -/
def unpowered : List Event :=
  [.call (.draw (.fill 0) noMemory), .finish 0, .call (.draw (.fill 0xF800) .generous), .run 0 0,
    .run 0 0, .run 0 0, .run 0 0, .run 0 0]

theorem unpowered_happens : (after plainConfig unpowered).isSome = true := rfl

def unpoweredWorld : SdkWorld plainConfig := (after plainConfig unpowered).get unpowered_happens

end Pipelines

end RpUsbDisp.SdkDevice
