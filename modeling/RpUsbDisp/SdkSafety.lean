import RpUsbDisp.SdkInvariants

/-!
# A display is safe among its threads

What `reachable_sound` comes to for whoever uses or maintains the class, in every run: what
`statusLock_` guards is one thread's at a time (`status_guarded`), libusb never has a transfer that
somebody reads, frees or submits again (`transfers_owned`), `doEnable_` never moves a thread into
a `statusFetchingThread_` that has one (`status_thread_single`), and where `isAlive` says yes the
pipeline runs and the status thread has not ended (`alive_works`).

The destructor lets one more status packet through at most (`stops_after_one`), and waits for
everything that it pulls the ground from under (`destroyed_clean`).
-/

namespace RpUsbDisp.SdkDevice

open Programs Sdk StatusPackets Hotplug

variable {cfg : Config} {w w' : SdkWorld cfg} {e : Event}

section Asks

/-! ## What is asked -/

/-- Thread `i` is about to do `o`. -/
def Asks (w : SdkWorld cfg) (i : Nat) (o : SdkOp cfg) : Prop :=
  ∃ k g, w.threads[i]? = some ⟨.op o k, g⟩

variable {i j : Nat} {o o' : SdkOp cfg}

/-- What a thread is about to do is permitted, and it is one thread among others. -/
theorem Sound.asks (h : Sound w) (ho : Asks w i o) :
    ∃ g, g.Permits o ∧ (cfg.Quiet → g.holds = true → o.waits = false) ∧
      Agreed w.shared (g :: w.others i) ∧ g ∈ w.ghosts := by
  obtain ⟨k, g, hi⟩ := ho
  obtain ⟨hpermits, hquiet⟩ := h.fine.pre hi
  exact ⟨g, hpermits, hquiet, h.split hi, List.mem_map_of_mem (List.mem_of_getElem? hi)⟩

/-- What another thread is about to do. -/
theorem Sound.asks_other (h : Sound w) (ho : Asks w j o) (hne : j ≠ i) :
    ∃ g ∈ w.others i, g.Permits o := by
  obtain ⟨k, g, hj⟩ := ho
  have hmem : (⟨.op o k, g⟩ : Thread (SdkOp cfg) SdkOp.Res Outcome Task) ∈ w.threads.eraseIdx i :=
    List.mem_eraseIdx_iff_getElem?.mpr ⟨j, hne, hj⟩
  exact ⟨g, List.mem_map_of_mem hmem, (h.fine.pre hj).1⟩

end Asks

section Examples

/-! ## A display to try it on -/

/-- An environment without memory. -/
def noMemory : Environment where
  malloc := ⟨fun _ => false, fun _ h => by cases h⟩
  newArray := fun _ => false
  garbage := fun _ => 0
  displayStatus := 0
  transferAllocated := false
  submitAccepted := false

theorem plainPacketSize : INT_MIN ≤ 64 ∧ (64 : Int) ≤ INT_MAX := by decide

/-- A display whose callbacks do nothing. -/
def plainConfig : Config := ⟨.little, ⟨64, plainPacketSize⟩, 0x104, fun _ _ => [], .zeros⟩

/-- The world after some events. -/
def after (cfg : Config) (events : List Event) : Option (SdkWorld cfg) :=
  Runs.after nextWorld (constructed cfg 0) events

/-- Where the events can happen, the world after them is one that the display gets to. -/
theorem reachable_after {events : List Event} (h : (after cfg events).isSome = true) :
    Reachable ((after cfg events).get h) :=
  ⟨0, Runs.Run.of_after (Option.some_get h).symm⟩

/-- `doEnable_` up to where it creates the status thread. -/
def creating : List Event :=
  [.call (.enable noMemory noMemory), .run 0 0, .run 0 0, .run 0 0, .run 0 0]

/-- A status thread that is in its first round, after an `enable` that threw when it was to draw. -/
def fetching : List Event :=
  creating ++ [.run 0 0, .run 0 0, .run 0 0, .finish 0, .startWorker, .run 0 0, .run 0 0, .again 0,
    .run 0 0]

/-- The status thread about to store its first packet, with the lock, and a call that waits to read
the status. -/
def storing : List Event :=
  fetching ++ [.run 0 0, .complete 0 .completed ⟨[], Nat.zero_le _⟩, .run 0 0, .run 0 0, .run 0 0,
    .run 0 0, .call .getStatus]

/-- The destructor in the middle of a round, and the end of this round. -/
def stopping : List Event := fetching ++ [.dispose, .run 1 0]

def roundEnds : List Event :=
  [.run 0 0, .complete 0 .completed ⟨[], Nat.zero_le _⟩, .run 0 0, .run 0 0, .run 0 0, .run 0 0,
    .run 0 0]

/-- The status thread goes once more round and ends, and the destructor joins it. -/
def joining : List Event :=
  stopping ++ roundEnds ++
    [.run 0 0, .run 0 0, .again 0, .run 0 0, .run 0 0, .finish 0, .run 0 0, .run 0 0]

/-- The destructor to its end. -/
def destroying : List Event := joining ++ [.run 0 0, .run 0 0, .finish 0]

theorem creating_happens : (after plainConfig creating).isSome = true := rfl

theorem fetching_happens : (after plainConfig fetching).isSome = true := rfl

theorem storing_happens : (after plainConfig storing).isSome = true := rfl

theorem stopping_happens : (after plainConfig stopping).isSome = true := rfl

theorem joining_happens : (after plainConfig joining).isSome = true := rfl

theorem destroying_happens : (after plainConfig destroying).isSome = true := rfl

/-- The worlds after them. -/
def creatingWorld : SdkWorld plainConfig := (after plainConfig creating).get creating_happens

def fetchingWorld : SdkWorld plainConfig := (after plainConfig fetching).get fetching_happens

def storingWorld : SdkWorld plainConfig := (after plainConfig storing).get storing_happens

def stoppingWorld : SdkWorld plainConfig := (after plainConfig stopping).get stopping_happens

def joiningWorld : SdkWorld plainConfig := (after plainConfig joining).get joining_happens

def destroyedWorld : SdkWorld plainConfig := (after plainConfig destroying).get destroying_happens

theorem creatingWorld_reachable : Reachable creatingWorld := reachable_after creating_happens

theorem fetchingWorld_reachable : Reachable fetchingWorld := reachable_after fetching_happens

end Examples

section Guards

/-! ## The lock -/

/-- What `statusLock_` guards. -/
def SdkOp.guarded : SdkOp cfg → Bool
  | .unlockStatus | .loadStatus | .storeStatus _ | .loadCallback | .storeCallback _
  | .invokeCallback _ _ | .summonPipeline | .createThread => true
  | _ => false

theorem Task.Permits.holds {g : Task} {o : SdkOp cfg} (h : g.Permits o) (ho : o.guarded = true) :
    g.holds = true := by
  cases o with
  | unlockStatus => exact h
  | loadStatus => exact h
  | storeStatus => exact h.1
  | loadCallback => exact h
  | storeCallback => exact h
  | invokeCallback => exact h.1
  | summonPipeline => exact h.2
  | createThread => exact h.2
  | _ => cases ho

/-- **What `statusLock_` guards is one thread's.**  Whoever is about to touch the status or the
callback, to run a callback or to set `doEnable_`'s members does it with the lock taken, and nobody
else is about to do such a thing; and a lock that is taken is that of a thread that has not
ended. -/
theorem status_guarded (h : Reachable w) :
    (∀ i o, Asks w i o → o.guarded = true → w.shared.statusLock = true ∧
      ∀ j o', Asks w j o' → j ≠ i → o'.guarded = false) ∧
    (w.shared.statusLock = true →
      ∃ t ∈ w.threads, t.ghost.holds = true ∧ ∀ outcome, t.prog ≠ .ret outcome) := by
  have hsound := reachable_sound h
  constructor
  · intro i o ho hguarded
    obtain ⟨g, hpermits, _, hagreed, _⟩ := hsound.asks ho
    obtain ⟨htaken, hothers⟩ := hagreed.locked.alone (hpermits.holds hguarded)
    refine ⟨htaken, fun j o' ho' hne => Bool.eq_false_iff.mpr fun hguarded' => ?_⟩
    obtain ⟨u, hu, hpermits'⟩ := hsound.asks_other ho' hne
    have hholds := hpermits'.holds hguarded'
    rw [hothers u hu] at hholds
    cases hholds
  · intro htaken
    obtain ⟨g, hg, hholds⟩ := hsound.agreed.locked.taken htaken
    obtain ⟨t, ht, rfl⟩ := List.mem_map.mp hg
    refine ⟨t, ht, hholds, fun outcome hret => ?_⟩
    have hend := hsound.fine t ht
    rw [hret] at hend
    rw [EndsWell.released hend] at hholds
    cases hholds

/-- While the status thread stores a packet, the call has to wait. -/
theorem status_guarded_storing : Asks storingWorld 1 .lockStatus ∧
    (storingWorld.shared.statusLock = true ∧
      ∀ j o', Asks storingWorld j o' → j ≠ 0 → o'.guarded = false) ∧
    ∃ t ∈ storingWorld.threads, t.ghost.holds = true ∧ ∀ outcome, t.prog ≠ .ret outcome := by
  have hreachable : Reachable storingWorld := reachable_after storing_happens
  obtain ⟨hexclusive, hholder⟩ := status_guarded hreachable
  refine ⟨⟨_, _, rfl⟩, ?_, hholder rfl⟩
  exact hexclusive 0 (.storeStatus (decodeAsStatus .little
    (StatusBuffer.zeros.receive ⟨[], Nat.zero_le _⟩))) ⟨_, _, rfl⟩ rfl

end Guards

section Ownership

/-! ## The transfers -/

/-- What a thread does with a transfer that it has itself. -/
def SdkOp.touches : SdkOp cfg → Nat → Prop
  | .setTransferBuffer t, x => x = t
  | .submitStatus t, x => x = t
  | .submitDisplay t _, x => x = t
  | .transferStatus t, x => x = t
  | .decodeStatus t, x => x = t
  | .freeTransfer t, x => x = t
  | _, _ => False

/-- What a thread does with a transfer that it has given away. -/
def SdkOp.awaits : SdkOp cfg → Nat → Prop
  | .waitForCompletion t, x => x = t
  | _, _ => False

theorem Task.Permits.idle {g : Task} {o : SdkOp cfg} (h : g.Permits o) {x : Nat}
    (ho : o.touches x) : x ∈ g.idle := by
  cases o with
  | setTransferBuffer t =>
      obtain rfl : x = t := ho
      exact h
  | submitStatus t =>
      obtain rfl : x = t := ho
      exact h.1
  | submitDisplay t sent =>
      obtain rfl : x = t := ho
      exact h.1
  | transferStatus t =>
      obtain rfl : x = t := ho
      exact h
  | decodeStatus t =>
      obtain rfl : x = t := ho
      exact h
  | freeTransfer t =>
      obtain rfl : x = t := ho
      exact h
  | _ => exact ho.elim

theorem Task.Permits.flying {g : Task} {o : SdkOp cfg} (h : g.Permits o) {x : Nat}
    (ho : o.awaits x) : x ∈ g.flying := by
  cases o with
  | waitForCompletion t =>
      obtain rfl : x = t := ho
      exact h.1
  | _ => exact ho.elim

/-- Either way the transfer is the thread's. -/
theorem Task.Permits.owns {g : Task} {o : SdkOp cfg} (h : g.Permits o) {x : Nat}
    (ho : o.touches x ∨ o.awaits x) : x ∈ g.transfers := by
  rcases ho with ho | ho
  · exact List.mem_append_left _ (h.idle ho)
  · exact List.mem_append_right _ (h.flying ho)

end Ownership

section Enabling

/-! ## The status thread -/

/-- The threads that are the status thread. -/
def statusThreads (w : SdkWorld cfg) : Nat := w.ghosts.countP Task.isWorker

/-- **There is one status thread.**  `doEnable_` creates it where there is none yet, with the
pipeline running and `working_` set; it runs while `statusFetchingThread_` says so, and nobody else
does.  As long as the flag of `call_once` is fresh there is none, so a failed `enable` can be
repeated; when an `enable` has returned there is one, and the pipeline runs until the destructor
is called. -/
theorem status_thread_single (h : Reachable w) :
    (∀ i, Asks w i .createThread →
      w.shared.statusThread = .none ∧ w.shared.pipeline = true ∧ w.shared.working = true) ∧
    statusThreads w = (if w.shared.statusThread = .running then 1 else 0) ∧
    (w.shared.once = .fresh → w.shared.statusThread = .none) ∧
    (∀ f ∈ w.shared.finished, f.call.Passes f.outcome →
      w.shared.statusThread ≠ .none ∧
        (w.shared.disposing = false → w.shared.statusThread ≠ .joined ∧ w.shared.pipeline = true)) := by
  have hsound := reachable_sound h
  have hstaged := hsound.agreed.staged
  refine ⟨fun i ho => ?_, ?_, hstaged.fresh, fun f hf hpasses => ?_⟩
  · obtain ⟨g, hpermits, _, _, hg⟩ := hsound.asks ho
    have hneeds := hstaged.needs g hg
    rwa [hpermits.1] at hneeds
  · rw [statusThreads, hstaged.worker]
    by_cases hrunning : w.shared.statusThread = .running <;> simp [hrunning]
  · have hthread := hstaged.done (hstaged.returned f hf hpasses)
    refine ⟨hthread, fun hopen => ?_⟩
    have hjoined : w.shared.statusThread ≠ .joined := by
      intro hjoined
      rw [hstaged.joined hjoined] at hopen
      cases hopen
    exact ⟨hjoined, hstaged.live hthread hjoined⟩

theorem status_thread_single_creating : creatingWorld.shared.statusThread = .none ∧
    creatingWorld.shared.pipeline = true ∧ creatingWorld.shared.working = true :=
  (status_thread_single creatingWorld_reachable).1 0 ⟨_, _, rfl⟩

end Enabling

section Ending

/-! ## The destructor -/

theorem Task.cases_role (g : Task) :
    g.isCall = true ∨ g.isWorker = true ∨ g.isDestructor = true := by
  unfold Task.isCall Task.isWorker Task.isDestructor
  cases g.role <;> simp

/-- The destructor has been called and is over. -/
def Destroyed (w : SdkWorld cfg) : Prop :=
  w.shared.disposing = true ∧ ∀ g ∈ w.ghosts, g.isDestructor = false

/-- Where the status thread is gone and nobody calls any more, only the destructor is left. -/
theorem Staged.only_destructor {s : State cfg} {gs : List Task} (h : Staged s gs) (hdisposing : s.disposing = true)
    (hgone : s.statusThread = .none ∨ s.statusThread = .joined) :
    ∀ g ∈ gs, g.isDestructor = true := by
  intro g hg
  rcases g.cases_role with hcall | hworker | hdestructor
  · rw [h.closed hdisposing g hg] at hcall
    cases hcall
  · have hpos : 0 < gs.countP Task.isWorker := List.countP_pos_iff.mpr ⟨g, hg, hworker⟩
    have hnone : decide (s.statusThread = .running) = false := by
      rcases hgone with hgone | hgone <;> rw [hgone] <;> rfl
    rw [h.worker, hnone] at hpos
    exact absurd hpos (Nat.lt_irrefl 0)
  · exact hdestructor

theorem Destroyed.empty (h : Sound w) (hover : Destroyed w) :
    w.threads = [] ∧ Stage.released.Needs w.shared := by
  have hstaged := h.agreed.staged
  have hzero : w.ghosts.countP Task.isDestructor = 0 :=
    List.countP_eq_zero.mpr fun g hg => Bool.eq_false_iff.mp (hover.2 g hg)
  have hneeds := hstaged.left hover.1 hzero
  have hnone : w.ghosts = [] := by
    refine List.eq_nil_iff_forall_not_mem.mpr fun g hg => ?_
    have hrole := hstaged.only_destructor hover.1 hneeds.2.1 g hg
    rw [hover.2 g hg] at hrole
    cases hrole
  exact ⟨List.map_eq_nil_iff.mp hnone, hneeds⟩

/-- Nothing happens to a display that is gone. -/
theorem Destroyed.step (h : Sound w) (hover : Destroyed w) (hstep : Step w e w') :
    Destroyed w' := by
  obtain ⟨hempty, _, hthread, _⟩ := hover.empty h
  have hnobody : ∀ {i : Nat} {t}, w.threads[i]? = some t → False := by
    intro i t hi
    rw [hempty] at hi
    cases hi
  cases hstep with
  | enter henter =>
      cases henter with
      | call c hopen =>
          rw [hover.1] at hopen
          cases hopen
      | destructor hopen =>
          rw [hover.1] at hopen
          cases hopen
      | worker hcreated =>
          rw [hcreated] at hthread
          rcases hthread with hno | hno <;> cases hno
  | again hi => exact (hnobody hi).elim
  | run hi => exact (hnobody hi).elim
  | finish hi => exact (hnobody hi).elim
  | complete => exact hover
  | others => exact hover

/-- The status thread at a point of its round. -/
def Task.at (g : Task) (rounds : List Round) : Bool := g.isWorker && rounds.contains g.round

/-- What is still to come of the status thread: a packet, and a callback. -/
def toPublish (gs : List Task) : Nat := gs.countP fun g => g.at [.looked]

def toCall (gs : List Task) : Nat := gs.countP fun g => g.at [.looked, .published]

/-- After the destructor has told the status thread to stop. -/
structure Stopping (before : SdkWorld cfg) (w : SdkWorld cfg) : Prop where
  disposing : w.shared.disposing = true
  working : w.shared.working = false
  published : ∃ more, w.shared.published = before.shared.published ++ more ∧
    more.length + toPublish w.ghosts ≤ 1
  invoked : ∃ more, w.shared.invoked = before.shared.invoked ++ more ∧
    more.length + toCall w.ghosts ≤ 1

/-- What one thread does about it. -/
theorem pending_cons {g g' : Task} (rest : List Task) {n : Nat} (rounds : List Round)
    (h : n + (g'.at rounds).toNat ≤ (g.at rounds).toNat) :
    n + (g' :: rest).countP (fun u => u.at rounds) ≤ (g :: rest).countP fun u => u.at rounds := by
  rw [List.countP_cons, List.countP_cons]
  cases hg : g.at rounds <;> cases hg' : g'.at rounds <;> rw [hg, hg'] at h <;>
    simp only [Bool.toNat_true, Bool.toNat_false] at h <;> simp only [if_true, Bool.false_eq_true, if_false] <;>
    omega

theorem Task.at_of_round {g g' : Task} (hrole : g'.role = g.role) (hround : g'.round = g.round)
    (rounds : List Round) : g'.at rounds = g.at rounds := by
  rw [Task.at, Task.at, hround, Task.isWorker, hrole, ← Task.isWorker]

/-- **One operation**, when the status thread is to stop: what is published and what is called was to
come. -/
theorem pending_track {s s' : State cfg} {g : Task} {o : SdkOp cfg} {r : o.Res} (rest : List Task)
    (hpre : g.Permits o) (heffect : Effect s o r s') (hstopped : s.working = false) :
    (∃ more, s'.published = s.published ++ more ∧
      more.length + toPublish (g.track o r :: rest) ≤ toPublish (g :: rest)) ∧
    ∃ more, s'.invoked = s.invoked ++ more ∧
      more.length + toCall (g.track o r :: rest) ≤ toCall (g :: rest) := by
  have hstays : ∀ {g' : Task}, (∀ rounds, .stopped ∉ rounds →
        (g'.at rounds).toNat ≤ (g.at rounds).toNat) →
      s'.published = s.published → s'.invoked = s.invoked →
      (∃ more, s'.published = s.published ++ more ∧
        more.length + toPublish (g' :: rest) ≤ toPublish (g :: rest)) ∧
      ∃ more, s'.invoked = s.invoked ++ more ∧
        more.length + toCall (g' :: rest) ≤ toCall (g :: rest) := by
    intro g' hless hpublished hinvoked
    refine ⟨⟨[], by rw [hpublished, List.append_nil], ?_⟩, [], by rw [hinvoked, List.append_nil], ?_⟩
    · exact pending_cons rest _ (by simpa using hless [.looked] (by simp))
    · exact pending_cons rest _ (by simpa using hless [.looked, .published] (by simp))
  -- a status thread that has seen the end
  have hends : ∀ {g' : Task}, g'.round = .stopped → ∀ rounds, .stopped ∉ rounds →
      (g'.at rounds).toNat ≤ (g.at rounds).toNat := by
    intro g' hround rounds hnot
    have hno : rounds.contains .stopped = false := by simpa using hnot
    rw [Task.at, hround, hno, Bool.and_false]
    exact Nat.zero_le _
  cases ho : o.looks with
  | false =>
      obtain ⟨hpublished, hinvoked⟩ := heffect.published_same ho
      refine hstays (fun rounds _ => ?_) hpublished hinvoked
      rw [Task.at_of_round (Task.track_role g o r) (Task.track_round ho)]
  | true =>
      cases heffect with
      | testWorking =>
          refine hstays (hends ?_) rfl rfl
          show (if s.working then Round.looked else Round.stopped) = .stopped
          rw [hstopped]
          rfl
      | storeWorking working =>
          refine hstays (fun rounds hnot => ?_) rfl rfl
          cases working with
          | true => exact Nat.le_refl _
          | false =>
              simp only [Task.track]
              split
              · exact Nat.le_refl _
              · exact hends rfl rounds hnot
      | storeStatus status =>
          obtain ⟨_, hrole, hround⟩ := hpre
          have hworker : g.isWorker = true := by rw [Task.isWorker, hrole]
          refine ⟨⟨[status], rfl, pending_cons rest _ ?_⟩, [], (List.append_nil _).symm,
            pending_cons rest _ ?_⟩
          · simp [Task.at, Task.track, hround, hworker]
          · have hbefore : g.at [.looked, .published] = true := by simp [Task.at, hround, hworker]
            rw [hbefore, List.length_nil, Nat.zero_add]
            exact Bool.toNat_le _
      | invokeCallback callback status =>
          obtain ⟨_, hrole, hround⟩ := hpre
          have hworker : g.isWorker = true := by rw [Task.isWorker, hrole]
          refine ⟨⟨[], (List.append_nil _).symm, pending_cons rest _ ?_⟩, [(callback, status)], rfl,
            pending_cons rest _ ?_⟩
          · simp [Task.at, Task.track, hround]
          · simp [Task.at, Task.track, hround, hworker]
      | _ => cases ho

/-- The order of the threads does not matter. -/
theorem Stopping.of_counts {before w w' : SdkWorld cfg} (h : Stopping before w)
    (hdisposing : w'.shared.disposing = true) (hworking : w'.shared.working = false)
    (hpublished : ∃ more, w'.shared.published = w.shared.published ++ more ∧
      more.length + toPublish w'.ghosts ≤ toPublish w.ghosts)
    (hinvoked : ∃ more, w'.shared.invoked = w.shared.invoked ++ more ∧
      more.length + toCall w'.ghosts ≤ toCall w.ghosts) : Stopping before w' := by
  obtain ⟨published, hp, hple⟩ := h.published
  obtain ⟨invoked, hi, hile⟩ := h.invoked
  obtain ⟨more, hmore, hless⟩ := hpublished
  obtain ⟨calls, hcalls, hfewer⟩ := hinvoked
  refine ⟨hdisposing, hworking, ⟨published ++ more, ?_, ?_⟩, invoked ++ calls, ?_, ?_⟩
  · rw [hmore, hp, List.append_assoc]
  · rw [List.length_append]
    omega
  · rw [hcalls, hi, List.append_assoc]
  · rw [List.length_append]
    omega

/-- Nobody sets `working_` again once the destructor has been called. -/
theorem Staged.stays_stopped {s s' : State cfg} {g : Task} {rest : List Task} {o : SdkOp cfg}
    {r : o.Res} (h : Staged s (g :: rest)) (hpre : g.Permits o) (heffect : Effect s o r s')
    (hdisposing : s.disposing = true) (hstopped : s.working = false) : s'.working = false := by
  cases ho : o.moves with
  | false => exact (heffect.stage_same ho).working.trans hstopped
  | true =>
      cases heffect with
      | storeWorking working =>
          cases working with
          | false => rfl
          | true =>
              have hstage : g.stage = .summoned := hpre.1
              have henabling : g.enabling = true := by rw [Task.enabling, hstage]
              rw [(h.enables_alone henabling).1] at hdisposing
              cases hdisposing
      | _ => exact hstopped

theorem Stopping.step {before w w' : SdkWorld cfg} (hsound : Sound w) (h : Stopping before w)
    (hstep : Step w e w') : Stopping before w' := by
  -- nobody has come nearer to publishing anything
  have hfewer : (∀ rounds, .fresh ∉ rounds →
        w'.ghosts.countP (fun u => u.at rounds) ≤ w.ghosts.countP fun u => u.at rounds) →
      w'.shared.disposing = true → w'.shared.working = false →
      w'.shared.published = w.shared.published → w'.shared.invoked = w.shared.invoked →
      Stopping before w' := by
    intro hle hdisposing hworking hpublished hinvoked
    refine h.of_counts hdisposing hworking ⟨[], by rw [hpublished, List.append_nil], ?_⟩
      ⟨[], by rw [hinvoked, List.append_nil], ?_⟩
    · rw [List.length_nil, Nat.zero_add]
      exact hle _ (by simp)
    · rw [List.length_nil, Nat.zero_add]
      exact hle _ (by simp)
  have hfresh : ∀ {g : Task}, g.round = .fresh → ∀ rounds, .fresh ∉ rounds → g.at rounds = false := by
    intro g hround rounds hnot
    have hno : rounds.contains .fresh = false := by simpa using hnot
    rw [Task.at, hround, hno, Bool.and_false]
  cases hstep with
  | @enter e role prog s henter =>
      have hcount : ∀ rounds, .fresh ∉ rounds →
          (w.ghosts ++ [Task.start role s.nextNumber]).countP (fun u => u.at rounds) ≤
            w.ghosts.countP fun u => u.at rounds := by
        intro rounds hnot
        rw [List.countP_append, List.countP_singleton, hfresh rfl rounds hnot]
        exact Nat.le_refl _
      have hghosts : (enter { w with shared := s } role prog).ghosts =
          w.ghosts ++ [Task.start role s.nextNumber] := by
        simp [enter, World.ghosts, World.spawn]
      rw [hghosts] at hfewer
      cases henter with
      | call c hopen =>
          rw [h.disposing] at hopen
          cases hopen
      | destructor hopen =>
          rw [h.disposing] at hopen
          cases hopen
      | worker hcreated => exact hfewer hcount h.disposing h.working rfl rfl
  | @again i t g hi =>
      refine hfewer (fun rounds hnot => ?_) h.disposing h.working rfl rfl
      rw [(World.ghosts_perm hi).countP_eq,
        (World.ghosts_set_perm hi _ ⟨workerRound cfg g.number t, g.again⟩).countP_eq,
        List.countP_cons, hfresh rfl rounds hnot]
      exact (List.sublist_cons_self _ _).countP_le
  | @run i result o k g r s hi heffect =>
      have hpre := (hsound.fine.pre hi).1
      obtain ⟨hpublished, hinvoked⟩ := pending_track (w.others i) hpre heffect h.working
      have hperm := World.ghosts_perm hi
      have hperm' := World.ghosts_set_perm hi s ⟨k r, g.track o r⟩
      have hpublish : toPublish w.ghosts = toPublish (g :: w.others i) := hperm.countP_eq _
      have hpublish' : toPublish (World.ghosts ⟨s, w.threads.set i ⟨k r, g.track o r⟩⟩) =
          toPublish (g.track o r :: w.others i) := hperm'.countP_eq _
      have hcall : toCall w.ghosts = toCall (g :: w.others i) := hperm.countP_eq _
      have hcall' : toCall (World.ghosts ⟨s, w.threads.set i ⟨k r, g.track o r⟩⟩) =
          toCall (g.track o r :: w.others i) := hperm'.countP_eq _
      refine h.of_counts (heffect.threads_same.1.trans h.disposing) ?_ ?_ ?_
      · exact (hsound.split hi).staged.stays_stopped hpre heffect h.disposing h.working
      · rw [hpublish, hpublish']
        exact hpublished
      · rw [hcall, hcall']
        exact hinvoked
  | @finish i outcome g hi hlast =>
      refine hfewer (fun rounds _ => ?_) ?_ ?_ ?_ ?_
      · rw [(World.ghosts_perm hi).countP_eq]
        exact (List.sublist_cons_self _ _).countP_le
      all_goals unfold State.retire
      · split <;> exact h.disposing
      · split <;> exact h.working
      · split <;> rfl
      · split <;> rfl
  | complete => exact hfewer (fun _ _ => Nat.le_refl _) h.disposing h.working rfl rfl
  | others => exact hfewer (fun _ _ => Nat.le_refl _) h.disposing h.working rfl rfl

/-- **The destructor stops the status thread.**  Once it has been called and `working_` is not set,
one more status packet is published at most and the callback is called once more at most,
whatever happens afterwards. -/
theorem stops_after_one (h : Reachable w) (hdisposing : w.shared.disposing = true)
    (hstopped : w.shared.working = false) (hlater : Later w w') :
    (∃ more, w'.shared.published = w.shared.published ++ more ∧ more.length ≤ 1) ∧
      ∃ more, w'.shared.invoked = w.shared.invoked ++ more ∧ more.length ≤ 1 := by
  have hsound := reachable_sound h
  have hone : w.ghosts.countP Task.isWorker ≤ 1 := by
    rw [hsound.agreed.staged.worker]
    exact Bool.toNat_le _
  have hfew : ∀ rounds, w.ghosts.countP (fun u => u.at rounds) ≤ 1 := by
    intro rounds
    refine Nat.le_trans (List.countP_mono_left fun u _ hu => ?_) hone
    exact (Bool.and_eq_true_iff.mp hu).1
  have hnow : Stopping w w := by
    refine ⟨hdisposing, hstopped, ⟨[], (List.append_nil _).symm, ?_⟩, [], (List.append_nil _).symm, ?_⟩
    · rw [List.length_nil, Nat.zero_add]
      exact hfew _
    · rw [List.length_nil, Nat.zero_add]
      exact hfew _
  have hstill : Sound w' ∧ Stopping w w' := by
    refine Later.invariant (I := fun x => Sound x ∧ Stopping w x) ⟨hsound, hnow⟩ ?_ hlater
    exact fun x y _ hx _ hstep => ⟨hx.1.step hstep, hx.2.step hx.1 hstep⟩
  obtain ⟨published, hp, hple⟩ := hstill.2.published
  obtain ⟨invoked, hi, hile⟩ := hstill.2.invoked
  exact ⟨⟨published, hp, by omega⟩, invoked, hi, by omega⟩

theorem roundEnds_happens : (Runs.after nextWorld stoppingWorld roundEnds).isSome = true := rfl

theorem stops_after_one_packet : ∃ w', Later stoppingWorld w' ∧ w'.shared.published.length = 1 ∧
    ∃ more, w'.shared.published = stoppingWorld.shared.published ++ more ∧ more.length ≤ 1 := by
  have hlater : Later stoppingWorld ((Runs.after nextWorld stoppingWorld roundEnds).get
      roundEnds_happens) := Runs.Run.of_after (Option.some_get _).symm
  exact ⟨_, hlater, rfl, (stops_after_one (reachable_after stopping_happens) rfl rfl hlater).1⟩

end Ending

section Liveliness

/-! ## `isAlive` -/

/-- What `working_` says. -/
structure Halted (s : State cfg) (gs : List Task) : Prop where
  stopped : ∀ g ∈ gs, g.isWorker = true → g.round = .stopped → s.working = false
  ended : s.statusThread = .ended ∨ s.statusThread = .joined → s.working = false
  piped : s.working = true → s.pipeline = true

variable {s s' : State cfg} {g g' : Task} {gs rest : List Task}

/-- A thread gets on, and nobody sets `working_`. -/
theorem Halted.update (h : Halted s (g :: rest)) (hworking : s.working = false → s'.working = false)
    (hmine : g'.isWorker = true → g'.round = .stopped → s'.working = false)
    (hended : s'.statusThread = .ended ∨ s'.statusThread = .joined → s'.working = false)
    (hpiped : s'.working = true → s'.pipeline = true) : Halted s' (g' :: rest) where
  stopped := List.forall_mem_cons.mpr ⟨hmine, fun u hu hworker hround =>
    hworking (h.stopped u (List.mem_cons_of_mem _ hu) hworker hround)⟩
  ended := hended
  piped := hpiped

/-- **One operation** of a thread. -/
theorem Halted.track {o : SdkOp cfg} {r : o.Res} (h : Halted s (g :: rest))
    (hstaged : Staged s (g :: rest)) (hpre : g.Permits o) (heffect : Effect s o r s') :
    Halted s' (g.track o r :: rest) := by
  have hmine : o.looks = false → (g.track o r).isWorker = true → (g.track o r).round = .stopped →
      s.working = false := by
    intro ho hworker hround
    rw [Task.isWorker, Task.track_role, ← Task.isWorker] at hworker
    rw [Task.track_round ho] at hround
    exact h.stopped g List.mem_cons_self hworker hround
  cases heffect with
  | summonPipeline => exact h.update id (hmine rfl) h.ended fun _ => rfl
  | testWorking =>
      refine h.update id (fun _ hround => ?_) h.ended h.piped
      cases hworking : s.working with
      | false => rfl
      | true =>
          simp only [Task.track, hworking] at hround
          cases hround
  | storeWorking working =>
      cases working with
      | true =>
          have hneeds := hstaged.needs g List.mem_cons_self
          rw [hpre.1] at hneeds
          obtain ⟨hthread, hpipeline⟩ := hneeds
          refine ⟨fun u hu hworker => ?_, fun hgone => ?_, fun _ => hpipeline⟩
          · have hpos : 0 < (g :: rest).countP Task.isWorker := by
              rcases List.mem_cons.mp hu with rfl | hu
              · exact List.countP_pos_iff.mpr ⟨g, List.mem_cons_self, hworker⟩
              · exact List.countP_pos_iff.mpr ⟨u, List.mem_cons_of_mem _ hu, hworker⟩
            rw [hstaged.worker, hthread] at hpos
            exact absurd hpos (Nat.lt_irrefl 0)
          · rcases hgone with hgone | hgone
            · exact absurd (hthread.symm.trans hgone) (by simp)
            · exact absurd (hthread.symm.trans hgone) (by simp)
      | false => exact h.update (fun _ => rfl) (fun _ _ => rfl) (fun _ => rfl) fun hw => by cases hw
  | createThread =>
      refine h.update id (hmine rfl) (fun hgone => ?_) h.piped
      rcases hgone with hgone | hgone <;> cases hgone
  | join hended => exact h.update id (hmine rfl) (fun _ => h.ended (Or.inl hended)) h.piped
  | releasePipeline =>
      have hneeds := hstaged.needs g List.mem_cons_self
      rw [hpre.2.1] at hneeds
      refine h.update id (hmine rfl) h.ended fun hworking => ?_
      rw [hneeds.1] at hworking
      cases hworking
  | storeStatus status =>
      exact h.update id (fun _ hround => by cases hround) h.ended h.piped
  | invokeCallback callback status =>
      exact h.update id (fun _ hround => by cases hround) h.ended h.piped
  | _ => exact h.update id (hmine rfl) h.ended h.piped

theorem Halted.same (h : Halted s gs) (hs : s.SameStage s') : Halted s' gs where
  stopped := by
    rw [hs.working]
    exact h.stopped
  ended := by
    rw [hs.working, hs.statusThread]
    exact h.ended
  piped := by
    rw [hs.working, hs.pipeline]
    exact h.piped

theorem Halted.perm (h : Halted s gs) (hperm : gs.Perm rest) : Halted s rest :=
  ⟨fun g hg => h.stopped g (hperm.mem_iff.mpr hg), h.ended, h.piped⟩

/-- A thread that has not seen the end. -/
theorem Halted.cons (h : Halted s gs) (hround : g.round ≠ .stopped) : Halted s (g :: gs) :=
  ⟨List.forall_mem_cons.mpr ⟨fun _ hr => absurd hr hround, h.stopped⟩, h.ended, h.piped⟩

theorem Halted.tail (h : Halted s (g :: rest)) : Halted s rest :=
  ⟨fun u hu => h.stopped u (List.mem_cons_of_mem _ hu), h.ended, h.piped⟩

/-- The status thread ends when it has seen the end. -/
theorem Halted.finish (h : Halted s (g :: rest)) {outcome : Outcome} (hends : EndsWell outcome g)
    (hlast : ∀ t, outcome ≠ .again t) : Halted (s.retire g outcome) rest := by
  have hend := hends.ends
  unfold State.retire
  cases hrole : g.role with
  | call c => exact h.tail.same ⟨rfl, rfl, rfl, rfl⟩
  | destructor => exact h.tail
  | worker =>
      have hworker : g.isWorker = true := by rw [Task.isWorker, hrole]
      rw [hrole] at hend
      cases outcome with
      | again t => exact absurd rfl (hlast t)
      | ended =>
          have hstopped := h.stopped g List.mem_cons_self hworker hend.2.2
          exact ⟨h.tail.stopped, fun _ => hstopped, h.piped⟩
      | _ => exact hend.elim

theorem Halted.step (hsound : Sound w) (h : Halted w.shared w.ghosts) (hstep : Step w e w') :
    Halted w'.shared w'.ghosts := by
  cases hstep with
  | @enter e role prog s henter =>
      have hnew : Halted w.shared (Task.start role s.nextNumber :: w.ghosts) := h.cons (by simp [Task.start])
      refine Halted.perm ?_ (World.ghosts_spawn_perm _ _ _ _).symm
      cases henter with
      | call c hopen => exact hnew.same ⟨rfl, rfl, rfl, rfl⟩
      | destructor hopen hnone => exact hnew.same ⟨rfl, rfl, rfl, rfl⟩
      | worker hcreated =>
          refine ⟨hnew.stopped, fun hgone => ?_, hnew.piped⟩
          rcases hgone with hgone | hgone <;> cases hgone
  | @again i t g hi =>
      have hround : g.again.round ≠ .stopped := by simp [Task.again]
      exact ((h.perm (World.ghosts_perm hi)).tail.cons hround).perm
        (World.ghosts_set_perm hi _ ⟨workerRound cfg g.number t, g.again⟩).symm
  | @run i result o k g r s hi heffect =>
      have hstaged := (hsound.split hi).staged
      exact ((h.perm (World.ghosts_perm hi)).track hstaged (hsound.fine.pre hi).1 heffect).perm
        (World.ghosts_set_perm hi _ ⟨k r, g.track o r⟩).symm
  | finish hi hlast => exact (h.perm (World.ghosts_perm hi)).finish (hsound.fine.ret hi) hlast
  | complete => exact h.same ⟨rfl, rfl, rfl, rfl⟩
  | others => exact h.same ⟨rfl, rfl, rfl, rfl⟩

/-- A status thread that has ended stays so. -/
theorem Sound.stays_gone (h : Sound w)
    (hgone : w.shared.statusThread = .ended ∨ w.shared.statusThread = .joined) (hstep : Step w e w') :
    w'.shared.statusThread = .ended ∨ w'.shared.statusThread = .joined := by
  cases hstep with
  | enter henter =>
      cases henter with
      | call => exact hgone
      | destructor => exact hgone
      | worker hcreated =>
          rw [hcreated] at hgone
          rcases hgone with hno | hno <;> cases hno
  | again hi => exact hgone
  | run hi heffect =>
      have hneeds := (h.split hi).staged.needs _ List.mem_cons_self
      have hpre := (h.fine.pre hi).1
      cases heffect with
      | createThread =>
          rw [hpre.1] at hneeds
          rw [hneeds.1] at hgone
          rcases hgone with hno | hno <;> cases hno
      | join hended => exact Or.inr rfl
      | _ => exact hgone
  | finish hi hlast =>
      show (State.retire _ _ _).statusThread = _ ∨ _
      unfold State.retire
      split
      · exact hgone
      · exact Or.inl rfl
      · exact hgone
  | complete => exact hgone
  | others => exact hgone

/-- **What `isAlive` says.**  Where `working_` is set, the pipeline runs and the status thread has not
ended, if one was created.  When it ends `working_` is not set, whether the destructor or a failed
submission was the reason, and stays so. -/
theorem alive_works (h : Reachable w) :
    (w.shared.working = true → w.shared.pipeline = true ∧
      w.shared.statusThread ≠ .ended ∧ w.shared.statusThread ≠ .joined) ∧
    (w.shared.statusThread = .ended ∨ w.shared.statusThread = .joined →
      ∀ w', Later w w' → w'.shared.working = false) := by
  have hhalted : ∀ {x : SdkWorld cfg}, Reachable x → Halted x.shared x.ghosts := by
    intro x hx
    have hboth : Sound x ∧ Halted x.shared x.ghosts := by
      refine Reachable.invariant (I := fun x => Sound x ∧ Halted x.shared x.ghosts) ?_ ?_ hx
      · refine fun packetType => ⟨sound_constructed packetType, ⟨fun g hg => ?_, fun _ => rfl, ?_⟩⟩
        · cases hg
        · exact fun hworking => by cases hworking
      · exact fun x y _ hx _ hstep => ⟨hx.1.step hstep, hx.2.step hx.1 hstep⟩
    exact hboth.2
  have hnot : ∀ {x : SdkWorld cfg}, Reachable x →
      x.shared.statusThread = .ended ∨ x.shared.statusThread = .joined → x.shared.working = false :=
    fun hx => (hhalted hx).ended
  refine ⟨fun hworking => ⟨(hhalted h).piped hworking, fun hended => ?_, fun hjoined => ?_⟩, ?_⟩
  · rw [hnot h (Or.inl hended)] at hworking
    cases hworking
  · rw [hnot h (Or.inr hjoined)] at hworking
    cases hworking
  · intro hgone w' hlater
    refine hnot (h.later hlater) (Later.invariant
      (I := fun x => Sound x ∧ (x.shared.statusThread = .ended ∨ x.shared.statusThread = .joined))
      ⟨reachable_sound h, hgone⟩ ?_ hlater).2
    exact fun x y _ hx _ hstep => ⟨hx.1.step hstep, hx.1.stays_gone hx.2 hstep⟩

theorem alive_works_creating : creatingWorld.shared.pipeline = true :=
  ((alive_works creatingWorld_reachable).1 rfl).1

end Liveliness

end RpUsbDisp.SdkDevice
