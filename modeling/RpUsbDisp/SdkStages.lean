import RpUsbDisp.SdkThreads

/-!
# How far the threads of a display have got

What one operation leaves as it is, and two of the things that the shared state and the threads
of a display have to do with each other, in whatever order the threads are:

* `Locked`: exactly one thread has `statusLock_` when it is taken, and none when it is not;
* `Staged`: one thread at most is in the function of `call_once`, there is one status thread
  while `statusThread_` says so, and what every thread relies on at its stage (`Stage.Needs`)
  holds.

Both say what one operation does to them (`Locked.track`, `Staged.track`); `Staged` also says
what becomes of it when a thread enters or ends.
-/

namespace RpUsbDisp.SdkDevice

open Programs Sdk StatusPackets Hotplug

variable {cfg : Config} {s s' : State cfg} {g g' : Task} {gs rest : List Task}

section Frames

/-! ## What an operation leaves as it is -/

/-- The operations on `statusLock_`. -/
def SdkOp.locks : SdkOp cfg → Bool
  | .lockStatus | .unlockStatus => true
  | _ => false

/-- The operations on what says how far the threads have got. -/
def SdkOp.moves : SdkOp cfg → Bool
  | .onceBegin | .onceEnd _ | .summonPipeline | .storeWorking _ | .createThread | .joinable | .join
  | .releasePipeline => true
  | _ => false

/-- The operations on transfers. -/
def SdkOp.handles : SdkOp cfg → Bool
  | .allocTransfer | .submitStatus _ | .submitDisplay _ _ | .waitForCompletion _
  | .freeTransfer _ => true
  | _ => false

/-- The operations that say how far the status thread has got with a round. -/
def SdkOp.looks : SdkOp cfg → Bool
  | .testWorking | .storeStatus _ | .invokeCallback _ _ | .storeWorking _ => true
  | _ => false

/-- The submission of a command. -/
def SdkOp.draws : SdkOp cfg → Bool
  | .submitDisplay _ _ => true
  | _ => false

variable {o : SdkOp cfg} {r : o.Res}

@[simp] theorem Task.track_role (g : Task) (o : SdkOp cfg) (r : o.Res) :
    (g.track o r).role = g.role := by
  unfold Task.track
  split <;> (try split) <;> rfl

@[simp] theorem Task.track_number (g : Task) (o : SdkOp cfg) (r : o.Res) :
    (g.track o r).number = g.number := by
  unfold Task.track
  split <;> (try split) <;> rfl

theorem Task.track_holds (h : o.locks = false) : (g.track o r).holds = g.holds := by
  unfold Task.track
  split <;> first | rfl | (split <;> rfl) | cases h

theorem Task.track_stage (h : o.moves = false) :
    (g.track o r).stage = g.stage ∧ (g.track o r).passed = g.passed := by
  unfold Task.track
  split <;> first | exact ⟨rfl, rfl⟩ | (split <;> exact ⟨rfl, rfl⟩) | cases h

theorem Task.track_transfers (h : o.handles = false) :
    (g.track o r).idle = g.idle ∧ (g.track o r).flying = g.flying := by
  unfold Task.track
  split <;> first | exact ⟨rfl, rfl⟩ | (split <;> exact ⟨rfl, rfl⟩) | cases h

theorem Task.track_round (h : o.looks = false) : (g.track o r).round = g.round := by
  unfold Task.track
  split <;> first | rfl | (split <;> rfl) | cases h

theorem Task.track_submitted (h : o.draws = false) :
    (g.track o r).submitted = g.submitted := by
  unfold Task.track
  split <;> first | rfl | (split <;> rfl) | cases h

theorem Effect.lock_same (h : Effect s o r s') (ho : o.locks = false) :
    s'.statusLock = s.statusLock := by
  cases h <;> first | rfl | cases ho

/-- What the operations that do not move anybody leave as it is. -/
structure State.SameStage (s s' : State cfg) : Prop where
  once : s'.once = s.once
  working : s'.working = s.working
  statusThread : s'.statusThread = s.statusThread
  pipeline : s'.pipeline = s.pipeline

theorem Effect.stage_same (h : Effect s o r s') (ho : o.moves = false) : s.SameStage s' := by
  cases h <;> first | exact ⟨rfl, rfl, rfl, rfl⟩ | cases ho

theorem Effect.transfers_same (h : Effect s o r s') (ho : o.handles = false) :
    s'.transfers = s.transfers ∧ s'.nextTransfer = s.nextTransfer := by
  cases h <;> first | exact ⟨rfl, rfl⟩ | cases ho

theorem Effect.published_same (h : Effect s o r s') (ho : o.looks = false) :
    s'.published = s.published ∧ s'.invoked = s.invoked := by
  cases h <;> first | exact ⟨rfl, rfl⟩ | cases ho

theorem Effect.wire_same (h : Effect s o r s') (ho : o.draws = false) : s'.wire = s.wire := by
  cases h <;> first | rfl | cases ho

/-- No operation begins or ends a thread. -/
theorem Effect.threads_same (h : Effect s o r s') :
    s'.disposing = s.disposing ∧ s'.nextNumber = s.nextNumber ∧ s'.finished = s.finished := by
  cases h <;> exact ⟨rfl, rfl, rfl⟩

end Frames

section Locks

/-! ## The lock -/

/-- The lock is one thread's if it is taken. -/
def Locked (s : State cfg) (gs : List Task) : Prop :=
  gs.countP Task.holds = s.statusLock.toNat

/-- A free lock is nobody's. -/
theorem Locked.free (h : Locked s gs) (hfree : s.statusLock = false) : ∀ g ∈ gs, g.holds = false := by
  intro g hg
  rw [Locked, hfree] at h
  exact Bool.eq_false_iff.mpr (List.countP_eq_zero.mp h g hg)

/-- Who has the lock is alone with it. -/
theorem Locked.alone (h : Locked s (g :: rest)) (hholds : g.holds = true) :
    s.statusLock = true ∧ ∀ u ∈ rest, u.holds = false := by
  rw [Locked, List.countP_cons_of_pos hholds] at h
  have hle := Bool.toNat_le s.statusLock
  have hnone : rest.countP Task.holds = 0 := by omega
  refine ⟨?_, fun u hu => Bool.eq_false_iff.mpr (List.countP_eq_zero.mp hnone u hu)⟩
  rw [hnone] at h
  exact Bool.toNat_eq_one.mp h.symm

/-- Only what a thread holds counts. -/
theorem Locked.frame (h : Locked s (g :: rest)) (hlock : s'.statusLock = s.statusLock)
    (hholds : g'.holds = g.holds) : Locked s' (g' :: rest) := by
  rw [Locked, List.countP_cons, hholds, hlock, ← List.countP_cons]
  exact h

/-- Somebody has a lock that is taken. -/
theorem Locked.taken (h : Locked s gs) (htaken : s.statusLock = true) : ∃ g ∈ gs, g.holds = true := by
  have hpos : 0 < gs.countP Task.holds := by
    rw [h, htaken]
    exact Nat.one_pos
  exact List.countP_pos_iff.mp hpos

theorem Locked.track {o : SdkOp cfg} {r : o.Res} (h : Locked s (g :: rest)) (hpre : g.Permits o)
    (heffect : Effect s o r s') : Locked s' (g.track o r :: rest) := by
  cases ho : o.locks with
  | false => exact h.frame (heffect.lock_same ho) (Task.track_holds ho)
  | true =>
      cases heffect with
      | lockStatus hfree =>
          have hnone : (g :: rest).countP Task.holds = 0 := h.trans (congrArg Bool.toNat hfree)
          have hrest : rest.countP Task.holds = 0 := by
            rw [List.countP_cons] at hnone
            omega
          rw [Locked, List.countP_cons_of_pos (by rfl), hrest]
          rfl
      | unlockStatus =>
          have hholds : g.holds = true := hpre
          have hrest : rest.countP Task.holds = 0 :=
            List.countP_eq_zero.mpr fun u hu => Bool.eq_false_iff.mp ((h.alone hholds).2 u hu)
          rw [Locked, List.countP_cons_of_neg (by simp [Task.track]), hrest]
          rfl
      | _ => cases ho

end Locks

section Stages

/-! ## The stages -/

/-- What a thread relies on at its stage. -/
def Stage.Needs (s : State cfg) : Stage → Prop
  | .plain => True
  | .begun => s.statusThread = .none
  | .summoned => s.statusThread = .none ∧ s.pipeline = true
  | .alive => s.statusThread = .none ∧ s.pipeline = true ∧ s.working = true
  | .created => s.statusThread ≠ .none
  | .stopping => s.working = false
  | .joining => s.working = false ∧ s.statusThread ≠ .none ∧ s.statusThread ≠ .joined
  | .alone => s.working = false ∧ (s.statusThread = .none ∨ s.statusThread = .joined)
  | .released =>
      s.working = false ∧ (s.statusThread = .none ∨ s.statusThread = .joined) ∧ s.pipeline = false

/-- The destructor on its way. -/
def Task.ending (g : Task) : Bool :=
  match g.stage with
  | .stopping | .joining | .alone | .released => true
  | _ => false

theorem Task.stage_plain (henabling : g.enabling = false) (hending : g.ending = false) :
    g.stage = .plain := by
  unfold Task.enabling at henabling
  unfold Task.ending at hending
  cases hstage : g.stage <;> simp_all

/-- How far everybody has got. -/
structure Staged (s : State cfg) (gs : List Task) : Prop where
  needs : ∀ g ∈ gs, g.stage.Needs s
  calls : ∀ g ∈ gs, g.enabling = true → g.isCall = true
  ends : ∀ g ∈ gs, g.ending = true → g.isDestructor = true
  passed : ∀ g ∈ gs, g.passed = true → s.once = .done
  returned : ∀ f ∈ s.finished, f.call.Passes f.outcome → s.once = .done
  once : gs.countP Task.enabling = (decide (s.once = .running)).toNat
  fresh : s.once = .fresh → s.statusThread = .none
  done : s.once = .done → s.statusThread ≠ .none
  worker : gs.countP Task.isWorker = (decide (s.statusThread = .running)).toNat
  live : s.statusThread ≠ .none → s.statusThread ≠ .joined → s.pipeline = true
  joined : s.statusThread = .joined → s.disposing = true
  destructor : gs.countP Task.isDestructor ≤ s.disposing.toNat
  closed : s.disposing = true → ∀ g ∈ gs, g.isCall = false
  left : s.disposing = true → gs.countP Task.isDestructor = 0 → Stage.released.Needs s

theorem Stage.needs_same (h : s.SameStage s') {stage : Stage} (hneeds : stage.Needs s) :
    stage.Needs s' := by
  obtain ⟨_, hworking, hthread, hpipeline⟩ := h
  cases stage <;> simp only [Stage.Needs, hworking, hthread, hpipeline] at hneeds ⊢ <;> exact hneeds

/-- Somebody is in the function of `call_once` while it is being run. -/
theorem Staged.running (h : Staged s gs) {g : Task} (hg : g ∈ gs) (henabling : g.enabling = true) :
    s.once = .running := by
  have hpos : 0 < gs.countP Task.enabling := List.countP_pos_iff.mpr ⟨g, hg, henabling⟩
  have hle := Bool.toNat_le (decide (s.once = .running))
  have hone := h.once
  exact of_decide_eq_true (Bool.toNat_eq_one.mp (by omega))

/-- The destructor has been called. -/
theorem Staged.disposing (h : Staged s gs) {g : Task} (hg : g ∈ gs) (hrole : g.isDestructor = true) :
    s.disposing = true := by
  have hpos : 0 < gs.countP Task.isDestructor := List.countP_pos_iff.mpr ⟨g, hg, hrole⟩
  have hcount := h.destructor
  have hle := Bool.toNat_le s.disposing
  exact Bool.toNat_eq_one.mp (by omega)

/-- Nobody is in the way of the thread that enables the display. -/
theorem Staged.enables_alone (h : Staged s (g :: rest)) (henabling : g.enabling = true) :
    s.disposing = false ∧ ∀ u ∈ rest, u.stage = .plain := by
  have hopen : s.disposing = false := by
    refine Bool.eq_false_iff.mpr fun hdisposing => ?_
    have hcall := h.calls g List.mem_cons_self henabling
    rw [h.closed hdisposing g List.mem_cons_self] at hcall
    cases hcall
  refine ⟨hopen, fun u hu => ?_⟩
  have hcount := h.once
  rw [List.countP_cons_of_pos henabling] at hcount
  have hle := Bool.toNat_le (decide (s.once = .running))
  have hnone : rest.countP Task.enabling = 0 := by omega
  refine Task.stage_plain (Bool.eq_false_iff.mpr (List.countP_eq_zero.mp hnone u hu)) ?_
  refine Bool.eq_false_iff.mpr fun hending => ?_
  have hdisposing := h.disposing (List.mem_cons_of_mem _ hu) (h.ends u (List.mem_cons_of_mem _ hu) hending)
  rw [hopen] at hdisposing
  cases hdisposing

/-- Nobody is in the way of the destructor but the status thread. -/
theorem Staged.destroys_alone (h : Staged s (g :: rest)) (hrole : g.isDestructor = true) :
    s.disposing = true ∧ ∀ u ∈ rest, u.stage = .plain := by
  have hdisposing := h.disposing List.mem_cons_self hrole
  refine ⟨hdisposing, fun u hu => ?_⟩
  have hmem : u ∈ g :: rest := List.mem_cons_of_mem _ hu
  refine Task.stage_plain (Bool.eq_false_iff.mpr fun henabling => ?_) (Bool.eq_false_iff.mpr fun hending => ?_)
  · have hcall := h.calls u hmem henabling
    rw [h.closed hdisposing u hmem] at hcall
    cases hcall
  · have hcount := h.destructor
    rw [List.countP_cons_of_pos hrole, hdisposing] at hcount
    have hnone : rest.countP Task.isDestructor = 0 := by
      have hone : true.toNat = 1 := rfl
      omega
    exact List.countP_eq_zero.mp hnone u hu (h.ends u hmem hending)

/-- Other fields of the state do not count. -/
theorem Staged.same (h : Staged s gs) (hs : s.SameStage s') (hdisposing : s'.disposing = s.disposing)
    (hfinished : s'.finished = s.finished) : Staged s' gs := by
  obtain ⟨honce, hworking, hthread, hpipeline⟩ := id hs
  exact {
    needs := fun g hg => Stage.needs_same hs (h.needs g hg)
    calls := h.calls
    ends := h.ends
    passed := fun g hg hpassed => honce.trans (h.passed g hg hpassed)
    returned := by
      rw [hfinished, honce]
      exact h.returned
    once := by
      rw [honce]
      exact h.once
    fresh := by
      rw [honce, hthread]
      exact h.fresh
    done := by
      rw [honce, hthread]
      exact h.done
    worker := by
      rw [hthread]
      exact h.worker
    live := by
      rw [hthread, hpipeline]
      exact h.live
    joined := by
      rw [hthread, hdisposing]
      exact h.joined
    destructor := by
      rw [hdisposing]
      exact h.destructor
    closed := by
      rw [hdisposing]
      exact h.closed
    left := by
      rw [hdisposing]
      exact fun hd hnone => Stage.needs_same hs (h.left hd hnone) }

/-- Other things that are known of a thread do not count. -/
theorem Staged.retrack (h : Staged s (g :: rest)) (hrole : g'.role = g.role)
    (hstage : g'.stage = g.stage) (hpassed : g'.passed = true → g.passed = true ∨ s.once = .done) :
    Staged s (g' :: rest) := by
  have henabling : g'.enabling = g.enabling := by rw [Task.enabling, hstage, ← Task.enabling]
  have hending : g'.ending = g.ending := by rw [Task.ending, hstage, ← Task.ending]
  have hcall : g'.isCall = g.isCall := by rw [Task.isCall, hrole, ← Task.isCall]
  have hworker : g'.isWorker = g.isWorker := by rw [Task.isWorker, hrole, ← Task.isWorker]
  have hdestructor : g'.isDestructor = g.isDestructor := by
    rw [Task.isDestructor, hrole, ← Task.isDestructor]
  have hcounts : ∀ p : Task → Bool, p g' = p g →
      (g' :: rest).countP p = (g :: rest).countP p := by
    intro p hp
    rw [List.countP_cons, hp, ← List.countP_cons]
  have hall : ∀ P : Task → Prop, (P g → P g') → (∀ u ∈ g :: rest, P u) → ∀ u ∈ g' :: rest, P u := by
    intro P hP hbefore
    rw [List.forall_mem_cons] at hbefore ⊢
    exact ⟨hP hbefore.1, hbefore.2⟩
  exact {
    needs := hall _ (by rw [hstage]; exact id) h.needs
    calls := hall _ (by rw [henabling, hcall]; exact id) h.calls
    ends := hall _ (by rw [hending, hdestructor]; exact id) h.ends
    passed := hall _ (fun hdone hp => (hpassed hp).elim hdone id) h.passed
    returned := h.returned
    once := (hcounts _ henabling).trans h.once
    fresh := h.fresh
    done := h.done
    worker := (hcounts _ hworker).trans h.worker
    live := h.live
    joined := h.joined
    destructor := (hcounts _ hdestructor).symm ▸ h.destructor
    closed := fun hd => hall _ (by rw [hcall]; exact id) (h.closed hd)
    left := fun hd hnone => h.left hd ((hcounts _ hdestructor).symm.trans hnone) }

end Stages

section Moves

/-! ## Getting on -/

/-- A thread that gets on while the others are at no stage. -/
theorem Staged.move (h : Staged s (g :: rest)) (hothers : ∀ u ∈ rest, u.stage = .plain)
    (hend : g.isDestructor = true ∨ s.disposing = false) (hrole : g'.role = g.role)
    (hthreads : s'.disposing = s.disposing ∧ s'.nextNumber = s.nextNumber ∧ s'.finished = s.finished)
    (hneeds : g'.stage.Needs s') (hcall : g'.enabling = true → g.isCall = true)
    (hending : g'.ending = true → g.isDestructor = true) (hpassed : g'.passed = true → s'.once = .done)
    (hstays : s.once = .done → s'.once = .done)
    (henabling : g'.enabling = decide (s'.once = .running))
    (hfresh : s'.once = .fresh → s'.statusThread = .none)
    (hdone : s'.once = .done → s'.statusThread ≠ .none)
    (hworker : s'.statusThread = .running ↔ s.statusThread = .running)
    (hlive : s'.statusThread ≠ .none → s'.statusThread ≠ .joined → s'.pipeline = true)
    (hjoined : s'.statusThread = .joined → s.disposing = true) : Staged s' (g' :: rest) := by
  obtain ⟨hdisposing, _, hfinished⟩ := hthreads
  have hcall' : g'.isCall = g.isCall := by rw [Task.isCall, hrole, ← Task.isCall]
  have hworker' : g'.isWorker = g.isWorker := by rw [Task.isWorker, hrole, ← Task.isWorker]
  have hdestructor' : g'.isDestructor = g.isDestructor := by
    rw [Task.isDestructor, hrole, ← Task.isDestructor]
  have hnone : rest.countP Task.enabling = 0 := by
    refine List.countP_eq_zero.mpr fun u hu => Bool.eq_false_iff.mp ?_
    rw [Task.enabling, hothers u hu]
  have hcounts : ∀ p : Task → Bool, p g' = p g →
      (g' :: rest).countP p = (g :: rest).countP p := by
    intro p hp
    rw [List.countP_cons, hp, ← List.countP_cons]
  have hbefore : ∀ {P : Task → Prop}, (∀ u ∈ g :: rest, P u) → ∀ u ∈ rest, P u :=
    fun hP u hu => hP u (List.mem_cons_of_mem _ hu)
  exact {
    needs := by
      refine List.forall_mem_cons.mpr ⟨hneeds, fun u hu => ?_⟩
      rw [hothers u hu]
      trivial
    calls := List.forall_mem_cons.mpr ⟨by rw [hcall']; exact hcall, hbefore h.calls⟩
    ends := List.forall_mem_cons.mpr ⟨by rw [hdestructor']; exact hending, hbefore h.ends⟩
    passed := List.forall_mem_cons.mpr
      ⟨hpassed, fun u hu hp => hstays (hbefore h.passed u hu hp)⟩
    returned := by
      rw [hfinished]
      exact fun f hf hp => hstays (h.returned f hf hp)
    once := by
      rw [List.countP_cons, hnone, Nat.zero_add, ← henabling]
      cases g'.enabling <;> rfl
    fresh := hfresh
    done := hdone
    worker := by
      rw [hcounts _ hworker', h.worker, decide_eq_decide.mpr hworker]
    live := hlive
    joined := by
      rw [hdisposing]
      exact hjoined
    destructor := by
      rw [hcounts _ hdestructor', hdisposing]
      exact h.destructor
    closed := by
      rw [hdisposing]
      exact fun hd => List.forall_mem_cons.mpr
        ⟨hcall'.trans (h.closed hd g List.mem_cons_self), hbefore (h.closed hd)⟩
    left := by
      rw [hdisposing, hcounts _ hdestructor']
      intro hd hzero
      rcases hend with hrole | hopen
      · exact absurd hrole (List.countP_eq_zero.mp hzero g List.mem_cons_self)
      · rw [hopen] at hd
        cases hd }

/-- The status thread is not at the once flag: it is not fresh any more. -/
theorem Staged.first_call (h : Staged s (g :: rest)) (hfresh : s.once = .fresh) (hplain : g.Plain) :
    g.isCall = true := by
  have hthread := h.fresh hfresh
  have hcount := h.worker
  rw [hthread] at hcount
  have hworker := List.countP_eq_zero.mp hcount g List.mem_cons_self
  have hdestructor := hplain.2
  unfold Task.isWorker at hworker
  unfold Task.isDestructor at hdestructor
  unfold Task.isCall
  cases hrole : g.role <;> simp_all

theorem Staged.onceFirst (h : Staged s (g :: rest)) (hfresh : s.once = .fresh) (hplain : g.Plain) :
    Staged { s with once := .running } ({ g with stage := .begun } :: rest) := by
  have hcall := h.first_call hfresh hplain
  have hthread := h.fresh hfresh
  have hopen : s.disposing = false := by
    refine Bool.eq_false_iff.mpr fun hdisposing => ?_
    rw [h.closed hdisposing g List.mem_cons_self] at hcall
    cases hcall
  have hothers : ∀ u ∈ rest, u.stage = .plain := by
    intro u hu
    have hmem : u ∈ g :: rest := List.mem_cons_of_mem _ hu
    refine Task.stage_plain (Bool.eq_false_iff.mpr fun henabling => ?_)
      (Bool.eq_false_iff.mpr fun hending => ?_)
    · rw [h.running hmem henabling] at hfresh
      cases hfresh
    · rw [h.disposing hmem (h.ends u hmem hending)] at hopen
      cases hopen
  have hnot : ∀ {b : Prop}, s.once = .done → b := by
    intro b hdone
    rw [hfresh] at hdone
    cases hdone
  refine h.move hothers (Or.inr hopen) rfl ⟨rfl, rfl, rfl⟩ hthread (fun _ => hcall) ?_ ?_ hnot rfl
    ?_ ?_ Iff.rfl ?_ h.joined
  · exact fun hending => by cases hending
  · exact fun hp => hnot (h.passed g List.mem_cons_self hp)
  · exact fun hf => by cases hf
  · exact fun hd => by cases hd
  · exact fun hne _ => absurd hthread hne

theorem Staged.onceEnd (h : Staged s (g :: rest)) (henabling : g.enabling = true) (returned : Bool)
    (hreturned : returned = true ↔ g.stage = .created) :
    Staged { s with once := if returned then .done else .fresh }
      ({ g with stage := .plain, passed := g.passed || returned } :: rest) := by
  obtain ⟨hopen, hothers⟩ := h.enables_alone henabling
  have hrunning := h.running List.mem_cons_self henabling
  have hneeds := h.needs g List.mem_cons_self
  have hnot : ∀ {b : Prop}, s.once = .done → b := by
    intro b hdone
    rw [hrunning] at hdone
    cases hdone
  refine h.move hothers (Or.inr hopen) rfl ⟨rfl, rfl, rfl⟩ trivial ?_ ?_ ?_ hnot ?_ ?_ ?_ Iff.rfl
    h.live h.joined
  · exact fun he => by cases he
  · exact fun he => by cases he
  · intro hp
    rcases Bool.or_eq_true_iff.mp hp with hp | hp
    · exact hnot (h.passed g List.mem_cons_self hp)
    · exact if_pos hp
  · cases returned <;> rfl
  · intro hfresh
    have hfalse : returned ≠ true := fun ht => by
      rw [if_pos ht] at hfresh
      cases hfresh
    have hstage : g.stage ≠ .created := fun hs => hfalse (hreturned.mpr hs)
    unfold Task.enabling at henabling
    cases hg : g.stage with
    | begun => rwa [hg] at hneeds
    | summoned =>
        rw [hg] at hneeds
        exact hneeds.1
    | alive =>
        rw [hg] at hneeds
        exact hneeds.1
    | created => exact absurd hg hstage
    | _ =>
        rw [hg] at henabling
        cases henabling
  · intro hdone
    have htrue : returned = true := by
      cases returned with
      | true => rfl
      | false => cases hdone
    rwa [hreturned.mp htrue] at hneeds

theorem Staged.summonPipeline (h : Staged s (g :: rest)) (hstage : g.stage = .begun) :
    Staged { s with pipeline := true } ({ g with stage := .summoned } :: rest) := by
  have henabling : g.enabling = true := by rw [Task.enabling, hstage]
  obtain ⟨hopen, hothers⟩ := h.enables_alone henabling
  have hrunning := h.running List.mem_cons_self henabling
  have hneeds := h.needs g List.mem_cons_self
  rw [hstage] at hneeds
  refine h.move hothers (Or.inr hopen) rfl ⟨rfl, rfl, rfl⟩ ⟨hneeds, rfl⟩
    (fun _ => h.calls g List.mem_cons_self henabling) ?_ (h.passed g List.mem_cons_self) id ?_
    h.fresh h.done Iff.rfl (fun _ _ => rfl) h.joined
  · exact fun he => by cases he
  · exact (decide_eq_true hrunning).symm

theorem Staged.storeWorking (h : Staged s (g :: rest)) (hstage : g.stage = .summoned) :
    Staged { s with working := true } ({ g with stage := .alive } :: rest) := by
  have henabling : g.enabling = true := by rw [Task.enabling, hstage]
  obtain ⟨hopen, hothers⟩ := h.enables_alone henabling
  have hrunning := h.running List.mem_cons_self henabling
  have hneeds := h.needs g List.mem_cons_self
  rw [hstage] at hneeds
  refine h.move hothers (Or.inr hopen) rfl ⟨rfl, rfl, rfl⟩ ⟨hneeds.1, hneeds.2, rfl⟩
    (fun _ => h.calls g List.mem_cons_self henabling) ?_ (h.passed g List.mem_cons_self) id ?_
    h.fresh h.done Iff.rfl h.live h.joined
  · exact fun he => by cases he
  · exact (decide_eq_true hrunning).symm

theorem Staged.createThread (h : Staged s (g :: rest)) (hstage : g.stage = .alive) :
    Staged { s with statusThread := .created } ({ g with stage := .created } :: rest) := by
  have henabling : g.enabling = true := by rw [Task.enabling, hstage]
  obtain ⟨hopen, hothers⟩ := h.enables_alone henabling
  have hrunning := h.running List.mem_cons_self henabling
  have hneeds := h.needs g List.mem_cons_self
  rw [hstage] at hneeds
  obtain ⟨hthread, hpipeline, _⟩ := hneeds
  refine h.move hothers (Or.inr hopen) rfl ⟨rfl, rfl, rfl⟩ (fun hnone => by cases hnone)
    (fun _ => h.calls g List.mem_cons_self henabling) ?_ (h.passed g List.mem_cons_self) id ?_
    ?_ ?_ ?_ (fun _ _ => hpipeline) ?_
  · exact fun he => by cases he
  · exact (decide_eq_true hrunning).symm
  · exact fun hf => by
      rw [hrunning] at hf
      cases hf
  · exact fun _ hnone => by cases hnone
  · rw [hthread]
    constructor <;> exact fun hr => by cases hr
  · exact fun hj => by cases hj

/-- The destructor gets on. -/
theorem Staged.destroy (h : Staged s (g :: rest)) (hrole : g.role = .destructor) {stage : Stage}
    (hthreads : s'.disposing = s.disposing ∧ s'.nextNumber = s.nextNumber ∧ s'.finished = s.finished)
    (honce : s'.once = s.once) (hneeds : stage.Needs s')
    (hstage : Task.enabling { g with stage := stage } = false)
    (hfresh : s.statusThread = .none → s'.statusThread = .none)
    (hdone : s.statusThread ≠ .none → s'.statusThread ≠ .none)
    (hworker : s'.statusThread = .running ↔ s.statusThread = .running)
    (hlive : s'.statusThread ≠ .none → s'.statusThread ≠ .joined → s'.pipeline = true) :
    Staged s' ({ g with stage := stage } :: rest) := by
  have hdestructor : g.isDestructor = true := by rw [Task.isDestructor, hrole]
  obtain ⟨hdisposing, hothers⟩ := h.destroys_alone hdestructor
  have hnobody : s.once ≠ .running := by
    intro hrunning
    have hcount : (g :: rest).countP Task.enabling = 1 := by
      rw [h.once, hrunning]
      rfl
    have hpos : 0 < (g :: rest).countP Task.enabling := by omega
    obtain ⟨u, hu, henabling⟩ := List.countP_pos_iff.mp hpos
    have hcall := h.calls u hu henabling
    rw [h.closed hdisposing u hu] at hcall
    cases hcall
  refine h.move hothers (Or.inl hdestructor) rfl hthreads hneeds ?_ (fun _ => hdestructor) ?_ ?_ ?_
    ?_ ?_ hworker hlive (fun _ => hdisposing)
  · rw [hstage]
    exact fun he => by cases he
  · rw [honce]
    exact h.passed g List.mem_cons_self
  · rw [honce]
    exact id
  · rw [honce, hstage]
    exact (decide_eq_false hnobody).symm
  · rw [honce]
    exact fun hf => hfresh (h.fresh hf)
  · rw [honce]
    exact fun hd => hdone (h.done hd)

end Moves

section Steps

/-! ## One operation -/

/-- The status thread says that it does not work any more. -/
theorem Staged.fails (h : Staged s (g :: rest)) (hrole : g.role = .worker) :
    Staged { s with working := false } (g :: rest) := by
  have hworker : g.isWorker = true := by rw [Task.isWorker, hrole]
  have hrunning : s.statusThread = .running := by
    have hpos : 0 < (g :: rest).countP Task.isWorker :=
      List.countP_pos_iff.mpr ⟨g, List.mem_cons_self, hworker⟩
    have hle := Bool.toNat_le (decide (s.statusThread = .running))
    have hone := h.worker
    exact of_decide_eq_true (Bool.toNat_eq_one.mp (by omega))
  exact { h with
    needs := by
      intro u hu
      have hneeds := h.needs u hu
      cases hstage : u.stage <;> rw [hstage] at hneeds <;>
        simp only [Stage.Needs, hrunning] at hneeds ⊢ <;> simp_all
    left := by
      intro hd hnone
      exact ⟨rfl, (h.left hd hnone).2⟩ }

/-- **One operation** of a thread. -/
theorem Staged.track {o : SdkOp cfg} {r : o.Res} (h : Staged s (g :: rest)) (hpre : g.Permits o)
    (heffect : Effect s o r s') : Staged s' (g.track o r :: rest) := by
  cases ho : o.moves with
  | false =>
      have hs := heffect.stage_same ho
      obtain ⟨hdisposing, _, hfinished⟩ := heffect.threads_same
      obtain ⟨hstage, hpassed⟩ := Task.track_stage (g := g) (r := r) ho
      exact (h.same hs hdisposing hfinished).retrack (Task.track_role g o r) hstage
        (fun hp => Or.inl (hpassed.symm.trans hp))
  | true =>
      cases heffect with
      | onceFirst hfresh => exact h.onceFirst hfresh hpre.1
      | onceAgain hdone => exact h.retrack rfl rfl fun _ => Or.inr hdone
      | onceEnd returned => exact h.onceEnd hpre.1 returned hpre.2.2
      | summonPipeline => exact h.summonPipeline hpre.1
      | noPipeline => exact h
      | storeWorking working =>
          cases working with
          | true => exact h.storeWorking hpre.1
          | false =>
              rcases hpre with hrole | ⟨hrole, _⟩
              · have hfails : g.track (SdkOp.storeWorking false : SdkOp cfg) () =
                    { g with round := .stopped } := by
                  simp only [Task.track, hrole]
                rw [hfails]
                exact (h.fails hrole).retrack rfl rfl Or.inl
              · have hstops : g.track (SdkOp.storeWorking false : SdkOp cfg) () =
                    { g with stage := .stopping } := by
                  simp only [Task.track, hrole]
                rw [hstops]
                exact h.destroy hrole ⟨rfl, rfl, rfl⟩ rfl rfl rfl id id Iff.rfl h.live
      | createThread => exact h.createThread hpre.1
      | noThread => exact h
      | joinable =>
          obtain ⟨hrole, hstage⟩ := hpre
          have hstopped : s.working = false := by
            have hneeds := h.needs g List.mem_cons_self
            rwa [hstage] at hneeds
          refine h.destroy hrole ⟨rfl, rfl, rfl⟩ rfl ?_ ?_ id id Iff.rfl h.live
          · split
            · rename_i hjoinable
              exact ⟨hstopped, of_decide_eq_true hjoinable⟩
            · rename_i hjoinable
              refine ⟨hstopped, ?_⟩
              have hnot := of_decide_eq_false (Bool.eq_false_iff.mpr hjoinable)
              rw [not_and_or, not_not, not_not] at hnot
              exact hnot
          · split <;> rfl
      | join hended =>
          obtain ⟨hrole, hstage⟩ := hpre
          have hstopped : s.working = false := by
            have hneeds := h.needs g List.mem_cons_self
            rw [hstage] at hneeds
            exact hneeds.1
          refine h.destroy hrole ⟨rfl, rfl, rfl⟩ rfl ⟨hstopped, Or.inr rfl⟩ rfl ?_ ?_ ?_ ?_
          · rw [hended]
            exact fun hnone => by cases hnone
          · exact fun _ hnone => by cases hnone
          · rw [hended]
            constructor <;> exact fun hr => by cases hr
          · exact fun _ hjoined => absurd rfl hjoined
      | releasePipeline =>
          obtain ⟨hrole, hstage, _⟩ := hpre
          have hneeds := h.needs g List.mem_cons_self
          rw [hstage] at hneeds
          obtain ⟨hstopped, hover⟩ := hneeds
          refine h.destroy hrole ⟨rfl, rfl, rfl⟩ rfl ⟨hstopped, hover, rfl⟩ rfl id id Iff.rfl ?_
          intro hnone hjoined
          rcases hover with hthread | hthread
          · exact absurd hthread hnone
          · exact absurd hthread hjoined
      | _ => cases ho

/-- An application's call begins. -/
theorem Staged.enterCall (h : Staged s gs) (hopen : s.disposing = false) (c : ApiCall) (number : Nat) :
    Staged s (Task.start (.call c) number :: gs) where
  needs := List.forall_mem_cons.mpr ⟨trivial, h.needs⟩
  calls := List.forall_mem_cons.mpr ⟨(fun he => by cases he), h.calls⟩
  ends := List.forall_mem_cons.mpr ⟨(fun he => by cases he), h.ends⟩
  passed := List.forall_mem_cons.mpr ⟨(fun he => by cases he), h.passed⟩
  returned := h.returned
  once := h.once
  fresh := h.fresh
  done := h.done
  worker := h.worker
  live := h.live
  joined := h.joined
  destructor := h.destructor
  closed := by
    rw [hopen]
    exact fun hd => by cases hd
  left := by
    rw [hopen]
    exact fun hd => by cases hd

/-- The destructor begins. -/
theorem Staged.enterDestructor (h : Staged s gs) (hopen : s.disposing = false)
    (hnone : ∀ g ∈ gs, g.isCall = false) (number : Nat) :
    Staged { s with disposing := true } (Task.start .destructor number :: gs) where
  needs := List.forall_mem_cons.mpr
    ⟨trivial, fun g hg => Stage.needs_same ⟨rfl, rfl, rfl, rfl⟩ (h.needs g hg)⟩
  calls := List.forall_mem_cons.mpr ⟨(fun he => by cases he), h.calls⟩
  ends := List.forall_mem_cons.mpr ⟨(fun he => by cases he), h.ends⟩
  passed := List.forall_mem_cons.mpr ⟨(fun he => by cases he), h.passed⟩
  returned := h.returned
  once := h.once
  fresh := h.fresh
  done := h.done
  worker := h.worker
  live := h.live
  joined := fun _ => rfl
  destructor := by
    have hcount := h.destructor
    rw [hopen] at hcount
    rw [List.countP_cons_of_pos rfl]
    exact Nat.succ_le_succ hcount
  closed := fun _ => List.forall_mem_cons.mpr ⟨rfl, hnone⟩
  left := by
    intro _ hzero
    rw [List.countP_cons_of_pos rfl] at hzero
    cases hzero

/-- The status thread begins. -/
theorem Staged.enterWorker (h : Staged s gs) (hcreated : s.statusThread = .created) (number : Nat) :
    Staged { s with statusThread := .running } (Task.start .worker number :: gs) where
  needs := by
    refine List.forall_mem_cons.mpr ⟨trivial, fun g hg => ?_⟩
    have hneeds := h.needs g hg
    cases hstage : g.stage <;> rw [hstage] at hneeds <;>
      simp only [Stage.Needs, hcreated] at hneeds ⊢ <;> simp_all
  calls := List.forall_mem_cons.mpr ⟨(fun he => by cases he), h.calls⟩
  ends := List.forall_mem_cons.mpr ⟨(fun he => by cases he), h.ends⟩
  passed := List.forall_mem_cons.mpr ⟨(fun he => by cases he), h.passed⟩
  returned := h.returned
  once := h.once
  fresh := by
    intro hfresh
    rw [h.fresh hfresh] at hcreated
    cases hcreated
  done := fun _ hnone => by cases hnone
  worker := by
    have hcount := h.worker
    rw [hcreated] at hcount
    rw [List.countP_cons_of_pos rfl, hcount]
    rfl
  live := fun _ _ => h.live (by simp [hcreated]) (by simp [hcreated])
  joined := fun hj => by cases hj
  destructor := h.destructor
  closed := fun hd => List.forall_mem_cons.mpr ⟨rfl, h.closed hd⟩
  left := by
    intro hd hzero
    have hover := (h.left hd hzero).2.1
    rw [hcreated] at hover
    rcases hover with hno | hno <;> cases hno

/-- A call ends. -/
theorem Staged.finishCall (h : Staged s (g :: rest)) {c : ApiCall} {outcome : Outcome}
    (hrole : g.role = .call c) (hstage : g.stage = .plain)
    (hpassed : c.Passes outcome → g.passed = true) :
    Staged { s with finished := s.finished ++ [⟨g.number, c, outcome⟩] } rest := by
  have hbefore : ∀ {P : Task → Prop}, (∀ u ∈ g :: rest, P u) → ∀ u ∈ rest, P u :=
    fun hP u hu => hP u (List.mem_cons_of_mem _ hu)
  have hless : ∀ p : Task → Bool, p g = false → (g :: rest).countP p = rest.countP p :=
    fun p hp => List.countP_cons_of_neg (Bool.eq_false_iff.mp hp)
  have henabling : g.enabling = false := by rw [Task.enabling, hstage]
  have hworker : g.isWorker = false := by rw [Task.isWorker, hrole]
  have hdestructor : g.isDestructor = false := by rw [Task.isDestructor, hrole]
  have hcall : g.isCall = true := by rw [Task.isCall, hrole]
  exact {
    needs := fun u hu =>
      Stage.needs_same ⟨rfl, rfl, rfl, rfl⟩ (h.needs u (List.mem_cons_of_mem _ hu))
    calls := hbefore h.calls
    ends := hbefore h.ends
    passed := hbefore h.passed
    returned := by
      intro f hf hpasses
      rcases List.mem_append.mp hf with hf | hf
      · exact h.returned f hf hpasses
      · rw [List.mem_singleton.mp hf] at hpasses
        exact h.passed g List.mem_cons_self (hpassed hpasses)
    once := (hless _ henabling).symm.trans h.once
    fresh := h.fresh
    done := h.done
    worker := (hless _ hworker).symm.trans h.worker
    live := h.live
    joined := h.joined
    destructor := (hless _ hdestructor) ▸ h.destructor
    closed := fun hd => hbefore (h.closed hd)
    left := by
      intro hd
      have hnot := h.closed hd g List.mem_cons_self
      rw [hcall] at hnot
      cases hnot }

/-- The status thread ends. -/
theorem Staged.finishWorker (h : Staged s (g :: rest)) (hrole : g.role = .worker)
    (hstage : g.stage = .plain) : Staged { s with statusThread := .ended } rest := by
  have hbefore : ∀ {P : Task → Prop}, (∀ u ∈ g :: rest, P u) → ∀ u ∈ rest, P u :=
    fun hP u hu => hP u (List.mem_cons_of_mem _ hu)
  have hless : ∀ p : Task → Bool, p g = false → (g :: rest).countP p = rest.countP p :=
    fun p hp => List.countP_cons_of_neg (Bool.eq_false_iff.mp hp)
  have henabling : g.enabling = false := by rw [Task.enabling, hstage]
  have hworker : g.isWorker = true := by rw [Task.isWorker, hrole]
  have hdestructor : g.isDestructor = false := by rw [Task.isDestructor, hrole]
  have hcount := h.worker
  rw [List.countP_cons_of_pos hworker] at hcount
  have hle := Bool.toNat_le (decide (s.statusThread = .running))
  have hrunning : s.statusThread = .running :=
    of_decide_eq_true (Bool.toNat_eq_one.mp (by omega))
  exact {
    needs := by
      intro u hu
      have hneeds := h.needs u (List.mem_cons_of_mem _ hu)
      cases hu : u.stage <;> rw [hu] at hneeds <;>
        simp only [Stage.Needs, hrunning] at hneeds ⊢ <;> simp_all
    calls := hbefore h.calls
    ends := hbefore h.ends
    passed := hbefore h.passed
    returned := h.returned
    once := (hless _ henabling).symm.trans h.once
    fresh := by
      intro hfresh
      rw [h.fresh hfresh] at hrunning
      cases hrunning
    done := fun _ hnone => by cases hnone
    worker := by
      have hnone : rest.countP Task.isWorker = 0 := by omega
      rw [hnone]
      rfl
    live := fun _ _ => h.live (by simp [hrunning]) (by simp [hrunning])
    joined := fun hj => by cases hj
    destructor := (hless _ hdestructor) ▸ h.destructor
    closed := fun hd => hbefore (h.closed hd)
    left := by
      intro hd hzero
      have hover := (h.left hd ((hless _ hdestructor).trans hzero)).2.1
      rw [hrunning] at hover
      rcases hover with hno | hno <;> cases hno }

/-- The destructor ends. -/
theorem Staged.finishDestructor (h : Staged s (g :: rest)) (hrole : g.role = .destructor)
    (hstage : g.stage = .released) : Staged s rest := by
  have hbefore : ∀ {P : Task → Prop}, (∀ u ∈ g :: rest, P u) → ∀ u ∈ rest, P u :=
    fun hP u hu => hP u (List.mem_cons_of_mem _ hu)
  have hless : ∀ p : Task → Bool, p g = false → (g :: rest).countP p = rest.countP p :=
    fun p hp => List.countP_cons_of_neg (Bool.eq_false_iff.mp hp)
  have henabling : g.enabling = false := by rw [Task.enabling, hstage]
  have hworker : g.isWorker = false := by rw [Task.isWorker, hrole]
  have hneeds := h.needs g List.mem_cons_self
  rw [hstage] at hneeds
  exact {
    needs := hbefore h.needs
    calls := hbefore h.calls
    ends := hbefore h.ends
    passed := hbefore h.passed
    returned := h.returned
    once := (hless _ henabling).symm.trans h.once
    fresh := h.fresh
    done := h.done
    worker := (hless _ hworker).symm.trans h.worker
    live := h.live
    joined := h.joined
    destructor := Nat.le_trans (List.sublist_cons_self g rest).countP_le h.destructor
    closed := fun hd => hbefore (h.closed hd)
    left := fun _ _ => hneeds }

/-- A thread ends. -/
theorem Staged.finish (h : Staged s (g :: rest)) {outcome : Outcome} (hends : EndsWell outcome g)
    (hlast : ∀ t, outcome ≠ .again t) : Staged (s.retire g outcome) rest := by
  have hend := hends.ends
  unfold State.retire
  cases hrole : g.role with
  | call c =>
      rw [hrole] at hend
      exact h.finishCall hrole hend.1 hend.2.2.2
  | worker =>
      rw [hrole] at hend
      cases outcome with
      | again t => exact absurd rfl (hlast t)
      | ended => exact h.finishWorker hrole hend.1
      | _ => exact hend.elim
  | destructor =>
      rw [hrole] at hend
      cases outcome with
      | disposed => exact h.finishDestructor hrole hend.1
      | _ => exact hend.elim

end Steps

end RpUsbDisp.SdkDevice
