import Mathlib.Data.List.Basic
import RpUsbDisp.Runs
import RpUsbDisp.Transport

/-!
# The present thread of Windows

A monitor that gets a swap chain gets a thread that presents its frames.  The
callbacks of the display driver start and stop it: `DisplayEvtAssignSwapChain`
creates it and takes a reference to it, `DisplayEvtUnassignSwapChain` waits for its
end and gives the reference back, and `DisplayEvtSurpriseRemoval` waits for a second
and forgets it.  The framework calls the first two one after the other; a removal
can come at any time.

A run is a list of events: a callback begins, a kernel routine it has called
answers, or a present thread goes on.  Threads and references are never forgotten
here, whatever `SwapChainContext` says; so a run shows what the driver lost.
-/

namespace RpUsbDisp

namespace Windows

def STATUS_TIMEOUT : NTSTATUS := 0x102
def STATUS_NO_MORE_ENTRIES : NTSTATUS := 0x8000001A

/-! ## State -/

/-- `SwapChainContext`.  A swap chain is a number, a thread its place in the list of
all threads. -/
structure SwapChainContext where
  swapChain : Option Nat := none
  presentThread : Option Nat := none
  stopEvent : Bool := false
  shouldStop : Bool := false
  deriving DecidableEq

/-- Where a present thread is: at the head of its loop, or in one of the three calls
of the body. -/
inductive ThreadPhase where
  | loopHead
  | waiting
  | acquiring
  | presenting
  | terminated
  deriving DecidableEq

/-- A present thread, with the swap chain of its creation and what has been done to
the count of its thread object. -/
structure PresentThread where
  startedOn : Option Nat
  phase : ThreadPhase
  references : Nat
  dereferences : Nat
  deriving DecidableEq

/-- How far the framework's call for the monitor is. -/
inductive MonitorCallback where
  | idle
  | creatingThread
  | referencingThread (thread : Nat)
  | awaitingThread (thread : Nat)
  deriving DecidableEq

/-- `DisplayDeviceContext`, the callbacks that are on their way, and every thread
there ever was. -/
structure DisplayState where
  swapChainCtx : SwapChainContext := {}
  monitorCallback : MonitorCallback := .idle
  /-- The thread that `DisplayEvtSurpriseRemoval` waits for. -/
  surpriseRemoval : Option Nat := none
  threads : List PresentThread := []
  deriving DecidableEq

namespace DisplayState

/-- A thread runs until `PsTerminateSystemThread`. -/
def Running (s : DisplayState) (i : Nat) : Prop :=
  ∃ thread, s.threads[i]? = some thread ∧ thread.phase ≠ .terminated

/-- A wait for thread `i` is satisfied. -/
def Terminated (s : DisplayState) (i : Nat) : Prop :=
  ∃ thread, s.threads[i]? = some thread ∧ thread.phase = .terminated

instance (s : DisplayState) (i : Nat) : Decidable (s.Terminated i) :=
  match h : s.threads[i]? with
  | none => isFalse (fun ⟨_, hthread, _⟩ => Option.some_ne_none _ (hthread.symm.trans h))
  | some thread =>
      decidable_of_iff (thread.phase = .terminated)
        ⟨fun hphase => ⟨thread, h, hphase⟩, fun ⟨_, hthread, hphase⟩ =>
          Option.some.inj (h.symm.trans hthread) ▸ hphase⟩

end DisplayState

/-! ## The callbacks -/

/-- `DisplayEvtAssignSwapChain` up to `PsCreateSystemThread`, with the answer of
`IddCxSwapChainSetDevice`. -/
def displayEvtAssignSwapChain (s : DisplayState) (hSwapChain : Nat) (setDevice : NTSTATUS) :
    Option DisplayState :=
  match s.monitorCallback with
  | .idle =>
      if ¬ NT_SUCCESS setDevice then some s
      else some { s with
        swapChainCtx := { s.swapChainCtx with
          swapChain := some hSwapChain, shouldStop := false, stopEvent := false }
        monitorCallback := .creatingThread }
  | _ => none

/-- `PsCreateSystemThread` has answered. -/
def createdThread (s : DisplayState) (status : NTSTATUS) : Option DisplayState :=
  match s.monitorCallback with
  | .creatingThread =>
      if NT_SUCCESS status then
        some { s with
          threads := s.threads ++ [⟨s.swapChainCtx.swapChain, .loopHead, 0, 0⟩]
          monitorCallback := .referencingThread s.threads.length }
      else some { s with monitorCallback := .idle }
  | _ => none

/-- `ObReferenceObjectByHandle` has answered.  When it fails it may or may not have
cleared the pointer it was given, which is `PresentThread` itself.  Nothing waits
for the thread then. -/
def referencedThread (s : DisplayState) (status : NTSTATUS) (cleared : Bool) :
    Option DisplayState :=
  match s.monitorCallback with
  | .referencingThread t =>
      if NT_SUCCESS status then
        some { s with
          swapChainCtx := { s.swapChainCtx with presentThread := some t }
          threads := s.threads.modify t fun thread =>
            { thread with references := thread.references + 1 }
          monitorCallback := .idle }
      else
        some { s with
          swapChainCtx := { s.swapChainCtx with
            presentThread := if cleared then none else s.swapChainCtx.presentThread
            shouldStop := true, stopEvent := true }
          monitorCallback := .idle }
  | _ => none

/-- `DisplayEvtUnassignSwapChain` up to its wait, or to its end where there is no
present thread. -/
def displayEvtUnassignSwapChain (s : DisplayState) : Option DisplayState :=
  match s.monitorCallback with
  | .idle =>
      match s.swapChainCtx.presentThread with
      | some t =>
          some { s with
            swapChainCtx := { s.swapChainCtx with shouldStop := true, stopEvent := true }
            monitorCallback := .awaitingThread t }
      | none => some { s with swapChainCtx := { s.swapChainCtx with swapChain := none } }
  | _ => none

/-- The wait of `DisplayEvtUnassignSwapChain` is over, which has no time limit.  It
dereferences whatever is in `PresentThread` by now; a null pointer there brings the
system down. -/
def unassignAwaited (s : DisplayState) : Option DisplayState :=
  match s.monitorCallback with
  | .awaitingThread t =>
      if s.Terminated t then
        match s.swapChainCtx.presentThread with
        | some u =>
            some { s with
              swapChainCtx := { s.swapChainCtx with presentThread := none, swapChain := none }
              threads := s.threads.modify u fun thread =>
                { thread with dereferences := thread.dereferences + 1 }
              monitorCallback := .idle }
        | none => none
      else none
  | _ => none

/-- `DisplayEvtSurpriseRemoval` up to its wait.  Where there is no present thread only
`PipelineTeardown` is left, which is about the transport. -/
def displayEvtSurpriseRemoval (s : DisplayState) : Option DisplayState :=
  match s.surpriseRemoval with
  | none =>
      match s.swapChainCtx.presentThread with
      | some t =>
          some { s with
            swapChainCtx := { s.swapChainCtx with shouldStop := true, stopEvent := true }
            surpriseRemoval := some t }
      | none => some s
  | some _ => none

/-- The wait of `DisplayEvtSurpriseRemoval` is over, by the end of the thread or after
a second. -/
def removalAwaited (s : DisplayState) (timedOut : Bool) : Option DisplayState :=
  match s.surpriseRemoval with
  | some t =>
      if timedOut ∨ s.Terminated t then
        some { s with
          swapChainCtx := { s.swapChainCtx with presentThread := none }
          surpriseRemoval := none }
      else none
  | none => none

/-! ## The thread -/

/-- What lets a present thread go on. -/
inductive ThreadEvent where
  /-- The loop tests `ShouldStop`. -/
  | tested
  /-- The wait of 10 ms for `StopEvent` is over. -/
  | waited (timedOut : Bool)
  /-- `IddCxSwapChainReleaseAndAcquireBuffer` answers, maybe with a surface. -/
  | acquired (status : NTSTATUS) (surface : Bool)
  /-- `PipelineHandlePresent` returns, after whatever retries. -/
  | presented

/-- `PresentProcessingThread`, from one call to the next. -/
def presentProcessingThread (ctx : SwapChainContext) (phase : ThreadPhase) :
    ThreadEvent → Option ThreadPhase
  | .tested =>
      if phase = .loopHead then some (if ctx.shouldStop then .terminated else .waiting) else none
  | .waited timedOut =>
      if phase = .waiting then
        if timedOut then some .acquiring
        else if ctx.stopEvent then some .terminated else none
      else none
  | .acquired status surface =>
      if phase = .acquiring then
        if NT_SUCCESS status then some (if surface then .presenting else .loopHead)
        else if status = STATUS_TIMEOUT ∨ status = STATUS_NO_MORE_ENTRIES then some .loopHead
        else some .terminated
      else none
  | .presented => if phase = .presenting then some .loopHead else none

/-- Thread `i` goes on. -/
def threadGoesOn (s : DisplayState) (i : Nat) (event : ThreadEvent) : Option DisplayState :=
  match s.threads[i]? with
  | some thread =>
      match presentProcessingThread s.swapChainCtx thread.phase event with
      | some phase => some { s with threads := s.threads.set i { thread with phase := phase } }
      | none => none
  | none => none

/-! ## Runs -/

inductive DisplayEvent where
  | assignSwapChain (hSwapChain : Nat) (setDevice : NTSTATUS)
  | createdThread (status : NTSTATUS)
  | referencedThread (status : NTSTATUS) (cleared : Bool)
  | unassignSwapChain
  | unassignAwaited
  | surpriseRemoval
  | removalAwaited (timedOut : Bool)
  | thread (i : Nat) (event : ThreadEvent)

/-- One event, where it can happen. -/
def displayStep (s : DisplayState) : DisplayEvent → Option DisplayState
  | .assignSwapChain hSwapChain setDevice => displayEvtAssignSwapChain s hSwapChain setDevice
  | .createdThread status => createdThread s status
  | .referencedThread status cleared => referencedThread s status cleared
  | .unassignSwapChain => displayEvtUnassignSwapChain s
  | .unassignAwaited => unassignAwaited s
  | .surpriseRemoval => displayEvtSurpriseRemoval s
  | .removalAwaited timedOut => removalAwaited s timedOut
  | .thread i event => threadGoesOn s i event

/-! ## What a run is to keep -/

namespace DisplayState

/-- At most one present thread runs. -/
def AtMostOneRuns (s : DisplayState) : Prop := ∀ i j, s.Running i → s.Running j → i = j

/-- A step leaves the swap chain of every thread that runs. -/
def KeepsSwapChain (s s' : DisplayState) : Prop :=
  ∀ (i : Nat) (thread : PresentThread), s.threads[i]? = some thread → thread.phase ≠ .terminated →
    thread.startedOn = s.swapChainCtx.swapChain →
    s'.swapChainCtx.swapChain = s.swapChainCtx.swapChain

/-- Every reference to a thread has been given back once. -/
def Balanced (s : DisplayState) : Prop :=
  ∀ thread ∈ s.threads, thread.references = thread.dereferences

end DisplayState

/-- `DisplayEvtUnassignSwapChain` returns. -/
def Unassigned (event : DisplayEvent) (s : DisplayState) : Prop :=
  (event = .unassignSwapChain ∨ event = .unassignAwaited) ∧ s.monitorCallback = .idle

/-- The life of present threads as it is meant, in the runs where everything allowed
can happen. -/
def Lifecycle (allowed : DisplayState → DisplayEvent → Prop) : Prop :=
  ∀ s, Runs.Run displayStep allowed {} s → s.AtMostOneRuns ∧
    ∀ event s', allowed s event → displayStep s event = some s' →
      s.KeepsSwapChain s' ∧ (Unassigned event s' → s'.Balanced)

/-- What the framework would have to see to: no swap chain comes while a thread runs
or is still recorded, none goes while a thread runs that is not recorded, and no
device is removed while a thread is recorded. -/
def Orderly (s : DisplayState) : DisplayEvent → Prop
  | .assignSwapChain _ setDevice =>
      NT_SUCCESS setDevice → s.swapChainCtx.presentThread = none ∧ ∀ i, ¬ s.Running i
  | .unassignSwapChain => s.swapChainCtx.presentThread = none → ∀ i, ¬ s.Running i
  | .surpriseRemoval => s.swapChainCtx.presentThread = none
  | _ => True

/-! ## Orderly runs -/

/-- What `MonitorCallback` says of the threads in an orderly run. -/
def CallbackTidy (s : DisplayState) : MonitorCallback → Prop
  | .idle => True
  | .creatingThread => s.swapChainCtx.presentThread = none ∧ ∀ i, ¬ s.Running i
  | .referencingThread t => s.swapChainCtx.presentThread = none ∧ t + 1 = s.threads.length
  | .awaitingThread t => s.swapChainCtx.presentThread = some t

/-- **The invariant of orderly runs.**  Only the youngest thread may run, on the
swap chain it was started on, and only a recorded thread is owed a dereference. -/
structure Tidy (s : DisplayState) : Prop where
  removal : s.surpriseRemoval = none
  youngest : ∀ (i : Nat) (thread : PresentThread), s.threads[i]? = some thread →
    thread.phase ≠ .terminated → i + 1 = s.threads.length
  started : ∀ (i : Nat) (thread : PresentThread), s.threads[i]? = some thread →
    thread.phase ≠ .terminated → thread.startedOn = s.swapChainCtx.swapChain
  recorded : ∀ t, s.swapChainCtx.presentThread = some t → t + 1 = s.threads.length
  owed : ∀ (i : Nat) (thread : PresentThread), s.threads[i]? = some thread →
    thread.references =
      thread.dereferences + if s.swapChainCtx.presentThread = some i then 1 else 0
  callback : CallbackTidy s s.monitorCallback

theorem tidy_initial : Tidy {} where
  removal := rfl
  youngest := by simp
  started := by simp
  recorded := by simp
  owed := by simp
  callback := trivial

/-- One running thread is what `Tidy` leaves. -/
theorem Tidy.atMostOneRuns {s : DisplayState} (h : Tidy s) : s.AtMostOneRuns := by
  intro i j hparts hparts'
  obtain ⟨thread, hi, hrunning⟩ := hparts
  obtain ⟨other, hj, hrunning'⟩ := hparts'
  have hlast := h.youngest i thread hi hrunning
  have hlast' := h.youngest j other hj hrunning'
  omega

/-- Where nothing runs the swap chain may change. -/
theorem keepsSwapChain_of_not_running {s s' : DisplayState} (h : ∀ i, ¬ s.Running i) :
    s.KeepsSwapChain s' := fun i thread hi hrunning _ => absurd ⟨thread, hi, hrunning⟩ (h i)

/-- Without a recorded thread nothing is owed. -/
theorem Tidy.balanced {s : DisplayState} (h : Tidy s)
    (hnone : s.swapChainCtx.presentThread = none) : s.Balanced := by
  intro thread hthread
  obtain ⟨i, hi⟩ := List.mem_iff_getElem?.mp hthread
  have howed := h.owed i thread hi
  simpa [hnone] using howed

theorem assignSwapChain_tidy {s s' : DisplayState} {hSwapChain : Nat} {setDevice : NTSTATUS}
    (h : Tidy s) (horderly : Orderly s (.assignSwapChain hSwapChain setDevice))
    (hstep : displayEvtAssignSwapChain s hSwapChain setDevice = some s') :
    Tidy s' ∧ s.KeepsSwapChain s' := by
  rw [displayEvtAssignSwapChain] at hstep
  split at hstep
  · rename_i hidle
    split at hstep
    · obtain rfl := Option.some.inj hstep
      exact ⟨h, fun _ _ _ _ _ => rfl⟩
    · rename_i hset
      obtain ⟨hnone, hquiet⟩ := horderly (not_not.mp hset)
      obtain rfl := Option.some.inj hstep
      refine ⟨{ h with started := ?_, callback := ⟨hnone, hquiet⟩ },
        keepsSwapChain_of_not_running hquiet⟩
      intro i thread hi hrunning
      exact absurd ⟨thread, hi, hrunning⟩ (hquiet i)
  · cases hstep

/-- A thread of a list with a new one at its end. -/
theorem threads_concat {threads : List PresentThread} {new thread : PresentThread} {i : Nat}
    (h : (threads ++ [new])[i]? = some thread) :
    threads[i]? = some thread ∨ (i = threads.length ∧ thread = new) := by
  rcases Nat.lt_trichotomy i threads.length with hlt | rfl | hgt
  · exact Or.inl (List.getElem?_append_left hlt ▸ h)
  · exact Or.inr ⟨rfl, by simpa [eq_comm] using h⟩
  · rw [List.getElem?_eq_none (by simp; omega)] at h
    cases h

theorem createdThread_tidy {s s' : DisplayState} {status : NTSTATUS} (h : Tidy s)
    (hstep : createdThread s status = some s') : Tidy s' ∧ s.KeepsSwapChain s' := by
  rw [createdThread] at hstep
  split at hstep
  · rename_i hcreating
    have hcallback := h.callback
    rw [hcreating] at hcallback
    obtain ⟨hnone, hquiet⟩ := hcallback
    split at hstep
    · obtain rfl := Option.some.inj hstep
      refine ⟨⟨h.removal, ?_, ?_, ?_, ?_, ?_⟩, fun _ _ _ _ _ => rfl⟩
      · intro i thread hi hrunning
        rcases threads_concat hi with hi | ⟨rfl, _⟩
        · exact absurd ⟨thread, hi, hrunning⟩ (hquiet i)
        · simp
      · intro i thread hi hrunning
        rcases threads_concat hi with hi | ⟨_, rfl⟩
        · exact absurd ⟨thread, hi, hrunning⟩ (hquiet i)
        · rfl
      · intro t ht
        exact absurd (ht.symm.trans hnone) (Option.some_ne_none t)
      · intro i thread hi
        rcases threads_concat hi with hi | ⟨_, rfl⟩
        · exact h.owed i thread hi
        · simp [hnone]
      · exact ⟨hnone, by simp⟩
    · obtain rfl := Option.some.inj hstep
      exact ⟨{ h with callback := trivial }, fun _ _ _ _ _ => rfl⟩
  · cases hstep

/-- A thread of a list where one has been changed. -/
theorem threads_modify {threads : List PresentThread} {f : PresentThread → PresentThread}
    {thread : PresentThread} {i t : Nat} (h : (threads.modify t f)[i]? = some thread) :
    ∃ old, threads[i]? = some old ∧ thread = if t = i then f old else old := by
  rw [List.getElem?_modify] at h
  obtain ⟨old, hold, hthread⟩ := Option.map_eq_some_iff.mp h
  refine ⟨old, hold, ?_⟩
  by_cases hchanged : t = i
  · simpa [hchanged, eq_comm] using hthread
  · simpa [hchanged, eq_comm] using hthread

theorem referencedThread_tidy {s s' : DisplayState} {status : NTSTATUS} {cleared : Bool}
    (h : Tidy s) (hstep : referencedThread s status cleared = some s') :
    Tidy s' ∧ s.KeepsSwapChain s' := by
  rw [referencedThread] at hstep
  split at hstep
  · rename_i t hreferencing
    have hcallback := h.callback
    rw [hreferencing] at hcallback
    obtain ⟨hnone, hlast⟩ := hcallback
    split at hstep
    · obtain rfl := Option.some.inj hstep
      refine ⟨⟨h.removal, ?_, ?_, ?_, ?_, trivial⟩, fun _ _ _ _ _ => rfl⟩
      · intro i thread hi hrunning
        obtain ⟨old, hold, rfl⟩ := threads_modify hi
        have hyoungest := h.youngest i old hold (by grind)
        simpa using hyoungest
      · intro i thread hi hrunning
        obtain ⟨old, hold, rfl⟩ := threads_modify hi
        have hstarted := h.started i old hold (by grind)
        grind
      · intro u hu
        obtain rfl := Option.some.inj hu
        simpa using hlast
      · intro i thread hi
        obtain ⟨old, hold, rfl⟩ := threads_modify hi
        have howed := h.owed i old hold
        grind
    · obtain rfl := Option.some.inj hstep
      have hpointer : (if cleared then none else s.swapChainCtx.presentThread) = none := by
        rw [hnone, ite_self]
      refine ⟨⟨h.removal, h.youngest, h.started, ?_, ?_, trivial⟩, fun _ _ _ _ _ => rfl⟩
      · intro u hu
        exact absurd (hu.symm.trans hpointer) (Option.some_ne_none u)
      · intro i thread hi
        have howed := h.owed i thread hi
        simpa [hnone] using howed
  · cases hstep

theorem unassignSwapChain_tidy {s s' : DisplayState} (h : Tidy s)
    (horderly : Orderly s .unassignSwapChain)
    (hstep : displayEvtUnassignSwapChain s = some s') :
    Tidy s' ∧ s.KeepsSwapChain s' ∧ (s'.monitorCallback = .idle → s'.Balanced) := by
  rw [displayEvtUnassignSwapChain] at hstep
  split at hstep
  · rename_i hidle
    split at hstep
    · rename_i t hrecorded
      obtain rfl := Option.some.inj hstep
      exact ⟨{ h with callback := hrecorded }, fun _ _ _ _ _ => rfl, nofun⟩
    · rename_i hnone
      have hquiet := horderly hnone
      obtain rfl := Option.some.inj hstep
      refine ⟨{ h with started := ?_, callback := ?_ }, keepsSwapChain_of_not_running hquiet,
        fun _ => h.balanced hnone⟩
      · intro i thread hi hrunning
        exact absurd ⟨thread, hi, hrunning⟩ (hquiet i)
      · rw [hidle]
        trivial
  · cases hstep

/-- Once the thread has ended whose end `DisplayEvtUnassignSwapChain` waits for, no
thread runs. -/
theorem Tidy.quiet {s : DisplayState} (h : Tidy s) {t : Nat} (hlast : t + 1 = s.threads.length)
    (hterminated : s.Terminated t) (i : Nat) : ¬ s.Running i := by
  intro hparts
  obtain ⟨thread, hi, hrunning⟩ := hparts
  obtain ⟨ended, ht, hphase⟩ := hterminated
  have hyoungest := h.youngest i thread hi hrunning
  obtain rfl : i = t := by omega
  obtain rfl := Option.some.inj (hi.symm.trans ht)
  exact hrunning hphase

theorem unassignAwaited_tidy {s s' : DisplayState} (h : Tidy s)
    (hstep : unassignAwaited s = some s') :
    Tidy s' ∧ s.KeepsSwapChain s' ∧ s'.Balanced := by
  rw [unassignAwaited] at hstep
  split at hstep
  · rename_i t hawaiting
    have hrecorded : s.swapChainCtx.presentThread = some t := by
      have hcallback := h.callback
      rw [hawaiting] at hcallback
      exact hcallback
    have hlast := h.recorded t hrecorded
    split at hstep
    · rename_i hterminated
      have hquiet := h.quiet hlast hterminated
      rw [hrecorded] at hstep
      obtain rfl := Option.some.inj hstep
      have hold : ∀ (i : Nat) (thread old : PresentThread), s.threads[i]? = some old →
          (thread = if t = i then { old with dereferences := old.dereferences + 1 } else old) →
          thread.phase = .terminated ∧ thread.references = thread.dereferences := by
        intro i thread old hi hthread
        have hphase : old.phase = .terminated :=
          not_not.mp fun hrunning => hquiet i ⟨old, hi, hrunning⟩
        have howed := h.owed i old hi
        grind
      have htidy : Tidy { s with
          swapChainCtx := { s.swapChainCtx with presentThread := none, swapChain := none }
          threads := s.threads.modify t fun thread =>
            { thread with dereferences := thread.dereferences + 1 }
          monitorCallback := .idle } := by
        refine ⟨h.removal, ?_, ?_, nofun, ?_, trivial⟩
        · intro i thread hi hrunning
          obtain ⟨old, ho, hthread⟩ := threads_modify hi
          exact absurd (hold i thread old ho hthread).1 hrunning
        · intro i thread hi hrunning
          obtain ⟨old, ho, hthread⟩ := threads_modify hi
          exact absurd (hold i thread old ho hthread).1 hrunning
        · intro i thread hi
          obtain ⟨old, ho, hthread⟩ := threads_modify hi
          exact (hold i thread old ho hthread).2
      exact ⟨htidy, keepsSwapChain_of_not_running hquiet, htidy.balanced rfl⟩
    · cases hstep
  · cases hstep

theorem surpriseRemoval_tidy {s s' : DisplayState} (h : Tidy s)
    (horderly : Orderly s .surpriseRemoval)
    (hstep : displayEvtSurpriseRemoval s = some s') : Tidy s' ∧ s.KeepsSwapChain s' := by
  rw [displayEvtSurpriseRemoval, h.removal] at hstep
  have hnone : s.swapChainCtx.presentThread = none := horderly
  rw [hnone] at hstep
  obtain rfl := Option.some.inj hstep
  exact ⟨h, fun _ _ _ _ _ => rfl⟩

/-- A thread that goes on was running. -/
theorem presentProcessingThread_running {ctx : SwapChainContext} {phase phase' : ThreadPhase}
    {event : ThreadEvent} (h : presentProcessingThread ctx phase event = some phase') :
    phase ≠ .terminated := by
  intro heq
  obtain rfl := heq
  cases event <;> simp [presentProcessingThread] at h

theorem threadGoesOn_tidy {s s' : DisplayState} {i : Nat} {event : ThreadEvent} (h : Tidy s)
    (hstep : threadGoesOn s i event = some s') : Tidy s' ∧ s.KeepsSwapChain s' := by
  rw [threadGoesOn] at hstep
  split at hstep
  · rename_i thread hthread
    split at hstep
    · rename_i phase hgoes
      have hrunning := presentProcessingThread_running hgoes
      obtain rfl := Option.some.inj hstep
      -- Every thread is as before, but for where thread `i` is in its loop.
      have hsame : ∀ (j : Nat) (new : PresentThread),
          (s.threads.set i { thread with phase := phase })[j]? = some new →
          ∃ old, s.threads[j]? = some old ∧ new.startedOn = old.startedOn ∧
            new.references = old.references ∧ new.dereferences = old.dereferences ∧
            (new.phase ≠ .terminated → old.phase ≠ .terminated) := by
        intro j new hj
        rw [List.getElem?_set] at hj
        grind
      refine ⟨⟨h.removal, ?_, ?_, ?_, ?_, ?_⟩, fun _ _ _ _ _ => rfl⟩
      · intro j new hj hnew
        obtain ⟨old, hold, _, _, _, hphase⟩ := hsame j new hj
        have hyoungest := h.youngest j old hold (hphase hnew)
        simpa using hyoungest
      · intro j new hj hnew
        obtain ⟨old, hold, hstarted, _, _, hphase⟩ := hsame j new hj
        exact hstarted.trans (h.started j old hold (hphase hnew))
      · intro t ht
        have hlast := h.recorded t ht
        simpa using hlast
      · intro j new hj
        obtain ⟨old, hold, _, hreferences, hdereferences, _⟩ := hsame j new hj
        have howed := h.owed j old hold
        rw [hreferences, hdereferences]
        exact howed
      · have hcallback := h.callback
        cases hmonitor : s.monitorCallback with
        | idle => trivial
        | creatingThread =>
            rw [hmonitor] at hcallback
            exact absurd ⟨thread, hthread, hrunning⟩ (hcallback.2 i)
        | referencingThread t =>
            rw [hmonitor] at hcallback
            exact ⟨hcallback.1, by simpa using hcallback.2⟩
        | awaitingThread t =>
            rw [hmonitor] at hcallback
            exact hcallback
    · cases hstep
  · cases hstep

/-- **Step.**  An orderly event keeps the invariant and does what it is meant to. -/
theorem displayStep_tidy {s s' : DisplayState} {event : DisplayEvent} (h : Tidy s)
    (horderly : Orderly s event) (hstep : displayStep s event = some s') :
    Tidy s' ∧ s.KeepsSwapChain s' ∧ (Unassigned event s' → s'.Balanced) := by
  -- Only the two events of `DisplayEvtUnassignSwapChain` can end it.
  have hother : ∀ {p : Prop}, event ≠ .unassignSwapChain → event ≠ .unassignAwaited →
      (Unassigned event s' → p) := by
    intro p hbegin hawaited hunassigned
    rcases hunassigned.1 with heq | heq
    · exact absurd heq hbegin
    · exact absurd heq hawaited
  cases event with
  | assignSwapChain hSwapChain setDevice =>
      obtain ⟨htidy, hkeeps⟩ := assignSwapChain_tidy h horderly hstep
      exact ⟨htidy, hkeeps, hother nofun nofun⟩
  | createdThread status =>
      obtain ⟨htidy, hkeeps⟩ := createdThread_tidy h hstep
      exact ⟨htidy, hkeeps, hother nofun nofun⟩
  | referencedThread status cleared =>
      obtain ⟨htidy, hkeeps⟩ := referencedThread_tidy h hstep
      exact ⟨htidy, hkeeps, hother nofun nofun⟩
  | unassignSwapChain =>
      obtain ⟨htidy, hkeeps, hbalanced⟩ := unassignSwapChain_tidy h horderly hstep
      exact ⟨htidy, hkeeps, fun hunassigned => hbalanced hunassigned.2⟩
  | unassignAwaited =>
      obtain ⟨htidy, hkeeps, hbalanced⟩ := unassignAwaited_tidy h hstep
      exact ⟨htidy, hkeeps, fun _ => hbalanced⟩
  | surpriseRemoval =>
      obtain ⟨htidy, hkeeps⟩ := surpriseRemoval_tidy h horderly hstep
      exact ⟨htidy, hkeeps, hother nofun nofun⟩
  | removalAwaited timedOut =>
      rw [displayStep, removalAwaited, h.removal] at hstep
      cases hstep
  | thread i event =>
      obtain ⟨htidy, hkeeps⟩ := threadGoesOn_tidy h hstep
      exact ⟨htidy, hkeeps, hother nofun nofun⟩

/-- **Run.**  The invariant holds wherever an orderly run gets. -/
theorem orderly_tidy {s : DisplayState} (run : Runs.Run displayStep Orderly {} s) : Tidy s :=
  run.invariant tidy_initial fun _ _ _ h horderly hstep => (displayStep_tidy h horderly hstep).1

/-- A present thread asks for the frames of the swap chain it was started on. -/
theorem orderly_started {s : DisplayState} (run : Runs.Run displayStep Orderly {} s) {i : Nat}
    {thread : PresentThread} (hi : s.threads[i]? = some thread)
    (hrunning : thread.phase ≠ .terminated) :
    thread.startedOn = s.swapChainCtx.swapChain :=
  (orderly_tidy run).started i thread hi hrunning

/-- **When present threads live as they are meant to.**  In every run whose events
are all orderly at most one runs, its swap chain stays, and once the swap chain is
unassigned no reference is left over. -/
theorem presentThread_lifecycle {s : DisplayState} (run : Runs.Run displayStep Orderly {} s) :
    s.AtMostOneRuns ∧ ∀ event s', Orderly s event → displayStep s event = some s' →
      s.KeepsSwapChain s' ∧ (Unassigned event s' → s'.Balanced) := by
  have htidy := orderly_tidy run
  refine ⟨htidy.atMostOneRuns, ?_⟩
  intro event s' horderly hstep
  exact (displayStep_tidy htidy horderly hstep).2

/-- A swap chain is assigned, its thread presents a frame, is told to stop, and ends;
then the swap chain is unassigned. -/
theorem presentThread_lifecycle_once :
    ∃ s s', Runs.after displayStep {} [.assignSwapChain 1 STATUS_SUCCESS,
        .createdThread STATUS_SUCCESS, .referencedThread STATUS_SUCCESS false, .thread 0 .tested,
        .thread 0 (.waited true), .thread 0 (.acquired STATUS_SUCCESS true), .unassignSwapChain,
        .thread 0 .presented, .thread 0 .tested] = some s ∧
      displayStep s .unassignAwaited = some s' ∧ s.AtMostOneRuns ∧ s.KeepsSwapChain s' ∧
      s'.Balanced := by
  have hquiet : ∀ i, ¬ DisplayState.Running {} i := by
    intro i h
    obtain ⟨thread, hi, _⟩ := h
    cases hi
  have hrun : Runs.Run displayStep Orderly {} _ :=
    ((((((((Runs.Run.start.next (e := .assignSwapChain 1 STATUS_SUCCESS)
      (fun _ => ⟨rfl, hquiet⟩) rfl).next (e := .createdThread STATUS_SUCCESS) trivial rfl).next
      (e := .referencedThread STATUS_SUCCESS false) trivial rfl).next
      (e := .thread 0 .tested) trivial rfl).next
      (e := .thread 0 (.waited true)) trivial rfl).next
      (e := .thread 0 (.acquired STATUS_SUCCESS true)) trivial rfl).next
      (e := .unassignSwapChain) nofun rfl).next
      (e := .thread 0 .presented) trivial rfl).next
      (e := .thread 0 .tested) trivial rfl
  obtain ⟨hone, hsteps⟩ := presentThread_lifecycle hrun
  obtain ⟨hkeeps, hbalanced⟩ := hsteps .unassignAwaited _ trivial rfl
  exact ⟨_, _, rfl, rfl, hone, hkeeps, hbalanced ⟨Or.inr rfl, rfl⟩⟩

/-- A removal while the thread is inside `PipelineHandlePresent` times out.  The thread
goes on without its reference, and the next call takes its swap chain away. -/
theorem presentThread_outlives : ¬ Lifecycle fun _ _ => True := by
  intro h
  have hrun : Runs.Run displayStep (fun _ _ => True) {} _ :=
    @Runs.Run.of_after _ _ displayStep {} _ [.assignSwapChain 1 STATUS_SUCCESS,
      .createdThread STATUS_SUCCESS, .referencedThread STATUS_SUCCESS false, .thread 0 .tested,
      .thread 0 (.waited true), .thread 0 (.acquired STATUS_SUCCESS true), .surpriseRemoval,
      .removalAwaited true] rfl
  have hkeeps := ((h _ hrun).2 .unassignSwapChain _ trivial rfl).1
  have hgone := hkeeps 0 _ rfl (by decide) rfl
  cases hgone

end Windows

end RpUsbDisp
