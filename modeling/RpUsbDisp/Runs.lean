/-!
# Runs of a partial step function

`step s e` says what an event does in a state, and has no result where the event
cannot happen.  A run takes one event after the other, each one that is allowed in
the state it meets; what holds at the start and is kept by every allowed step holds
wherever a run gets.
-/

namespace Runs

variable {σ ε : Type}

/-- The states that the runs from `start` get to. -/
inductive Run (step : σ → ε → Option σ) (allowed : σ → ε → Prop) (start : σ) : σ → Prop
  | start : Run step allowed start start
  | next {s s' : σ} {e : ε} (run : Run step allowed start s) (h : allowed s e)
      (hstep : step s e = some s') : Run step allowed start s'

variable {step : σ → ε → Option σ} {allowed : σ → ε → Prop} {start : σ}

/-- **The rule of invariants.** -/
theorem Run.invariant {I : σ → Prop} (hstart : I start)
    (hkeep : ∀ s s' e, I s → allowed s e → step s e = some s' → I s') {s : σ}
    (run : Run step allowed start s) : I s := by
  induction run with
  | start => exact hstart
  | next _ h hstep ih => exact hkeep _ _ _ ih h hstep

/-- A run goes on where another one got. -/
theorem Run.trans {s s' : σ} (run : Run step allowed start s) (more : Run step allowed s s') :
    Run step allowed start s' := by
  induction more with
  | start => exact run
  | next _ h hstep ih => exact ih.next h hstep

/-- More runs when more is allowed. -/
theorem Run.mono {more : σ → ε → Prop} (hmore : ∀ s e, allowed s e → more s e) {s : σ}
    (run : Run step allowed start s) : Run step more start s := by
  induction run with
  | start => exact .start
  | next _ h hstep ih => exact ih.next (hmore _ _ h) hstep

/-- The state after a list of events. -/
def after (step : σ → ε → Option σ) : σ → List ε → Option σ
  | s, [] => some s
  | s, e :: rest => (step s e).bind fun s' => after step s' rest

/-- Every event of the list is allowed where it happens. -/
def AllowedThrough (step : σ → ε → Option σ) (allowed : σ → ε → Prop) : σ → List ε → Prop
  | _, [] => True
  | s, e :: rest => allowed s e ∧ ∀ s', step s e = some s' → AllowedThrough step allowed s' rest

/-- An event that can happen, and the events after it. -/
theorem allowedThrough_cons {s s' : σ} {e : ε} {rest : List ε} (hstep : step s e = some s') :
    AllowedThrough step allowed s (e :: rest) ↔
      allowed s e ∧ AllowedThrough step allowed s' rest := by
  constructor
  · intro h
    exact ⟨h.1, h.2 s' hstep⟩
  · intro h
    refine ⟨h.1, fun s₁ hs₁ => ?_⟩
    rw [← Option.some.inj (hstep.symm.trans hs₁)]
    exact h.2

/-- A list of events makes a run. -/
theorem Run.after {s s' : σ} (run : Run step allowed start s) (events : List ε)
    (h : AllowedThrough step allowed s events) (hafter : Runs.after step s events = some s') :
    Run step allowed start s' := by
  induction events generalizing s with
  | nil => exact Option.some.inj hafter ▸ run
  | cons e rest ih =>
      obtain ⟨s₁, hstep, hrest⟩ := Option.bind_eq_some_iff.mp hafter
      exact ih (run.next h.1 hstep) (h.2 s₁ hstep) hrest

/-- Where it does not depend on the state, every event may be looked at alone. -/
theorem allowedThrough_of_forall {P : ε → Prop} {events : List ε} (h : ∀ e ∈ events, P e) (s : σ) :
    AllowedThrough step (fun _ e => P e) s events := by
  induction events generalizing s with
  | nil => trivial
  | cons e rest ih =>
      exact ⟨h e List.mem_cons_self,
        fun s' _ => ih (fun e' he' => h e' (List.mem_cons_of_mem e he')) s'⟩

/-- **Two demands on the events of a run** are one, if they are one in every state that
an invariant describes and what meets them keeps the invariant. -/
theorem allowedThrough_iff {I : σ → Prop} {order P Q : σ → ε → Prop}
    (hiff : ∀ s e, I s → order s e → (P s e ↔ Q s e))
    (hkeep : ∀ s s' e, I s → order s e → Q s e → step s e = some s' → I s') {s : σ} (hs : I s)
    {events : List ε} (horder : AllowedThrough step order s events) :
    AllowedThrough step P s events ↔ AllowedThrough step Q s events := by
  induction events generalizing s with
  | nil => exact Iff.rfl
  | cons e rest ih =>
      obtain ⟨hnow, hlater⟩ := horder
      have hone := hiff s e hs hnow
      constructor
      · intro h
        have hQ := hone.mp h.1
        exact ⟨hQ, fun s' hstep =>
          (ih (hkeep s s' e hs hnow hQ hstep) (hlater s' hstep)).mp (h.2 s' hstep)⟩
      · intro h
        exact ⟨hone.mpr h.1, fun s' hstep =>
          (ih (hkeep s s' e hs hnow h.1 hstep) (hlater s' hstep)).mpr (h.2 s' hstep)⟩

/-- A test of every event where it happens. -/
def checks (step : σ → ε → Option σ) (test : σ → ε → Bool) : σ → List ε → Bool
  | _, [] => true
  | s, e :: rest =>
      test s e && match step s e with
        | some s' => checks step test s' rest
        | none => true

/-- What passes a test that is strict enough is allowed. -/
theorem allowedThrough_of_checks {test : σ → ε → Bool}
    (htest : ∀ s e, test s e = true → allowed s e) {s : σ} {events : List ε}
    (h : checks step test s events = true) : AllowedThrough step allowed s events := by
  induction events generalizing s with
  | nil => trivial
  | cons e rest ih =>
      obtain ⟨hpass, hrest⟩ := Bool.and_eq_true_iff.mp h
      refine ⟨htest s e hpass, ?_⟩
      intro s' hstep
      rw [hstep] at hrest
      exact ih hrest

/-- The state after a list of events, where each of them passes a test. -/
def tested (step : σ → ε → Option σ) (test : σ → ε → Bool) : σ → List ε → Option σ
  | s, [] => some s
  | s, e :: rest => if test s e then (step s e).bind fun s' => tested step test s' rest else none

/-- What passes a test that is strict enough makes a run. -/
theorem Run.of_tested {test : σ → ε → Bool} (htest : ∀ s e, test s e = true → allowed s e)
    {s s' : σ} (run : Run step allowed start s) {events : List ε}
    (h : tested step test s events = some s') : Run step allowed start s' := by
  induction events generalizing s with
  | nil => exact Option.some.inj h ▸ run
  | cons e rest ih =>
      unfold tested at h
      split at h
      · rename_i hpass
        obtain ⟨s₁, hstep, hrest⟩ := Option.bind_eq_some_iff.mp h
        exact ih (run.next (htest s e hpass) hstep) hrest
      · cases h

theorem allowedThrough_true (events : List ε) (s : σ) :
    AllowedThrough step (fun _ _ => True) s events := by
  induction events generalizing s with
  | nil => trivial
  | cons e rest ih => exact ⟨trivial, fun s' _ => ih s'⟩

/-- Where everything is allowed, every list of events that can happen makes a run. -/
theorem Run.of_after {s : σ} {events : List ε} (h : Runs.after step start events = some s) :
    Run step (fun _ _ => True) start s := by
  exact Run.start.after events (allowedThrough_true events start) h

end Runs
