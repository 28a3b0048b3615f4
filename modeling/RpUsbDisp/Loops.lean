import Mathlib.Data.List.Basic

/-!
# Loops of C

A `while` loop whose body may return from the function it is in.  A loop need not
end, so it is given how often it may go round at most; without a result it was
still going.  What keeps the condition true keeps the loop going, and a loop whose
states are known ends where the condition fails.
-/

namespace Loops

variable {σ ρ : Type}

/-- `while (cond) body`, for at most `fuel` iterations. -/
def whileLoop (cond : σ → Bool) (body : σ → Except ρ σ) : Nat → σ → Option (Except ρ σ)
  | 0, s => if cond s then none else some (.ok s)
  | fuel + 1, s =>
      if cond s then
        match body s with
        | .ok s' => whileLoop cond body fuel s'
        | .error r => some (.error r)
      else some (.ok s)

variable {cond : σ → Bool} {body : σ → Except ρ σ}

/-- **A loop that does not end**: every state it gets to has another iteration. -/
theorem whileLoop_diverges {I : σ → Prop} (hcond : ∀ s, I s → cond s = true)
    (hbody : ∀ s, I s → ∃ s', body s = .ok s' ∧ I s') {s : σ} (h : I s) (fuel : Nat) :
    whileLoop cond body fuel s = none := by
  induction fuel generalizing s with
  | zero => rw [whileLoop, if_pos (hcond s h)]
  | succ fuel ih =>
      obtain ⟨s', hstep, h'⟩ := hbody s h
      rw [whileLoop, if_pos (hcond s h), hstep]
      exact ih h'

/-- **A loop that ends** after `n` iterations, through the states `f`. -/
theorem whileLoop_counts (f : Nat → σ) {n : Nat} (hend : cond (f n) = false)
    (hgo : ∀ i < n, cond (f i) = true ∧ body (f i) = .ok (f (i + 1))) {fuel : Nat}
    (hfuel : n ≤ fuel) : whileLoop cond body fuel (f 0) = some (.ok (f n)) := by
  induction n generalizing f fuel with
  | zero => cases fuel <;> rw [whileLoop, if_neg (by rw [hend]; decide)]
  | succ n ih =>
      obtain ⟨hcond, hbody⟩ := hgo 0 (Nat.succ_pos n)
      obtain ⟨fuel, rfl⟩ : ∃ k, fuel = k + 1 := ⟨fuel - 1, by omega⟩
      rw [whileLoop, if_pos hcond, hbody]
      exact ih (fun i => f (i + 1)) hend (fun i hi => hgo (i + 1) (by omega)) (by omega)

end Loops
