/-!
# Machines that answer

A machine takes its inputs one after the other and answers each of them.  An
answer may depend on what the machine keeps of the inputs before.  Where it does
not, the machine reads only the input; a run of such inputs is answered input by
input.
-/

/-- A machine: what it keeps after an input, and what it answers. -/
structure Machine (σ ι α : Type) where
  next : σ → ι → σ
  answer : σ → ι → α

namespace Machine

variable {σ ι α : Type}

/-- The state after some inputs. -/
def after (m : Machine σ ι α) (s : σ) (inputs : List ι) : σ :=
  inputs.foldl m.next s

/-- The answers to some inputs, one by one. -/
def answers (m : Machine σ ι α) : σ → List ι → List α
  | _, [] => []
  | s, i :: rest => m.answer s i :: m.answers (m.next s i) rest

/-- What the machine answers to `i` does not depend on the inputs before, nor on where
it started. -/
def Memoryless (m : Machine σ ι α) (Start : σ → Prop) (i : ι) : Prop :=
  ∀ s₁ s₂, Start s₁ → Start s₂ → ∀ before₁ before₂,
    m.answer (m.after s₁ before₁) i = m.answer (m.after s₂ before₂) i

/-- Whatever came before, the machine answers `i` by `a`. -/
def Always (m : Machine σ ι α) (Start : σ → Prop) (i : ι) (a : α) : Prop :=
  ∀ s, Start s → ∀ before, m.answer (m.after s before) i = a

variable {m : Machine σ ι α} {Start : σ → Prop} {i : ι}

theorem Always.of_answer {a : α} (h : ∀ s, m.answer s i = a) : m.Always Start i a :=
  fun s _ before => h (m.after s before)

theorem Always.memoryless {a : α} (h : m.Always Start i a) : m.Memoryless Start i := by
  intro s₁ s₂ h₁ h₂ before₁ before₂
  rw [h s₁ h₁ before₁, h s₂ h₂ before₂]

/-- **Runs of inputs that are read alone** are answered input by input. -/
theorem answers_eq_map {f : ι → α} {inputs : List ι} (h : ∀ i ∈ inputs, ∀ s, m.answer s i = f i)
    (s : σ) : m.answers s inputs = inputs.map f := by
  induction inputs generalizing s with
  | nil => rfl
  | cons i rest ih =>
      have hhead : m.answer s i = f i := h i List.mem_cons_self s
      have htail := ih (fun j hj => h j (List.mem_cons_of_mem i hj)) (m.next s i)
      rw [answers, hhead, htail, List.map_cons]

end Machine
