import Mathlib.Logic.Relation
import Mathlib.Data.List.Perm.Basic
import RpUsbDisp.Programs

/-!
# Interleaved threads

Any number of programs run over one shared state, one atomic operation at a
time and in any order.  `exec` says what an operation does to the shared state;
an operation that has to wait (a lock that is taken) has no result there.  A
choice argument stands for whatever the shared state does not decide.

Every thread carries the ghost state of a protocol.  Threads whose programs
satisfy a weakest precondition keep satisfying it (`World.Fine`), as long as
every answer is one the protocol allows; what the ghosts say together is then
a matter of an invariant over the shared state and the list of ghosts.
-/

namespace Programs

/-- A running program and the ghost state of its conversation so far. -/
structure Thread (Op : Type) (Res : Op → Type) (α γ : Type) where
  prog : Prog Op Res α
  ghost : γ

/-- What a thread asks next. -/
def Thread.asks {Op : Type} {Res : Op → Type} {α γ : Type} (t : Thread Op Res α γ) : Option Op :=
  match t.prog with
  | .op o _ => some o
  | _ => none

/-- The shared state and the threads running over it. -/
structure World (σ : Type) (Op : Type) (Res : Op → Type) (α γ : Type) where
  shared : σ
  threads : List (Thread Op Res α γ)

variable {σ χ : Type} {Op : Type} {Res : Op → Type} {α γ : Type}

theorem Thread.asks_some {t : Thread Op Res α γ} {o : Op} (h : t.asks = some o) :
    ∃ k, t = ⟨.op o k, t.ghost⟩ := by
  obtain ⟨p, g⟩ := t
  cases p with
  | op o' k =>
      cases h
      exact ⟨k, rfl⟩
  | ret a => cases h
  | fault e => cases h

namespace World

/-- The ghosts of the threads. -/
def ghosts (w : World σ Op Res α γ) : List γ :=
  w.threads.map Thread.ghost

/-- A new thread. -/
def spawn (w : World σ Op Res α γ) (s : σ) (p : Prog Op Res α) (g : γ) : World σ Op Res α γ :=
  ⟨s, w.threads ++ [⟨p, g⟩]⟩

/-- Thread `i` does its next operation; `c` settles what is open in it. -/
def step (exec : σ → (o : Op) → χ → Option (Res o × σ)) (track : γ → (o : Op) → Res o → γ)
    (w : World σ Op Res α γ) (i : Nat) (c : χ) : Option (World σ Op Res α γ) :=
  match w.threads[i]? with
  | some ⟨.op o k, g⟩ =>
      match exec w.shared o c with
      | some (r, s) => some ⟨s, w.threads.set i ⟨k r, track g o r⟩⟩
      | none => none
  | _ => none

/-- Thread `i` has returned and is gone. -/
def finish (w : World σ Op Res α γ) (i : Nat) : Option (World σ Op Res α γ) :=
  match w.threads[i]? with
  | some ⟨.ret _, _⟩ => some { w with threads := w.threads.eraseIdx i }
  | _ => none

variable {exec : σ → (o : Op) → χ → Option (Res o × σ)} {track : γ → (o : Op) → Res o → γ}

/-- Everything a step of a thread can be. -/
theorem step_some {w w' : World σ Op Res α γ} {i : Nat} {c : χ}
    (h : w.step exec track i c = some w') :
    ∃ o k g r s, w.threads[i]? = some ⟨.op o k, g⟩ ∧ exec w.shared o c = some (r, s) ∧
      w' = ⟨s, w.threads.set i ⟨k r, track g o r⟩⟩ := by
  unfold step at h
  split at h
  · rename_i o k g hi
    split at h
    · rename_i r s hexec
      exact ⟨o, k, g, r, s, hi, hexec, (Option.some.inj h).symm⟩
    · cases h
  · cases h

/-- A thread that finishes has returned something. -/
theorem finish_some {w w' : World σ Op Res α γ} {i : Nat} (h : w.finish i = some w') :
    ∃ a g, w.threads[i]? = some ⟨.ret a, g⟩ ∧
      w' = { w with threads := w.threads.eraseIdx i } := by
  unfold finish at h
  split at h
  · rename_i a g hi
    exact ⟨a, g, hi, (Option.some.inj h).symm⟩
  · cases h

/-- Every thread still satisfies its weakest precondition. -/
def Fine (P : Protocol Op Res γ) (F : Fault → Prop) (Q : α → γ → Prop) (w : World σ Op Res α γ) : Prop :=
  ∀ t ∈ w.threads, t.prog.wp P F Q t.ghost

variable {P : Protocol Op Res γ} {F : Fault → Prop} {Q : α → γ → Prop}

theorem Fine.thread {w : World σ Op Res α γ} (h : w.Fine P F Q) {i : Nat} {t : Thread Op Res α γ}
    (hi : w.threads[i]? = some t) : t.prog.wp P F Q t.ghost :=
  h t (List.mem_of_getElem? hi)

/-- What a thread asks next is allowed. -/
theorem Fine.pre {w : World σ Op Res α γ} (h : w.Fine P F Q) {i : Nat} {o : Op}
    {k : Res o → Prog Op Res α} {g : γ} (hi : w.threads[i]? = some ⟨.op o k, g⟩) : P.pre g o :=
  (h.thread hi).1

/-- What a thread asks next is allowed. -/
theorem Fine.asks {w : World σ Op Res α γ} (h : w.Fine P F Q) {t : Thread Op Res α γ}
    (ht : t ∈ w.threads) {o : Op} (ho : t.asks = some o) : P.pre t.ghost o := by
  obtain ⟨k, hk⟩ := Thread.asks_some ho
  have hwp := h t ht
  rw [hk] at hwp
  exact hwp.1

theorem Fine.spawn {w : World σ Op Res α γ} (h : w.Fine P F Q) {s : σ} {p : Prog Op Res α} {g : γ}
    (hp : p.wp P F Q g) : (w.spawn s p g).Fine P F Q := by
  intro t ht
  rcases List.mem_append.mp ht with ht | ht
  · exact h t ht
  · rw [List.mem_singleton.mp ht]
    exact hp

/-- An allowed answer keeps every thread fine. -/
theorem Fine.set {w : World σ Op Res α γ} (h : w.Fine P F Q) {i : Nat} {o : Op}
    {k : Res o → Prog Op Res α} {g : γ} (hi : w.threads[i]? = some ⟨.op o k, g⟩)
    {r : Res o} (hr : P.answer g o r) (s : σ) :
    World.Fine P F Q ⟨s, w.threads.set i ⟨k r, P.track g o r⟩⟩ := by
  intro t ht
  rcases List.mem_or_eq_of_mem_set ht with ht | rfl
  · exact h t ht
  · exact (h.thread hi).2 r hr

theorem Fine.erase {w : World σ Op Res α γ} (h : w.Fine P F Q) (i : Nat) :
    World.Fine P F Q { w with threads := w.threads.eraseIdx i } := by
  intro t ht
  exact h t (List.mem_of_mem_eraseIdx ht)

/-- A finishing thread has reached its postcondition. -/
theorem Fine.ret {w : World σ Op Res α γ} (h : w.Fine P F Q) {i : Nat} {a : α} {g : γ}
    (hi : w.threads[i]? = some ⟨.ret a, g⟩) : Q a g :=
  h.thread hi

/-- The threads go on, in any order, for any number of operations. -/
def Steps (exec : σ → (o : Op) → χ → Option (Res o × σ)) (track : γ → (o : Op) → Res o → γ) :
    World σ Op Res α γ → World σ Op Res α γ → Prop :=
  Relation.ReflTransGen fun w w' => ∃ i c, w.step exec track i c = some w'

/-- **A thread can run alone.**  If the shared state can always answer what the
protocol allows to be asked, a fine thread that runs by itself gets to its end,
and the end is a good one. -/
theorem runs_alone (choose : γ → Op → χ) (I : σ → γ → Prop)
    (hI : ∀ s g o, I s g → P.pre g o → ∃ r s', exec s o (choose g o) = some (r, s') ∧
      P.answer g o r ∧ I s' (P.track g o r))
    {p : Prog Op Res α} {s : σ} {g : γ} (hp : p.wp P F Q g) (hs : I s g) :
    ∃ s' q g', Steps exec P.track ⟨s, [⟨p, g⟩]⟩ ⟨s', [⟨q, g'⟩]⟩ ∧ I s' g' ∧
      ((∃ a, q = .ret a ∧ Q a g') ∨ ∃ e, q = .fault e ∧ F e) := by
  induction p generalizing s g with
  | ret a => exact ⟨s, .ret a, g, .refl, hs, Or.inl ⟨a, rfl, hp⟩⟩
  | fault e => exact ⟨s, .fault e, g, .refl, hs, Or.inr ⟨e, rfl, hp⟩⟩
  | op o k ih =>
      obtain ⟨r, s₁, hexec, hr, hs₁⟩ := hI s g o hs hp.1
      obtain ⟨s', q, g', hsteps, hend⟩ := ih r (hp.2 r hr) hs₁
      refine ⟨s', q, g', .head ⟨0, choose g o, ?_⟩ hsteps, hend⟩
      simp [step, hexec]

section Second

/-! ## A second protocol

The ghosts of a world belong to one protocol.  Threads may keep to others besides,
in states that nothing records. -/

variable {φ : Type}

/-- Every thread that it is about keeps to the protocol, in a state that fits the
shared state. -/
def Keeps (P : Protocol Op Res φ) (F : Fault → Prop) (Q : α → φ → Prop) (about : σ → γ → Prop)
    (J : σ → φ → Prop) (w : World σ Op Res α γ) : Prop :=
  ∀ t ∈ w.threads, about w.shared t.ghost → ∃ p, t.prog.wp P F Q p ∧ J w.shared p

variable {P : Protocol Op Res φ} {Q : α → φ → Prop} {about : σ → γ → Prop} {J : σ → φ → Prop}
  {w : World σ Op Res α γ}

/-- **An operation.**  The thread that does it is answered as the protocol says, and
the states of the others fit what it leaves. -/
theorem Keeps.set (h : w.Keeps P F Q about J) {i : Nat} {o : Op} {k : Res o → Prog Op Res α}
    {g g' : γ} (hi : w.threads[i]? = some ⟨.op o k, g⟩) {r : Res o} {s : σ}
    (hself : about s g' → about w.shared g ∧
      ∀ p, P.pre p o → J w.shared p → P.answer p o r ∧ J s (P.track p o r))
    (hothers : ∀ j u, w.threads[j]? = some u → j ≠ i → about s u.ghost →
      about w.shared u.ghost ∧ ∀ p, J w.shared p → J s p) :
    World.Keeps P F Q about J ⟨s, w.threads.set i ⟨k r, g'⟩⟩ := by
  intro t ht habout
  obtain ⟨hlt, _⟩ := List.getElem?_eq_some_iff.mp hi
  obtain ⟨j, hj⟩ := List.mem_iff_getElem?.mp ht
  by_cases hji : j = i
  · subst hji
    rw [List.getElem?_set_self hlt] at hj
    cases hj
    obtain ⟨hbefore, hstep⟩ := hself habout
    obtain ⟨p, hp, hfits⟩ := h _ (List.mem_of_getElem? hi) hbefore
    obtain ⟨hanswer, hfits'⟩ := hstep p hp.1 hfits
    exact ⟨_, hp.2 r hanswer, hfits'⟩
  · rw [List.getElem?_set_ne (Ne.symm hji)] at hj
    obtain ⟨hbefore, hstep⟩ := hothers j t hj hji habout
    obtain ⟨p, hp, hfits⟩ := h t (List.mem_of_getElem? hj) hbefore
    exact ⟨p, hp, hstep p hfits⟩

/-- **A new thread.** -/
theorem Keeps.spawn (h : w.Keeps P F Q about J) {s : σ} {p : Prog Op Res α} {g : γ}
    (hnew : about s g → ∃ x, p.wp P F Q x ∧ J s x)
    (hothers : ∀ u ∈ w.threads, about s u.ghost →
      about w.shared u.ghost ∧ ∀ x, J w.shared x → J s x) :
    (w.spawn s p g).Keeps P F Q about J := by
  intro t ht habout
  rcases List.mem_append.mp ht with ht | ht
  · obtain ⟨hbefore, hstep⟩ := hothers t ht habout
    obtain ⟨x, hx, hfits⟩ := h t ht hbefore
    exact ⟨x, hx, hstep x hfits⟩
  · rw [List.mem_singleton.mp ht] at habout ⊢
    exact hnew habout

end Second

end World

section Accounts

/-! ## What all threads hold together -/

variable {ι : Type} (held : γ → List ι)

/-- Everything some thread holds. -/
def holdings (ts : List (Thread Op Res α γ)) : List ι :=
  ts.flatMap fun t => held t.ghost

theorem holdings_append (ts : List (Thread Op Res α γ)) (t : Thread Op Res α γ) :
    holdings held (ts ++ [t]) = holdings held ts ++ held t.ghost := by
  simp [holdings]

/-- One thread's share stands out of the whole. -/
theorem holdings_perm {ts : List (Thread Op Res α γ)} {i : Nat} {t : Thread Op Res α γ}
    (hi : ts[i]? = some t) :
    (holdings held ts).Perm (held t.ghost ++ holdings held (ts.eraseIdx i)) := by
  obtain ⟨hlt, rfl⟩ := List.getElem?_eq_some_iff.mp hi
  exact (List.getElem_cons_eraseIdx_perm hlt).symm.flatMap_right
    (fun u : Thread Op Res α γ => held u.ghost)

/-- A thread that moves on changes its own share only. -/
theorem holdings_set_perm {ts : List (Thread Op Res α γ)} {i : Nat} (t : Thread Op Res α γ)
    (hi : i < ts.length) :
    (holdings held (ts.set i t)).Perm (held t.ghost ++ holdings held (ts.eraseIdx i)) :=
  (List.set_perm_cons_eraseIdx hi t).flatMap_right (fun u : Thread Op Res α γ => held u.ghost)

/-- What the threads hold of something that is counted. -/
def total (count : γ → Nat) (ts : List (Thread Op Res α γ)) : Nat :=
  (ts.map fun t => count t.ghost).sum

variable {count : γ → Nat}

@[simp] theorem total_nil : total count ([] : List (Thread Op Res α γ)) = 0 := rfl

theorem total_append (ts : List (Thread Op Res α γ)) (t : Thread Op Res α γ) :
    total count (ts ++ [t]) = total count ts + count t.ghost := by
  simp [total]

/-- One thread's share stands out of the whole. -/
theorem total_eraseIdx {ts : List (Thread Op Res α γ)} {i : Nat} {t : Thread Op Res α γ}
    (hi : ts[i]? = some t) : total count ts = total count (ts.eraseIdx i) + count t.ghost := by
  obtain ⟨hlt, rfl⟩ := List.getElem?_eq_some_iff.mp hi
  have hsum := ((List.getElem_cons_eraseIdx_perm hlt).map fun t => count t.ghost).sum_nat
  rw [List.map_cons, List.sum_cons] at hsum
  rw [total, ← hsum, Nat.add_comm]
  rfl

/-- A thread that moves on changes its own share only. -/
theorem total_set {ts : List (Thread Op Res α γ)} {i : Nat} (t : Thread Op Res α γ)
    (hi : i < ts.length) :
    total count (ts.set i t) = total count (ts.eraseIdx i) + count t.ghost := by
  have hsum := ((List.set_perm_cons_eraseIdx hi t).map fun t => count t.ghost).sum_nat
  rw [List.map_cons, List.sum_cons] at hsum
  rw [total, hsum, Nat.add_comm]
  rfl

/-- A thread's share is part of the whole. -/
theorem count_le_total {ts : List (Thread Op Res α γ)} {t : Thread Op Res α γ} (ht : t ∈ ts) :
    count t.ghost ≤ total count ts := by
  obtain ⟨i, hi⟩ := List.mem_iff_getElem?.mp ht
  rw [total_eraseIdx hi]
  exact Nat.le_add_left _ _

/-- The shares of two threads are part of the whole. -/
theorem count_add_le_total {ts : List (Thread Op Res α γ)} {i j : Nat} {t u : Thread Op Res α γ}
    (hi : ts[i]? = some t) (hj : ts[j]? = some u) (hne : j ≠ i) :
    count t.ghost + count u.ghost ≤ total count ts := by
  have hu : u ∈ ts.eraseIdx i := List.mem_eraseIdx_iff_getElem?.mpr ⟨j, hne, hj⟩
  have hle : count u.ghost ≤ total count (ts.eraseIdx i) := count_le_total hu
  rw [total_eraseIdx hi]
  omega

end Accounts

section Ghosts

/-! ## The ghosts of a world, one apart -/

/-- The ghosts of the other threads. -/
def World.others (w : World σ Op Res α γ) (i : Nat) : List γ :=
  (w.threads.eraseIdx i).map Thread.ghost

variable {w : World σ Op Res α γ} {i : Nat} {t : Thread Op Res α γ}

theorem World.ghosts_perm (hi : w.threads[i]? = some t) : w.ghosts.Perm (t.ghost :: w.others i) := by
  obtain ⟨hlt, rfl⟩ := List.getElem?_eq_some_iff.mp hi
  exact (List.getElem_cons_eraseIdx_perm hlt).symm.map Thread.ghost

theorem World.ghosts_set_perm (hi : w.threads[i]? = some t) (s : σ) (u : Thread Op Res α γ) :
    (World.ghosts ⟨s, w.threads.set i u⟩).Perm (u.ghost :: w.others i) := by
  obtain ⟨hlt, _⟩ := List.getElem?_eq_some_iff.mp hi
  exact (List.set_perm_cons_eraseIdx hlt u).map Thread.ghost

theorem World.ghosts_spawn_perm (w : World σ Op Res α γ) (s : σ) (p : Prog Op Res α) (g : γ) :
    (w.spawn s p g).ghosts.Perm (g :: w.ghosts) := by
  have happend : (w.spawn s p g).ghosts = w.ghosts ++ [g] := by
    simp [World.ghosts, World.spawn]
  rw [happend]
  exact List.perm_append_singleton _ _

end Ghosts

end Programs
