import RpUsbDisp.Interleaving

/-!
# Books kept beside a world

A world says what is, and not how it came to be.  *Books* are kept beside it: every
operation is entered with its answer when it is done (`World.enter`), so they hold
what the operations so far add up to.

`World.Heeds` is for protocols that are followed without being recorded: every thread
is in some state of a second protocol, and `J` ties this state to the shared state, the
books and the ghost the thread has.
-/

namespace Programs

variable {σ χ β : Type} {Op : Type} {Res : Op → Type} {α γ φ : Type}

namespace World

section Books

variable {exec : σ → (o : Op) → χ → Option (Res o × σ)}

/-- What thread `i` does next, and how it is answered. -/
def does (exec : σ → (o : Op) → χ → Option (Res o × σ)) (w : World σ Op Res α γ) (i : Nat) (c : χ) :
    Option ((o : Op) × Res o) :=
  match w.threads[i]? with
  | some ⟨.op o _, _⟩ => (exec w.shared o c).map fun r => ⟨o, r.1⟩
  | _ => none

/-- The books after thread `i` has done its next operation. -/
def enter (exec : σ → (o : Op) → χ → Option (Res o × σ)) (entry : β → (o : Op) → Res o → χ → β)
    (w : World σ Op Res α γ) (i : Nat) (c : χ) (b : β) : β :=
  match w.does exec i c with
  | some ⟨o, r⟩ => entry b o r c
  | none => b

/-- An operation that is done is entered. -/
theorem enter_eq {entry : β → (o : Op) → Res o → χ → β} {w : World σ Op Res α γ} {i : Nat} {c : χ}
    {o : Op} {k : Res o → Prog Op Res α} {g : γ} {r : Res o} {s : σ}
    (hi : w.threads[i]? = some ⟨.op o k, g⟩) (hexec : exec w.shared o c = some (r, s)) (b : β) :
    w.enter exec entry i c b = entry b o r c := by
  have hdoes : w.does exec i c = some ⟨o, r⟩ := by
    unfold does
    rw [hi]
    show (exec w.shared o c).map _ = _
    rw [hexec]
    rfl
  unfold enter
  rw [hdoes]

end Books

section Second

variable {P : Protocol Op Res φ} {F : Fault → Prop} {Q : α → φ → Prop}

/-- Every thread keeps to the protocol, in a state that fits its ghost. -/
def Heeds (P : Protocol Op Res φ) (F : Fault → Prop) (Q : α → φ → Prop) (J : γ → φ → Prop)
    (w : World σ Op Res α γ) : Prop :=
  ∀ t ∈ w.threads, ∃ p, t.prog.wp P F Q p ∧ J t.ghost p

variable {J J' : γ → φ → Prop} {w : World σ Op Res α γ}

/-- What a thread asks next is allowed in the state it is in. -/
theorem Heeds.pre (h : w.Heeds P F Q J) {i : Nat} {o : Op} {k : Res o → Prog Op Res α} {g : γ}
    (hi : w.threads[i]? = some ⟨.op o k, g⟩) : ∃ p, P.pre p o ∧ J g p := by
  obtain ⟨p, hp, hfits⟩ := h _ (List.mem_of_getElem? hi)
  exact ⟨p, hp.1, hfits⟩

/-- What a thread asks next is allowed in the state it is in. -/
theorem Heeds.asks (h : w.Heeds P F Q J) {t : Thread Op Res α γ} (ht : t ∈ w.threads) {o : Op}
    (ho : t.asks = some o) : ∃ p, P.pre p o ∧ J t.ghost p := by
  obtain ⟨k, hk⟩ := Thread.asks_some ho
  obtain ⟨p, hp, hfits⟩ := h t ht
  rw [hk] at hp
  exact ⟨p, hp.1, hfits⟩

/-- **An operation.**  The thread that does it is answered as the protocol says, and the
states of the others still fit. -/
theorem Heeds.set (h : w.Heeds P F Q J) {i : Nat} {o : Op} {k : Res o → Prog Op Res α} {g g' : γ}
    (hi : w.threads[i]? = some ⟨.op o k, g⟩) {r : Res o} {s : σ}
    (hself : ∀ p, P.pre p o → J g p → P.answer p o r ∧ J' g' (P.track p o r))
    (hothers : ∀ j u, w.threads[j]? = some u → j ≠ i → ∀ p, J u.ghost p → J' u.ghost p) :
    World.Heeds P F Q J' ⟨s, w.threads.set i ⟨k r, g'⟩⟩ := by
  intro t ht
  obtain ⟨hlt, _⟩ := List.getElem?_eq_some_iff.mp hi
  obtain ⟨j, hj⟩ := List.mem_iff_getElem?.mp ht
  by_cases hji : j = i
  · subst hji
    rw [List.getElem?_set_self hlt] at hj
    cases hj
    obtain ⟨p, hp, hfits⟩ := h _ (List.mem_of_getElem? hi)
    obtain ⟨hanswer, hfits'⟩ := hself p hp.1 hfits
    exact ⟨_, hp.2 r hanswer, hfits'⟩
  · rw [List.getElem?_set_ne (Ne.symm hji)] at hj
    obtain ⟨p, hp, hfits⟩ := h t (List.mem_of_getElem? hj)
    exact ⟨p, hp, hothers j t hj hji p hfits⟩

/-- **A new thread.** -/
theorem Heeds.spawn (h : w.Heeds P F Q J) {s : σ} {p : Prog Op Res α} {g : γ}
    (hnew : ∃ x, p.wp P F Q x ∧ J' g x) (hothers : ∀ u ∈ w.threads, ∀ x, J u.ghost x → J' u.ghost x) :
    (w.spawn s p g).Heeds P F Q J' := by
  intro t ht
  rcases List.mem_append.mp ht with ht | ht
  · obtain ⟨x, hx, hfits⟩ := h t ht
    exact ⟨x, hx, hothers t ht x hfits⟩
  · rw [List.mem_singleton.mp ht]
    exact hnew

end Second

end World

end Programs
