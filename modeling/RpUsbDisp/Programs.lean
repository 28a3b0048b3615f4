import Mathlib.Algebra.Order.Ring.Int

/-!
# Programs over atomic operations

A program is a tree of atomic operations: it asks for one operation, the
environment answers, and the program goes on with the answer.  Nothing here
says what an operation does, so one program text can be run alone, run among
other threads, or be followed against a protocol.

A *protocol* fixes what a program may ask (`pre`), what it may be answered
(`answer`) and a ghost state that is read off the conversation (`track`).
`Prog.wp` is the weakest precondition of a program against a protocol: every
conversation that keeps to the protocol ends well.  `Prog.eval` holds the one
conversation in which a given function gives all the answers, and `wp_eval`
reads a weakest precondition off it.
-/

namespace Programs

/-- How a program can go wrong: it is stopped by an assertion or a trap, or it
loops for ever. -/
inductive Fault where
  | oops
  | hang
  deriving DecidableEq

/-- A program over operations `Op`, answered in `Res`. -/
inductive Prog (Op : Type) (Res : Op → Type) (α : Type) where
  | ret (a : α) : Prog Op Res α
  | fault (f : Fault) : Prog Op Res α
  | op (o : Op) (k : Res o → Prog Op Res α) : Prog Op Res α

variable {Op : Type} {Res : Op → Type} {α β γ : Type}

namespace Prog

/-- Run `p`, then go on with what it returned. -/
def bind (p : Prog Op Res α) (f : α → Prog Op Res β) : Prog Op Res β :=
  match p with
  | .ret a => f a
  | .fault e => .fault e
  | .op o k => .op o fun r => (k r).bind f

instance : Monad (Prog Op Res) where
  pure := .ret
  bind := .bind

/-- The program that asks for one operation and returns its answer. -/
def ask (o : Op) : Prog Op Res (Res o) :=
  .op o .ret

/-- An assertion: the task is stopped when `failed` holds. -/
def bugOn (failed : Bool) : Prog Op Res Unit :=
  if failed then .fault .oops else .ret ()

@[simp] theorem pure_eq (a : α) : (pure a : Prog Op Res α) = .ret a := rfl

@[simp] theorem ret_bind (a : α) (f : α → Prog Op Res β) : (.ret a : Prog Op Res α) >>= f = f a := rfl

@[simp] theorem fault_bind (e : Fault) (f : α → Prog Op Res β) :
    (.fault e : Prog Op Res α) >>= f = .fault e := rfl

@[simp] theorem op_bind (o : Op) (k : Res o → Prog Op Res α) (f : α → Prog Op Res β) :
    (.op o k : Prog Op Res α) >>= f = .op o fun r => k r >>= f := rfl

theorem bind_assoc {δ : Type} (p : Prog Op Res α) (f : α → Prog Op Res β)
    (h : β → Prog Op Res δ) : p >>= f >>= h = p >>= fun a => f a >>= h := by
  induction p with
  | ret a => rfl
  | fault e => rfl
  | op o k ih =>
      rw [op_bind, op_bind, op_bind]
      congr 1
      funext r
      exact ih r

@[simp] theorem bugOn_false : (bugOn false : Prog Op Res Unit) = .ret () := rfl

@[simp] theorem bugOn_true : (bugOn true : Prog Op Res Unit) = .fault .oops := rfl

end Prog

/-- What a program may ask in a ghost state, what it may be answered, and the
ghost state after an answer. -/
structure Protocol (Op : Type) (Res : Op → Type) (γ : Type) where
  pre : γ → Op → Prop
  answer : γ → (o : Op) → Res o → Prop
  track : γ → (o : Op) → Res o → γ

/-- Every conversation of the program that keeps to the protocol asks only what
is allowed, goes wrong only in a way `F` excuses, and otherwise returns with `Q`. -/
def Prog.wp (P : Protocol Op Res γ) (F : Fault → Prop) (Q : α → γ → Prop) :
    Prog Op Res α → γ → Prop
  | .ret a, g => Q a g
  | .fault e, _ => F e
  | .op o k, g => P.pre g o ∧ ∀ r, P.answer g o r → (k r).wp P F Q (P.track g o r)

/-- No conversation that keeps to the protocol makes the program go wrong. -/
def Prog.Safe (P : Protocol Op Res γ) (p : Prog Op Res α) (g : γ) : Prop :=
  p.wp P (fun _ => False) (fun _ _ => True) g

section Rules

variable {P : Protocol Op Res γ} {F : Fault → Prop} {Q : α → γ → Prop}

@[simp] theorem wp_ret {a : α} {g : γ} : (.ret a : Prog Op Res α).wp P F Q g ↔ Q a g := Iff.rfl

@[simp] theorem wp_fault {e : Fault} {g : γ} :
    (.fault e : Prog Op Res α).wp P F Q g ↔ F e := Iff.rfl

@[simp] theorem wp_op {o : Op} {k : Res o → Prog Op Res α} {g : γ} :
    (.op o k : Prog Op Res α).wp P F Q g ↔
      P.pre g o ∧ ∀ r, P.answer g o r → (k r).wp P F Q (P.track g o r) := Iff.rfl

@[simp] theorem wp_ask {o : Op} {Q : Res o → γ → Prop} {g : γ} :
    (Prog.ask o : Prog Op Res (Res o)).wp P F Q g ↔
      P.pre g o ∧ ∀ r, P.answer g o r → Q r (P.track g o r) := Iff.rfl

/-- An operation and what follows it. -/
theorem wp_ask_bind {o : Op} {f : Res o → Prog Op Res β} {Q : β → γ → Prop} {g : γ} :
    (Prog.ask o >>= f).wp P F Q g ↔
      P.pre g o ∧ ∀ r, P.answer g o r → (f r).wp P F Q (P.track g o r) := Iff.rfl

/-- An assertion and what follows it. -/
theorem wp_bugOn_bind {failed : Bool} {f : Unit → Prog Op Res β} {Q : β → γ → Prop} {g : γ} :
    (Prog.bugOn failed >>= f).wp P F Q g ↔
      (failed = true → F .oops) ∧ (failed = false → (f ()).wp P F Q g) := by
  cases failed with
  | false => simp
  | true => simp

/-- **Sequencing.**  A composed program ends well when its first part ends in
states from which its second part does. -/
theorem wp_bind {p : Prog Op Res α} {f : α → Prog Op Res β} {Q : β → γ → Prop} {g : γ} :
    (p >>= f).wp P F Q g ↔ p.wp P F (fun a => (f a).wp P F Q) g := by
  induction p generalizing g with
  | ret a => exact Iff.rfl
  | fault e => exact Iff.rfl
  | op o k ih =>
      constructor
      · intro h
        exact ⟨h.1, fun r hr => ih r |>.mp (h.2 r hr)⟩
      · intro h
        exact ⟨h.1, fun r hr => ih r |>.mpr (h.2 r hr)⟩

/-- A weaker postcondition and weaker excuses. -/
theorem wp_mono {F' : Fault → Prop} {Q' : α → γ → Prop} {p : Prog Op Res α} {g : γ}
    (h : p.wp P F Q g) (hF : ∀ e, F e → F' e) (hQ : ∀ a g, Q a g → Q' a g) : p.wp P F' Q' g := by
  induction p generalizing g with
  | ret a => exact hQ _ _ h
  | fault e => exact hF e h
  | op o k ih => exact ⟨h.1, fun r hr => ih r (h.2 r hr)⟩

/-- A safe program and one that is safe after it. -/
theorem Prog.Safe.bind {p : Prog Op Res α} {f : α → Prog Op Res β} {g : γ} (h : p.Safe P g)
    (hf : ∀ a g, (f a).Safe P g) : (p >>= f).Safe P g :=
  wp_bind.mpr (wp_mono h (fun _ he => he) fun a g _ => hf a g)

/-- What no answer changes in the ghost state, a program does not change. -/
theorem wp_keeps {δ : Type} (attr : γ → δ)
    (hattr : ∀ g o r, P.answer g o r → attr (P.track g o r) = attr g)
    {p : Prog Op Res α} {g : γ} (h : p.wp P F Q g) :
    p.wp P F (fun a g' => Q a g' ∧ attr g' = attr g) g := by
  induction p generalizing g with
  | ret a => exact ⟨h, rfl⟩
  | fault e => exact h
  | op o k ih =>
      refine ⟨h.1, fun r hr => ?_⟩
      have hrest := ih r (h.2 r hr)
      rw [hattr g o r hr] at hrest
      exact hrest

/-- Two readings of one program hold together. -/
theorem wp_and {F' : Fault → Prop} {Q' : α → γ → Prop} {p : Prog Op Res α} {g : γ}
    (h : p.wp P F Q g) (h' : p.wp P F' Q' g) :
    p.wp P (fun e => F e ∧ F' e) (fun a g => Q a g ∧ Q' a g) g := by
  induction p generalizing g with
  | ret a => exact ⟨h, h'⟩
  | fault e => exact ⟨h, h'⟩
  | op o k ih => exact ⟨h.1, fun r hr => ih r (h.2 r hr) (h'.2 r hr)⟩

/-- Fewer answers make fewer conversations: a weakest precondition survives the
restriction of what may be answered. -/
theorem wp_restrict {P' : Protocol Op Res γ} {p : Prog Op Res α} {g : γ}
    (h : p.wp P F Q g) (hpre : ∀ g o, P.pre g o → P'.pre g o)
    (hanswer : ∀ g o r, P.pre g o → P'.answer g o r → P.answer g o r)
    (htrack : ∀ g o r, P'.track g o r = P.track g o r) : p.wp P' F Q g := by
  induction p generalizing g with
  | ret a => exact h
  | fault e => exact h
  | op o k ih =>
      refine ⟨hpre g o h.1, fun r hr => ?_⟩
      rw [htrack]
      exact ih r (h.2 r (hanswer g o r h.1 hr))

/-- The protocol that allows nothing to be asked. -/
def Protocol.silent : Protocol Op Res Unit where
  pre _ _ := False
  answer _ _ _ := True
  track g _ _ := g

/-- A program that is fine without asking anything has returned. -/
theorem ret_of_silent {Q : α → Unit → Prop} {p : Prog Op Res α}
    (h : p.wp Protocol.silent (fun _ => False) Q ()) : ∃ a, p = .ret a ∧ Q a () := by
  cases p with
  | ret a => exact ⟨a, rfl, h⟩
  | fault e => exact h.elim
  | op o k => exact h.1.elim

end Rules

section Loops

/-! ## Loops that stop at the first failure -/

variable {ι σ : Type}

/-- Take a step for every item, and stop at the first step that says so. -/
def Prog.feed (step : σ → ι → Prog Op Res (σ × Bool)) : List ι → σ → Prog Op Res (σ × Bool)
  | [], s => .ret (s, true)
  | i :: is, s => step s i >>= fun r =>
      match r with
      | (s, true) => Prog.feed step is s
      | (s, false) => .ret (s, false)

/-- `I` where the loop went on, `J` where it stopped. -/
def Went (I J : σ → γ → Prop) : σ × Bool → γ → Prop
  | (s, true), g => I s g
  | (s, false), g => J s g

@[simp] theorem went_true {I J : σ → γ → Prop} {s : σ} {g : γ} : Went I J (s, true) g ↔ I s g :=
  Iff.rfl

@[simp] theorem went_false {I J : σ → γ → Prop} {s : σ} {g : γ} : Went I J (s, false) g ↔ J s g :=
  Iff.rfl

variable {P : Protocol Op Res γ} {F : Fault → Prop} {step : σ → ι → Prog Op Res (σ × Bool)}

/-- Two loops one after the other are one loop. -/
theorem feed_append (is js : List ι) (s : σ) :
    Prog.feed step (is ++ js) s = Prog.feed step is s >>= fun r =>
      match r with
      | (s, true) => Prog.feed step js s
      | (s, false) => .ret (s, false) := by
  induction is generalizing s with
  | nil => rfl
  | cons i is ih =>
      rw [List.cons_append, Prog.feed, Prog.feed, Prog.bind_assoc]
      congr 1
      funext r
      obtain ⟨t, ok⟩ := r
      cases ok with
      | false => rfl
      | true => exact ih t

/-- **Loop rule.**  What every step passes on holds at the end. -/
theorem wp_feed {all : List ι} (I : List ι → σ → γ → Prop) {J : σ → γ → Prop}
    (hstep : ∀ done i rest s g, all = done ++ i :: rest → I done s g →
      (step s i).wp P F (Went (I (done ++ [i])) J) g)
    {s : σ} {g : γ} (h : I [] s g) : (Prog.feed step all s).wp P F (Went (I all) J) g := by
  suffices hrest : ∀ done rest s g, all = done ++ rest → I done s g →
      (Prog.feed step rest s).wp P F (Went (I all) J) g from hrest [] all s g rfl h
  intro done rest
  induction rest generalizing done with
  | nil =>
      intro s g hall hdone
      rw [List.append_nil] at hall
      rw [hall]
      exact hdone
  | cons i rest ih =>
      intro s g hall hdone
      rw [Prog.feed, wp_bind]
      apply wp_mono (hstep done i rest s g hall hdone)
      · exact fun _ he => he
      · intro r g' hr
        obtain ⟨t, ok⟩ := r
        cases ok with
        | false => exact hr
        | true => exact ih (done ++ [i]) t g' (by rw [hall, List.append_assoc]; rfl) hr

end Loops

section Expansion

/-! ## Operations that are programs themselves -/

variable {Op' : Type} {Res' : Op' → Type} {γ' : Type}

/-- Put a program in the place of every operation. -/
def Prog.expand (f : (o : Op) → Prog Op' Res' (Res o)) : Prog Op Res α → Prog Op' Res' α
  | .ret a => .ret a
  | .fault e => .fault e
  | .op o k => f o >>= fun r => (k r).expand f

variable {f : (o : Op) → Prog Op' Res' (Res o)}

theorem expand_bind (p : Prog Op Res α) (q : α → Prog Op Res β) :
    (p >>= q).expand f = p.expand f >>= fun a => (q a).expand f := by
  induction p with
  | ret a => rfl
  | fault e => rfl
  | op o k ih =>
      rw [Prog.op_bind, Prog.expand, Prog.expand, Prog.bind_assoc]
      congr 1
      funext r
      exact ih r

theorem expand_bugOn_bind {failed : Bool} {k : Unit → Prog Op Res α} :
    (Prog.bugOn failed >>= k).expand f = Prog.bugOn failed >>= fun _ => (k ()).expand f := by
  cases failed <;> rfl

theorem expand_feed {ι σ : Type} {step : σ → ι → Prog Op Res (σ × Bool)} (is : List ι) (s : σ) :
    (Prog.feed step is s).expand f = Prog.feed (fun s i => (step s i).expand f) is s := by
  induction is generalizing s with
  | nil => rfl
  | cons i is ih =>
      rw [Prog.feed, Prog.feed, expand_bind]
      congr 1
      funext r
      obtain ⟨t, ok⟩ := r
      cases ok with
      | false => rfl
      | true => exact ih t

/-- **Expansion.**  A specification survives when every operation is expanded into
a program that keeps to its part of the protocol. -/
theorem wp_expand {P : Protocol Op Res γ} {P' : Protocol Op' Res' γ'} {F : Fault → Prop}
    {Q : α → γ → Prop} (R : γ → γ' → Prop)
    (hsim : ∀ g g' o, R g g' → P.pre g o →
      (f o).wp P' F (fun r g'' => P.answer g o r ∧ R (P.track g o r) g'') g')
    {p : Prog Op Res α} {g : γ} {g' : γ'} (h : p.wp P F Q g) (hR : R g g') :
    (p.expand f).wp P' F (fun a g'' => ∃ g, R g g'' ∧ Q a g) g' := by
  induction p generalizing g g' with
  | ret a => exact ⟨g, hR, h⟩
  | fault e => exact h
  | op o k ih =>
      rw [Prog.expand, wp_bind]
      apply wp_mono (hsim g g' o hR h.1) (fun _ he => he)
      intro r g'' hparts
      obtain ⟨hanswer, hR'⟩ := hparts
      exact ih r (h.2 r hanswer) hR'

end Expansion

/-- How a program ends. -/
inductive Outcome (α : Type) where
  | ret (a : α)
  | fault (e : Fault)
  deriving DecidableEq

/-- The conversation in which `reply` gives every answer. -/
def Prog.eval (P : Protocol Op Res γ) (reply : γ → (o : Op) → Res o) :
    Prog Op Res α → γ → Outcome α × γ
  | .ret a, g => (.ret a, g)
  | .fault e, g => (.fault e, g)
  | .op o k, g => (k (reply g o)).eval P reply (P.track g o (reply g o))

/-- A weakest precondition holds of the conversation any permitted `reply`
holds: it ends, and it ends well. -/
theorem wp_eval {P : Protocol Op Res γ} {F : Fault → Prop} {Q : α → γ → Prop}
    {reply : γ → (o : Op) → Res o} (hreply : ∀ g o, P.pre g o → P.answer g o (reply g o))
    {p : Prog Op Res α} {g : γ} (h : p.wp P F Q g) :
    (∃ a g', p.eval P reply g = (.ret a, g') ∧ Q a g') ∨
      (∃ e g', p.eval P reply g = (.fault e, g') ∧ F e) := by
  induction p generalizing g with
  | ret a => exact Or.inl ⟨a, g, rfl, h⟩
  | fault e => exact Or.inr ⟨e, g, rfl, h⟩
  | op o k ih => exact ih _ (h.2 _ (hreply g o h.1))

section Alone

/-! ## A program by itself -/

variable {σ : Type}

/-- Run a program alone over a state.  There is no outcome where an operation
cannot be done or the program goes wrong. -/
def Prog.run (exec : σ → (o : Op) → Option (Res o × σ)) : Prog Op Res α → σ → Option (α × σ)
  | .ret a, s => some (a, s)
  | .fault _, _ => none
  | .op o k, s => (exec s o).bind fun r => (k r.1).run exec r.2

variable {exec : σ → (o : Op) → Option (Res o × σ)}

@[simp] theorem run_ret (a : α) (s : σ) : (.ret a : Prog Op Res α).run exec s = some (a, s) := rfl

/-- An operation that can be done, and what follows it. -/
theorem run_ask_bind {o : Op} {f : Res o → Prog Op Res β} {s s' : σ} {r : Res o}
    (h : exec s o = some (r, s')) : (Prog.ask o >>= f).run exec s = (f r).run exec s' := by
  show ((exec s o).bind fun r => (f r.1).run exec r.2) = _
  rw [h, Option.bind_some]

/-- A program that comes to its end, and what follows it. -/
theorem run_bind {p : Prog Op Res α} {f : α → Prog Op Res β} {s s' : σ} {a : α}
    (h : p.run exec s = some (a, s')) : (p >>= f).run exec s = (f a).run exec s' := by
  induction p generalizing s with
  | ret b =>
      cases h
      rfl
  | fault e => cases h
  | op o k ih =>
      rw [Prog.run, Option.bind_eq_some_iff] at h
      obtain ⟨r, hexec, hrest⟩ := h
      rw [Prog.op_bind, Prog.run, hexec, Option.bind_some]
      exact ih r.1 hrest

/-- A program that does not come to its end has nothing that follows it. -/
theorem run_bind_none {p : Prog Op Res α} {f : α → Prog Op Res β} {s : σ} (h : p.run exec s = none) :
    (p >>= f).run exec s = none := by
  induction p generalizing s with
  | ret b => cases h
  | fault e => rfl
  | op o k ih =>
      rw [Prog.run, Option.bind_eq_none_iff] at h
      rw [Prog.op_bind, Prog.run, Option.bind_eq_none_iff]
      intro r hr
      exact ih r.1 (h r hr)

end Alone

end Programs
