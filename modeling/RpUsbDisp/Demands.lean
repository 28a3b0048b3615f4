import RpUsbDisp.Programs

/-!
# Programs that say what they rely on

A *noted* program has notes among its operations.  A demand says what the code
relies on at that place, although nothing checks it there; a stop is an assertion
that a reader is prepared to see fail.  Without its notes (`Prog.erase`) it is an
ordinary program again, and an ordinary program is noted by adding none
(`Prog.lift`).

`Protocol.noted` follows a noted program.  To find that all demands are met, each
of them has to be met when it is made.  To find that one is not met, a conversation
is followed only as far as they are: `unmet_of_endless` says that a program which
never comes to an end that way makes a demand that is not met.
-/

namespace Programs

/-- An operation, or a note beside the operations. -/
inductive Noted (Demand Op : Type) where
  | demand (d : Demand)
  | stop
  | op (o : Op)

@[reducible] def Noted.Res {Demand Op : Type} (Res : Op → Type) : Noted Demand Op → Type
  | .demand _ => Unit
  | .stop => Empty
  | .op o => Res o

abbrev NotedProg (Demand Op : Type) (Res : Op → Type) (α : Type) :=
  Prog (Noted Demand Op) (Noted.Res Res) α

variable {Demand Op : Type} {Res : Op → Type} {α β γ : Type}

namespace Prog

/-- The code relies on `d` here. -/
def demand (d : Demand) : NotedProg Demand Op Res Unit :=
  .op (.demand d) .ret

/-- The code gives up here. -/
def stop : NotedProg Demand Op Res α :=
  .op .stop nofun

/-- A program without notes. -/
def lift (p : Prog Op Res α) : NotedProg Demand Op Res α :=
  p.expand fun o => Prog.ask (Noted.op o)

/-- What an operation is without its note. -/
def plain : (o : Noted Demand Op) → Prog Op Res (o.Res Res)
  | .demand _ => .ret ()
  | .stop => .fault .oops
  | .op o => Prog.ask o

/-- Take the notes out of a program. -/
def erase (p : NotedProg Demand Op Res α) : Prog Op Res α :=
  p.expand plain

end Prog

section Erasure

@[simp] theorem erase_ret (a : α) : (.ret a : NotedProg Demand Op Res α).erase = .ret a := rfl

@[simp] theorem erase_fault (e : Fault) :
    (.fault e : NotedProg Demand Op Res α).erase = .fault e := rfl

@[simp] theorem erase_stop : (Prog.stop : NotedProg Demand Op Res α).erase = .fault .oops := rfl

@[simp] theorem erase_demand_bind (d : Demand) (f : Unit → NotedProg Demand Op Res α) :
    (Prog.demand d >>= f).erase = (f ()).erase := rfl

theorem erase_bind (p : NotedProg Demand Op Res α) (f : α → NotedProg Demand Op Res β) :
    (p >>= f).erase = p.erase >>= fun a => (f a).erase :=
  expand_bind p f

@[simp] theorem erase_lift (p : Prog Op Res α) :
    (p.lift : NotedProg Demand Op Res α).erase = p := by
  induction p with
  | ret a => rfl
  | fault e => rfl
  | op o k ih =>
      have hrest : ∀ r, ((k r).lift : NotedProg Demand Op Res α).erase = k r := ih
      show Prog.op o (fun r => ((k r).lift : NotedProg Demand Op Res α).erase) = .op o k
      congr 1
      funext r
      exact hrest r

end Erasure

/-- Follow a noted program under `P`.  What it demands has to satisfy `must`; after a
demand the conversation goes on where `may` lets it; and it may give up if `stops`. -/
def Protocol.noted (must may : Demand → Prop) (stops : Prop) (P : Protocol Op Res γ) :
    Protocol (Noted Demand Op) (Noted.Res Res) γ where
  pre g
    | .demand d => must d
    | .stop => stops
    | .op o => P.pre g o
  answer g
    | .demand d, _ => may d
    | .stop, _ => True
    | .op o, r => P.answer g o r
  track g
    | .demand _, _ => g
    | .stop, _ => g
    | .op o, r => P.track g o r

/-- Every demand has to be met; the program may give up. -/
@[reducible] def Protocol.demanding (met : Demand → Prop) (P : Protocol Op Res γ) :
    Protocol (Noted Demand Op) (Noted.Res Res) γ :=
  P.noted met (fun _ => True) True

/-- The conversation ends at the first demand that is not met, and the program does
not give up before that. -/
@[reducible] def Protocol.untilUnmet (met : Demand → Prop) (P : Protocol Op Res γ) :
    Protocol (Noted Demand Op) (Noted.Res Res) γ :=
  P.noted (fun _ => True) met False

section Rules

variable {met must may : Demand → Prop} {stops : Prop} {P : Protocol Op Res γ} {F : Fault → Prop}
  {g : γ}

/-- A program without notes is followed as it is. -/
theorem wp_lift {p : Prog Op Res α} {Q : α → γ → Prop} :
    (p.lift : NotedProg Demand Op Res α).wp (P.noted must may stops) F Q g ↔ p.wp P F Q g := by
  induction p generalizing g with
  | ret a => exact Iff.rfl
  | fault e => exact Iff.rfl
  | op o k ih =>
      constructor
      · intro h
        exact ⟨h.1, fun r hr => (ih r).mp (h.2 r hr)⟩
      · intro h
        exact ⟨h.1, fun r hr => (ih r).mpr (h.2 r hr)⟩

/-- An operation and what follows it. -/
theorem wp_lift_ask_bind {o : Op} {f : Res o → NotedProg Demand Op Res α} {Q : α → γ → Prop} :
    ((Prog.ask o).lift >>= f).wp (P.noted must may stops) F Q g ↔
      P.pre g o ∧
        ∀ r, P.answer g o r → (f r).wp (P.noted must may stops) F Q (P.track g o r) := Iff.rfl

/-- A demand and what follows it. -/
theorem wp_demand_bind {d : Demand} {f : Unit → NotedProg Demand Op Res α} {Q : α → γ → Prop} :
    (Prog.demand d >>= f).wp (P.noted must may stops) F Q g ↔
      must d ∧ (may d → (f ()).wp (P.noted must may stops) F Q g) := by
  constructor
  · intro h
    exact ⟨h.1, fun hmay => h.2 () hmay⟩
  · intro h
    exact ⟨h.1, fun _ hmay => h.2 hmay⟩

/-- A program may give up where it is allowed to. -/
theorem wp_stop {Q : α → γ → Prop} :
    (Prog.stop : NotedProg Demand Op Res α).wp (P.noted must may stops) F Q g ↔ stops := by
  constructor
  · exact fun h => h.1
  · exact fun h => ⟨h, nofun⟩

/-- What holds of a noted program holds of the program without its notes, which goes
wrong where the other one gives up. -/
theorem wp_erase {p : NotedProg Demand Op Res α} {Q : α → γ → Prop}
    (h : p.wp (P.demanding met) F Q g) : p.erase.wp P (fun e => F e ∨ e = .oops) Q g := by
  induction p generalizing g with
  | ret a => exact h
  | fault e => exact Or.inl h
  | op o k ih =>
      cases o with
      | demand d => exact ih () (h.2 () trivial)
      | stop => exact Or.inr rfl
      | op o => exact ⟨h.1, fun r hr => ih r (h.2 r hr)⟩

/-- **A demand that is not met.**  A program that meets its demands whatever it is
answered comes to an end.  So it does not meet them if there are answers, one for
every question, with which it never ends. -/
theorem unmet_of_endless {P' : Protocol Op Res γ} {p : NotedProg Demand Op Res α}
    {Q : α → γ → Prop} (hanswer : ∀ g o, P.pre g o → ∃ r, P.answer g o r ∧ P'.answer g o r)
    (htrack : ∀ g o r, P'.track g o r = P.track g o r)
    (h : p.wp (P.demanding met) (fun _ => False) Q g) :
    ¬ p.wp (P'.untilUnmet met) (fun _ => False) (fun _ _ => False) g := by
  induction p generalizing g with
  | ret a => exact fun hnever => hnever
  | fault e => exact fun hnever => hnever
  | op o k ih =>
      intro hnever
      cases o with
      | demand d => exact ih () (h.2 () trivial) (hnever.2 () h.1)
      | stop => exact hnever.1
      | op o =>
          obtain ⟨r, hr, hr'⟩ := hanswer g o h.1
          have hrest := hnever.2 r hr'
          rw [show (P'.untilUnmet met).track g (.op o) r = P.track g o r from htrack g o r] at hrest
          exact ih r (h.2 r hr) hrest

end Rules

end Programs
