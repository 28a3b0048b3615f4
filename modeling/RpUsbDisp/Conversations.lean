import Mathlib.Data.List.Infix
import RpUsbDisp.Programs

/-!
# Conversations

`Ends` holds of the conversations of a program that keep to a protocol and come to an end.
A weakest precondition is what all of them end with.

Some programs send one thing after the other and stop at the first refusal.  What such a
program has sent in the end is a beginning of what it sends where nothing is refused:
`Ends.log_prefix` reads the outcomes of every conversation off those without a refusal.
-/

namespace Programs

variable {Op : Type} {Res : Op → Type} {α β γ : Type}

/-- A conversation that keeps to the protocol and comes to its end. -/
inductive Ends (P : Protocol Op Res γ) : Prog Op Res α → γ → α → γ → Prop
  | ret (a : α) (g : γ) : Ends P (.ret a) g a g
  | op {o : Op} {k : Res o → Prog Op Res α} {g g' : γ} {r : Res o} {a : α}
      (hanswer : P.answer g o r) (rest : Ends P (k r) (P.track g o r) a g') :
      Ends P (.op o k) g a g'

variable {P : Protocol Op Res γ} {F : Fault → Prop} {Q : α → γ → Prop}

/-- What every conversation ends with. -/
theorem Ends.wp {p : Prog Op Res α} {g g' : γ} {a : α} (h : Ends P p g a g') (hp : p.wp P F Q g) :
    Q a g' := by
  induction h with
  | ret a g => exact hp
  | op hanswer _ ih => exact ih (hp.2 _ hanswer)

/-- Where everything that may be asked can be answered, there is a conversation. -/
theorem exists_ends (hwilling : ∀ g o, P.pre g o → ∃ r, P.answer g o r) {p : Prog Op Res α} {g : γ}
    (hp : p.wp P (fun _ => False) Q g) : ∃ a g', Ends P p g a g' := by
  induction p generalizing g with
  | ret a => exact ⟨a, g, .ret a g⟩
  | fault e => exact hp.elim
  | op o k ih =>
      obtain ⟨r, hr⟩ := hwilling g o hp.1
      obtain ⟨a, g', hrest⟩ := ih r (hp.2 r hr)
      exact ⟨a, g', .op hr hrest⟩

/-- What every operation keeps between a conversation and another protocol's reading of it holds
in the end. -/
theorem Ends.related {δ : Type} {P' : Protocol Op Res δ} {R : γ → δ → Prop} {Q : α → δ → Prop}
    (hstep : ∀ g d o r, R g d → P'.pre d o → P.answer g o r →
      P'.answer d o r ∧ R (P.track g o r) (P'.track d o r))
    {p : Prog Op Res α} {g g' : γ} {a : α} (h : Ends P p g a g') {d : δ} (hp : p.wp P' F Q d)
    (hrelated : R g d) : ∃ d', Q a d' ∧ R g' d' := by
  induction h generalizing d with
  | ret a g => exact ⟨d, hp, hrelated⟩
  | op hanswer _ ih =>
      obtain ⟨hallowed, hnext⟩ := hstep _ d _ _ hrelated hp.1 hanswer
      exact ih (hp.2 _ hallowed) hnext

section Refusals

/-! ## Programs that stop at the first refusal -/

/-- Only answers that refuse nothing. -/
def Protocol.accepting (P : Protocol Op Res γ) (accepted : (o : Op) → Res o → Prop) :
    Protocol Op Res γ where
  pre := P.pre
  answer g o r := P.answer g o r ∧ accepted o r
  track := P.track

/-- A protocol whose ghost state is whether it is closed: a refusal closes it, it stays closed, and
then nothing is sent. -/
structure Protocol.Closing (P : Protocol Op Res Prop) (accepted : (o : Op) → Res o → Prop)
    (sends : Op → Prop) : Prop where
  quiet : ∀ {closed o}, P.pre closed o → closed → ¬ sends o
  stays : ∀ {closed o r}, closed → P.track closed o r
  refused : ∀ {closed o r}, ¬ accepted o r → P.track closed o r

variable {ε : Type} {log : γ → List ε} {accepted : (o : Op) → Res o → Prop} {sends : Op → Prop}
variable {C : Protocol Op Res Prop} {T : α → Prop → Prop}

/-- What is sent is only added to. -/
theorem Ends.log_grows (hgrow : ∀ g o r, log g <+: log (P.track g o r)) {p : Prog Op Res α}
    {g g' : γ} {a : α} (h : Ends P p g a g') : log g <+: log g' := by
  induction h with
  | ret a g => exact List.prefix_rfl
  | op hanswer rest ih => exact (hgrow _ _ _).trans ih

/-- What is closed adds nothing. -/
theorem Ends.log_closed (hclosing : C.Closing accepted sends)
    (hquiet : ∀ g o r, ¬ sends o → log (P.track g o r) = log g)
    (hanswers : ∀ g closed o r, P.answer g o r → C.answer closed o r)
    {p : Prog Op Res α} {g g' : γ} {a : α} (h : Ends P p g a g') {closed : Prop} (hclosed : closed)
    (hp : p.wp C F T closed) : log g' = log g := by
  induction h generalizing closed with
  | ret a g => rfl
  | op hanswer rest ih =>
      have hsilent := hclosing.quiet hp.1 hclosed
      calc log _ = log (P.track _ _ _) :=
            ih (hclosing.stays hclosed) (hp.2 _ (hanswers _ closed _ _ hanswer))
        _ = log _ := hquiet _ _ _ hsilent

/-- **A conversation with a refusal** has sent a beginning of what one without refusals
sends. -/
theorem Ends.log_prefix (hclosing : C.Closing accepted sends)
    (hgrow : ∀ g o r, log g <+: log (P.track g o r))
    (hquiet : ∀ g o r, ¬ sends o → log (P.track g o r) = log g)
    (hrefused : ∀ g o r, ¬ accepted o r → log (P.track g o r) = log g)
    (hanswers : ∀ g closed o r, P.answer g o r → C.answer closed o r)
    (hwilling : ∀ g o, P.pre g o → ∃ r, (P.accepting accepted).answer g o r)
    {p : Prog Op Res α} {g g' : γ} {a : α} (h : Ends P p g a g')
    (hp : p.wp (P.accepting accepted) (fun _ => False) Q g) {closed : Prop}
    (hcloses : p.wp C F T closed) :
    ∃ b g'', Ends (P.accepting accepted) p g b g'' ∧ log g' <+: log g'' := by
  induction h generalizing closed with
  | ret a g => exact ⟨a, g, .ret a g, List.prefix_rfl⟩
  | @op o k g g' r a hanswer rest ih =>
      have hnext := hcloses.2 r (hanswers g closed o r hanswer)
      by_cases hr : accepted o r
      · obtain ⟨b, g'', hends, hlog⟩ := ih (hp.2 r ⟨hanswer, hr⟩) hnext
        exact ⟨b, g'', .op ⟨hanswer, hr⟩ hends, hlog⟩
      · -- the same up to here, and then an answer that refuses nothing
        have hkept := rest.log_closed hclosing hquiet hanswers (hclosing.refused hr) hnext
        obtain ⟨r', hr'⟩ := hwilling g o hp.1
        obtain ⟨b, g'', hends⟩ := exists_ends hwilling (hp.2 r' hr')
        refine ⟨b, g'', .op hr' hends, ?_⟩
        rw [hkept, hrefused g o r hr]
        exact (hgrow g o r').trans (Ends.log_grows (P := P.accepting accepted) hgrow hends)

/-- A conversation without refusals is a conversation. -/
theorem Ends.of_accepting {p : Prog Op Res α} {g g' : γ} {a : α}
    (h : Ends (P.accepting accepted) p g a g') : Ends P p g a g' := by
  induction h with
  | ret a g => exact .ret a g
  | op hanswer _ ih => exact .op hanswer.1 ih

/-- **The last refusal.**  Where something is sent without a refusal, a conversation goes the
same way until the last thing is to be sent, and that is refused. -/
theorem Ends.refuse_last (hclosing : C.Closing accepted sends)
    (hone : ∀ g o r, ∃ more, log (P.track g o r) = log g ++ more ∧ more.length ≤ 1)
    (hquiet : ∀ g o r, ¬ sends o → log (P.track g o r) = log g)
    (hrefused : ∀ g o r, ¬ accepted o r → log (P.track g o r) = log g)
    (hanswers : ∀ g closed o r, P.answer g o r → C.answer closed o r)
    (hwilling : ∀ g o, P.pre g o → ∃ r, P.answer g o r)
    (hrefusal : ∀ g o, sends o → ∃ r, P.answer g o r ∧ ¬ accepted o r)
    {p : Prog Op Res α} {g g' : γ} {a : α} (h : Ends (P.accepting accepted) p g a g')
    (hsent : log g' ≠ log g) (hsafe : p.wp P (fun _ => False) Q g) {closed : Prop}
    (hcloses : p.wp C F T closed) :
    ∃ b g'' last, Ends P p g b g'' ∧ log g' = log g'' ++ [last] := by
  induction h generalizing closed with
  | ret a g => exact absurd rfl hsent
  | @op o k g g' r a hanswer rest ih =>
      by_cases hlater : log g' = log (P.track g o r)
      · -- nothing is sent after this, so this is what is refused
        have hsends : sends o := by
          by_contra hno
          exact hsent (hlater.trans (hquiet g o r hno))
        obtain ⟨r', hr', hno⟩ := hrefusal g o hsends
        obtain ⟨b, g'', hends⟩ := exists_ends hwilling (hsafe.2 r' hr')
        have hkept : log g'' = log (P.track g o r') := hends.log_closed hclosing hquiet hanswers
          (hclosing.refused hno) (hcloses.2 r' (hanswers g closed o r' hr'))
        obtain ⟨more, hmore, hlen⟩ := hone g o r
        match more with
        | [] => exact absurd (hlater.trans (hmore.trans (List.append_nil _))) hsent
        | [last] =>
            refine ⟨b, g'', last, .op hr' hends, ?_⟩
            rw [hlater, hmore, hkept, hrefused g o r' hno]
        | _ :: _ :: _ => exact absurd hlen (by simp)
      · obtain ⟨b, g'', last, hends, hlog⟩ := ih hlater (hsafe.2 r hanswer.1)
          (hcloses.2 r (hanswers g closed o r hanswer.1))
        exact ⟨b, g'', last, .op hanswer.1 hends, hlog⟩

end Refusals

end Programs
