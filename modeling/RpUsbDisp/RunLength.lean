import Mathlib.Algebra.Order.Ring.Int

/-!
# Streaming run-length encoding by sections

A stream of symbols is cut into sections of at most `cap` symbols: a *literal*
section lists its symbols, a *common* section repeats one symbol.  The encoder
keeps one pending section.  Two equal neighbours take the last symbol back from
a pending literal section and start a common one; a common section that is full
goes on with a section of the encoder's choice (`reopen`).

The size of an encoding is amortised.  Every section but a full literal one is
paid for: a literal section cut short is followed by a common section, and that
saves at least what the literal's header costs.  So `n` symbols of width two
need at most `2 * n + ⌈n / cap⌉` (`encode_cost_le`), and this holds of every
prefix of the stream (`Encoded.cost_le`), so a writer that follows the encoder
step by step never leaves that bound.
-/

namespace RunLength

variable {α : Type}

/-- A section: its symbols one by one, or one symbol and how often it comes. -/
inductive Section (α : Type) where
  | literal (ps : List α)
  | common (p : α) (count : Nat)
  deriving DecidableEq

namespace Section

/-- The symbols a section stands for. -/
def symbols : Section α → List α
  | .literal ps => ps
  | .common p count => List.replicate count p

/-- How many symbols a section stands for. -/
def count : Section α → Nat
  | .literal ps => ps.length
  | .common _ count => count

/-- The size of a section: a header of one, and two for every symbol it lists. -/
def cost : Section α → Nat
  | .literal ps => 1 + 2 * ps.length
  | .common _ _ => 3

/-- A section's count fits its header. -/
def WellFormed (cap : Nat) (s : Section α) : Prop :=
  1 ≤ s.count ∧ s.count ≤ cap

@[simp] theorem symbols_length (s : Section α) : s.symbols.length = s.count := by
  cases s <;> simp [symbols, count]

end Section

/-- The symbols of a row of sections. -/
def expand (ss : List (Section α)) : List α :=
  ss.flatMap Section.symbols

/-- The size of a row of sections. -/
def totalCost (ss : List (Section α)) : Nat :=
  (ss.map Section.cost).sum

/-- How many of the sections are literal and full. -/
def fullLiterals (cap : Nat) (ss : List (Section α)) : Nat :=
  ss.countP fun
    | .literal ps => ps.length == cap
    | .common _ _ => false

@[simp] theorem expand_append (ss ts : List (Section α)) :
    expand (ss ++ ts) = expand ss ++ expand ts := by
  simp [expand]

@[simp] theorem expand_singleton (s : Section α) : expand [s] = s.symbols := by
  simp [expand]

@[simp] theorem totalCost_append (ss ts : List (Section α)) :
    totalCost (ss ++ ts) = totalCost ss + totalCost ts := by
  simp [totalCost]

@[simp] theorem totalCost_singleton (s : Section α) : totalCost [s] = s.cost := by
  simp [totalCost]

@[simp] theorem fullLiterals_append (cap : Nat) (ss ts : List (Section α)) :
    fullLiterals cap (ss ++ ts) = fullLiterals cap ss + fullLiterals cap ts := by
  simp [fullLiterals]

@[simp] theorem fullLiterals_literal (cap : Nat) (ps : List α) :
    fullLiterals cap [.literal ps] = if ps.length = cap then 1 else 0 := by
  simp [fullLiterals]

@[simp] theorem fullLiterals_common (cap : Nat) (p : α) (c : Nat) :
    fullLiterals cap [.common p c] = 0 := by
  simp [fullLiterals]

/-- What the encoder has closed so far, and its pending section. -/
structure Encoded (α : Type) where
  closed : List (Section α)
  pending : Option (Section α)
  deriving DecidableEq

namespace Encoded

/-- The encoder before its first symbol. -/
def start : Encoded α := ⟨[], none⟩

/-- All sections, once the pending one is closed too. -/
def sections (e : Encoded α) : List (Section α) :=
  e.closed ++ e.pending.toList

variable [DecidableEq α]

/-- One more symbol. -/
def push (cap : Nat) (reopen : α → Section α) (e : Encoded α) (p : α) : Encoded α :=
  match e.pending with
  | none => ⟨e.closed, some (.literal [p])⟩
  | some (.literal ps) =>
      if ps.getLast? = some p then
        if ps.dropLast = [] then ⟨e.closed, some (.common p 2)⟩
        else ⟨e.closed ++ [.literal ps.dropLast], some (.common p 2)⟩
      else if ps.length = cap then ⟨e.closed ++ [.literal ps], some (.literal [p])⟩
      else ⟨e.closed, some (.literal (ps ++ [p]))⟩
  | some (.common q c) =>
      if p ≠ q then ⟨e.closed ++ [.common q c], some (.literal [p])⟩
      else if c = cap then ⟨e.closed ++ [.common q c], some (reopen p)⟩
      else ⟨e.closed, some (.common q (c + 1))⟩

/-- A row of symbols. -/
def pushAll (cap : Nat) (reopen : α → Section α) (e : Encoded α) (ps : List α) : Encoded α :=
  ps.foldl (push cap reopen) e

end Encoded

/-- The sections of a stream. -/
def encode [DecidableEq α] (cap : Nat) (reopen : α → Section α) (ps : List α) : List (Section α) :=
  (Encoded.start.pushAll cap reopen ps).sections

/-- How the pending section stands to the size account: `full` full literals and
`len` symbols are closed, at a size of `cost`. -/
def Balanced (full len cost : Nat) : Option (Section α) → Prop
  | none => cost ≤ 2 * len + full
  | some (.literal _) => cost ≤ 2 * len + full
  | some (.common _ c) => if c = 1 then cost + 1 ≤ 2 * len + full else cost ≤ 2 * len + full + 1

/-- **The encoder's invariant** after the symbols `seen`: the sections stand for
them, every section fits its header, and the account is balanced. -/
structure Encoded.Sound (cap : Nat) (seen : List α) (e : Encoded α) : Prop where
  expands : expand e.sections = seen
  wellFormed : ∀ s ∈ e.sections, s.WellFormed cap
  full_le : cap * fullLiterals cap e.closed ≤ (expand e.closed).length
  balanced : Balanced (fullLiterals cap e.closed) (expand e.closed).length (totalCost e.closed)
    e.pending
  started : e.pending = none → e.closed = []

/-- A full common section goes on as a literal of one symbol or as another
common section of one. -/
def Reopens (reopen : α → Section α) : Prop :=
  (∀ p, reopen p = .literal [p]) ∨ ∀ p, reopen p = .common p 1

theorem Encoded.start_sound (cap : Nat) : (Encoded.start : Encoded α).Sound cap [] where
  expands := rfl
  wellFormed := by simp [Encoded.start, Encoded.sections]
  full_le := by simp [Encoded.start, fullLiterals]
  balanced := by simp [Encoded.start, Balanced, fullLiterals, totalCost]
  started := fun _ => rfl

section Push

variable {cap : Nat} {reopen : α → Section α} {seen : List α} {p : α}

/-- Closing a pending section moves it from one side of the account to the
other, and a new section is opened. -/
private theorem sound_close {closed : List (Section α)} {s t : Section α}
    (h : Encoded.Sound cap seen ⟨closed, some s⟩)
    (ht : t.symbols = [p]) (htcap : 1 ≤ cap)
    (hfull : cap * fullLiterals cap [s] ≤ s.count)
    (hbal : Balanced (fullLiterals cap closed + fullLiterals cap [s])
      ((expand closed).length + s.count) (totalCost closed + s.cost) (some t)) :
    Encoded.Sound cap (seen ++ [p]) ⟨closed ++ [s], some t⟩ where
  expands := by
    have hexp := h.expands
    simp only [Encoded.sections, Option.toList_some, expand_append, expand_singleton] at hexp ⊢
    rw [hexp, ht]
  wellFormed := by
    intro u hu
    have hcount : t.count = 1 := by rw [← Section.symbols_length, ht]; rfl
    simp only [Encoded.sections, Option.toList_some, List.mem_append, List.mem_singleton] at hu
    rcases hu with hu | rfl
    · exact h.wellFormed u (by simpa [Encoded.sections] using hu)
    · exact ⟨by omega, by omega⟩
  full_le := by
    have hf := h.full_le
    simp only [fullLiterals_append, expand_append, expand_singleton, List.length_append,
      Section.symbols_length, Nat.mul_add] at hf ⊢
    omega
  balanced := by
    simpa [Section.symbols_length] using hbal
  started := by simp

/-- A literal section that is not full takes one more symbol. -/
private theorem sound_literal_more {closed : List (Section α)} {ps : List α}
    (h : Encoded.Sound cap seen ⟨closed, some (.literal ps)⟩) (hlen : ps.length ≠ cap) :
    Encoded.Sound cap (seen ++ [p]) ⟨closed, some (.literal (ps ++ [p]))⟩ where
  expands := by
    have hexp := h.expands
    simp only [Encoded.sections, Option.toList_some, expand_append, expand_singleton,
      Section.symbols] at hexp ⊢
    rw [← List.append_assoc, hexp]
  wellFormed := by
    intro u hu
    have hps := h.wellFormed (.literal ps) (by simp [Encoded.sections])
    simp only [Section.WellFormed, Section.count] at hps
    simp only [Encoded.sections, Option.toList_some, List.mem_append, List.mem_singleton] at hu
    rcases hu with hu | rfl
    · exact h.wellFormed u (by simp [Encoded.sections, hu])
    · simp only [Section.WellFormed, Section.count, List.length_append, List.length_singleton]
      omega
  full_le := h.full_le
  balanced := h.balanced
  started := by simp

/-- A pair of equal neighbours, the first of them alone in its section. -/
private theorem sound_pair_alone {closed : List (Section α)} (hcap : 2 ≤ cap)
    (h : Encoded.Sound cap seen ⟨closed, some (.literal [p])⟩) :
    Encoded.Sound cap (seen ++ [p]) ⟨closed, some (.common p 2)⟩ where
  expands := by
    have hexp := h.expands
    simp only [Encoded.sections, Option.toList_some, expand_append, expand_singleton,
      Section.symbols] at hexp ⊢
    rw [← hexp]
    simp [List.replicate]
  wellFormed := by
    intro u hu
    simp only [Encoded.sections, Option.toList_some, List.mem_append, List.mem_singleton] at hu
    rcases hu with hu | rfl
    · exact h.wellFormed u (by simp [Encoded.sections, hu])
    · exact ⟨by simp [Section.count], by simpa [Section.count] using hcap⟩
  full_le := h.full_le
  balanced := by
    have hbal := h.balanced
    simp only [Balanced] at hbal ⊢
    simp only [show ¬ (2 : Nat) = 1 by omega, if_false]
    omega
  started := by simp

/-- A pair of equal neighbours, the first of them taken back from a longer
literal section. -/
private theorem sound_pair_split {closed : List (Section α)} {ps : List α} (hcap : 2 ≤ cap)
    (h : Encoded.Sound cap seen ⟨closed, some (.literal (ps ++ [p]))⟩) (hps : ps ≠ []) :
    Encoded.Sound cap (seen ++ [p]) ⟨closed ++ [.literal ps], some (.common p 2)⟩ where
  expands := by
    have hexp := h.expands
    simp only [Encoded.sections, Option.toList_some, expand_append, expand_singleton,
      Section.symbols] at hexp ⊢
    rw [← hexp]
    simp [List.replicate]
  wellFormed := by
    intro u hu
    have hpos : 0 < ps.length := List.length_pos_iff.mpr hps
    have hlit := h.wellFormed (.literal (ps ++ [p])) (by simp [Encoded.sections])
    simp only [Section.WellFormed, Section.count, List.length_append,
      List.length_singleton] at hlit
    simp only [Encoded.sections, Option.toList_some, List.mem_append, List.mem_singleton] at hu
    rcases hu with (hu | rfl) | rfl
    · exact h.wellFormed u (by simp [Encoded.sections, hu])
    · exact ⟨hpos, by simp only [Section.count]; omega⟩
    · exact ⟨by simp [Section.count], by simpa [Section.count] using hcap⟩
  full_le := by
    have hf := h.full_le
    have hlit := h.wellFormed (.literal (ps ++ [p])) (by simp [Encoded.sections])
    simp only [Section.WellFormed, Section.count, List.length_append,
      List.length_singleton] at hlit
    simp only [fullLiterals_append, fullLiterals_literal, expand_append, expand_singleton,
      List.length_append, Section.symbols, show ¬ ps.length = cap by omega, if_false,
      Nat.add_zero] at hf ⊢
    omega
  balanced := by
    have hbal := h.balanced
    have hlit := h.wellFormed (.literal (ps ++ [p])) (by simp [Encoded.sections])
    simp only [Section.WellFormed, Section.count, List.length_append,
      List.length_singleton] at hlit
    simp only [Balanced, fullLiterals_append, fullLiterals_literal, expand_append,
      expand_singleton, List.length_append, Section.symbols, totalCost_append,
      totalCost_singleton, Section.cost, show ¬ ps.length = cap by omega, if_false] at hbal ⊢
    simp only [show ¬ (2 : Nat) = 1 by omega, if_false]
    omega
  started := by simp

/-- A common section that is not full takes one more symbol. -/
private theorem sound_common_more {closed : List (Section α)} {c : Nat}
    (h : Encoded.Sound cap seen ⟨closed, some (.common p c)⟩) (hlen : c ≠ cap) :
    Encoded.Sound cap (seen ++ [p]) ⟨closed, some (.common p (c + 1))⟩ where
  expands := by
    have hexp := h.expands
    simp only [Encoded.sections, Option.toList_some, expand_append, expand_singleton,
      Section.symbols] at hexp ⊢
    rw [← hexp, List.replicate_succ', List.append_assoc]
  wellFormed := by
    intro u hu
    have hc := h.wellFormed (.common p c) (by simp [Encoded.sections])
    simp only [Section.WellFormed, Section.count] at hc
    simp only [Encoded.sections, Option.toList_some, List.mem_append, List.mem_singleton] at hu
    rcases hu with hu | rfl
    · exact h.wellFormed u (by simp [Encoded.sections, hu])
    · simp only [Section.WellFormed, Section.count]
      omega
  full_le := h.full_le
  balanced := by
    have hbal := h.balanced
    have hc := h.wellFormed (.common p c) (by simp [Encoded.sections])
    simp only [Section.WellFormed, Section.count] at hc
    simp only [Balanced] at hbal ⊢
    rw [if_neg (by omega)]
    split at hbal <;> omega
  started := by simp

/-- **Step.**  One more symbol keeps the invariant. -/
theorem Encoded.Sound.push [DecidableEq α] {e : Encoded α} (h : e.Sound cap seen) (hcap : 3 ≤ cap)
    (hreopen : Reopens reopen) (p : α) : (e.push cap reopen p).Sound cap (seen ++ [p]) := by
  obtain ⟨closed, pending⟩ := e
  cases pending with
  | none =>
      have hnil : closed = [] := h.started rfl
      subst hnil
      have hseen : seen = [] := h.expands.symm
      subst hseen
      refine ⟨rfl, ?_, by simp [Encoded.push, fullLiterals], ?_, by simp [Encoded.push]⟩
      · intro u hu
        simp only [Encoded.push, Encoded.sections, List.nil_append, Option.toList_some,
          List.mem_singleton] at hu
        subst hu
        exact ⟨Nat.le_refl 1, by simp only [Section.count, List.length_singleton]; omega⟩
      · simp [Encoded.push, Balanced, fullLiterals, totalCost]
  | some s =>
      have hs := h.wellFormed s (by simp [Encoded.sections])
      have hbal := h.balanced
      cases s with
      | literal ps =>
          simp only [Section.WellFormed, Section.count] at hs
          simp only [Balanced] at hbal
          simp only [Encoded.push]
          by_cases hlast : ps.getLast? = some p
          · obtain ⟨qs, rfl⟩ : ∃ qs, ps = qs ++ [p] := List.getLast?_eq_some_iff.mp hlast
            rw [if_pos hlast, List.dropLast_concat]
            by_cases hqs : qs = []
            · subst hqs
              rw [if_pos rfl]
              exact sound_pair_alone (by omega) h
            · rw [if_neg hqs]
              exact sound_pair_split (by omega) h hqs
          · rw [if_neg hlast]
            by_cases hlen : ps.length = cap
            · rw [if_pos hlen]
              refine sound_close h rfl (by omega) ?_ ?_
              · simp [hlen, Section.count]
              · simp only [Balanced, fullLiterals_literal, hlen, if_true, Section.count,
                  Section.cost]
                omega
            · rw [if_neg hlen]
              exact sound_literal_more h hlen
      | common q c =>
          simp only [Section.WellFormed, Section.count] at hs
          simp only [Balanced] at hbal
          simp only [Encoded.push]
          by_cases hpq : p = q
          · subst hpq
            rw [if_neg (fun hne => hne rfl)]
            by_cases hc : c = cap
            · rw [if_pos hc, if_neg (by omega)] at *
              rcases hreopen with hlit | hcom
              · rw [hlit]
                refine sound_close h rfl (by omega) (by simp) ?_
                simp only [Balanced, fullLiterals_common, Section.count, Section.cost]
                omega
              · rw [hcom]
                refine sound_close h rfl (by omega) (by simp) ?_
                simp only [Balanced, fullLiterals_common, Section.count, Section.cost, if_true]
                omega
            · rw [if_neg hc]
              exact sound_common_more h hc
          · rw [if_pos hpq]
            refine sound_close h rfl (by omega) (by simp) ?_
            simp only [Balanced, fullLiterals_common, Section.count, Section.cost]
            split at hbal <;> omega

/-- **Run.**  The invariant after any row of symbols. -/
theorem Encoded.Sound.pushAll [DecidableEq α] {e : Encoded α} (h : e.Sound cap seen) (hcap : 3 ≤ cap)
    (hreopen : Reopens reopen) (ps : List α) :
    (e.pushAll cap reopen ps).Sound cap (seen ++ ps) := by
  induction ps generalizing e seen with
  | nil => simpa [Encoded.pushAll] using h
  | cons p ps ih =>
      have hstep := ih (h.push hcap hreopen p)
      rwa [List.append_assoc] at hstep

/-- **The size bound**, at any point of the stream. -/
theorem Encoded.Sound.cost_le {e : Encoded α} (h : e.Sound cap seen) (hcap : 0 < cap) :
    totalCost e.sections ≤ 2 * seen.length + (seen.length + (cap - 1)) / cap := by
  obtain ⟨closed, pending⟩ := e
  have hfull : cap * fullLiterals cap closed ≤ (expand closed).length := h.full_le
  have hbal : Balanced (fullLiterals cap closed) (expand closed).length (totalCost closed)
    pending := h.balanced
  cases pending with
  | none =>
      have hnil : closed = [] := h.started rfl
      subst hnil
      simp [Encoded.sections, totalCost]
  | some s =>
      have hlen : seen.length = (expand closed).length + s.count := by
        rw [← h.expands]
        simp [Encoded.sections]
      have hpos : 1 ≤ s.count := (h.wellFormed s (by simp [Encoded.sections])).1
      have hup : fullLiterals cap closed + 1 ≤ (seen.length + (cap - 1)) / cap := by
        rw [Nat.le_div_iff_mul_le hcap, Nat.add_mul, Nat.mul_comm]
        omega
      simp only [Encoded.sections, Option.toList_some, totalCost_append, totalCost_singleton]
      cases s with
      | literal ps =>
          simp only [Balanced, Section.cost, Section.count] at hbal hlen ⊢
          omega
      | common q c =>
          simp only [Balanced, Section.cost, Section.count] at hbal hlen hpos ⊢
          split at hbal <;> omega

end Push

section Prefixes

/-! ## What is closed stays closed -/

variable [DecidableEq α] {cap : Nat} {reopen : α → Section α}

/-- A step closes sections and never opens one again. -/
theorem Encoded.push_closed (e : Encoded α) (p : α) :
    e.closed <+: (e.push cap reopen p).closed := by
  obtain ⟨closed, pending⟩ := e
  cases pending with
  | none => exact List.prefix_rfl
  | some s =>
      cases s with
      | literal ps =>
          simp only [push]
          split
          · split
            · exact List.prefix_rfl
            · exact List.prefix_append _ _
          · split
            · exact List.prefix_append _ _
            · exact List.prefix_rfl
      | common q c =>
          simp only [push]
          split
          · exact List.prefix_append _ _
          · split
            · exact List.prefix_append _ _
            · exact List.prefix_rfl

theorem Encoded.pushAll_closed (e : Encoded α) (ps : List α) :
    e.closed <+: (e.pushAll cap reopen ps).closed := by
  induction ps generalizing e with
  | nil => exact List.prefix_rfl
  | cons p ps ih => exact (e.push_closed p).trans (ih (e.push cap reopen p))

/-- What is closed after a part of the stream comes first in the encoding of the
whole. -/
theorem closed_prefix_encode {ps qs : List α} (h : ps <+: qs) :
    (Encoded.start.pushAll cap reopen ps).closed <+: encode cap reopen qs := by
  obtain ⟨rest, rfl⟩ := h
  have hall : Encoded.start.pushAll cap reopen (ps ++ rest) =
      (Encoded.start.pushAll cap reopen ps).pushAll cap reopen rest := List.foldl_append
  rw [encode, hall]
  exact (Encoded.pushAll_closed _ rest).trans (List.prefix_append _ _)

end Prefixes

section Encode

variable [DecidableEq α] {cap : Nat} {reopen : α → Section α}

theorem encode_sound (hcap : 3 ≤ cap) (hreopen : Reopens reopen) (ps : List α) :
    (Encoded.start.pushAll cap reopen ps).Sound cap ps := by
  simpa using (Encoded.start_sound cap).pushAll hcap hreopen ps

/-- **Round trip.** -/
theorem expand_encode (hcap : 3 ≤ cap) (hreopen : Reopens reopen) (ps : List α) :
    expand (encode cap reopen ps) = ps :=
  (encode_sound hcap hreopen ps).expands

theorem encode_wellFormed (hcap : 3 ≤ cap) (hreopen : Reopens reopen) (ps : List α) :
    ∀ s ∈ encode cap reopen ps, s.WellFormed cap :=
  (encode_sound hcap hreopen ps).wellFormed

/-- **The worst case.** -/
theorem encode_cost_le (hcap : 3 ≤ cap) (hreopen : Reopens reopen) (ps : List α) :
    totalCost (encode cap reopen ps) ≤ 2 * ps.length + (ps.length + (cap - 1)) / cap :=
  (encode_sound hcap hreopen ps).cost_le (by omega)

end Encode

section Constant

/-! ## Constant streams -/

variable [DecidableEq α] {cap : Nat}

/-- The encoder `k` full common sections and `r` symbols into a constant stream,
if a full section goes on as a literal of one symbol. -/
def constantState (cap : Nat) (p : α) (k r : Nat) : Encoded α :=
  ⟨List.replicate k (.common p cap), some (if r = 1 then .literal [p] else .common p r)⟩

theorem constantState_push {p : α} {k r : Nat} (hcap : 3 ≤ cap) (hr : 1 ≤ r) :
    (constantState cap p k r).push cap (fun q => .literal [q]) p =
      if r = cap then constantState cap p (k + 1) 1 else constantState cap p k (r + 1) := by
  by_cases hone : r = 1
  · subst hone
    rw [if_neg (by omega)]
    simp [constantState, Encoded.push]
  · have hnext : ¬ r + 1 = 1 := by omega
    simp only [constantState, if_neg hone, if_neg hnext, Encoded.push]
    rw [if_neg (fun hne => hne rfl)]
    by_cases hfull : r = cap
    · subst hfull
      simp [List.replicate_succ']
    · rw [if_neg hfull, if_neg hfull]

/-- A constant stream costs three for every section begun. -/
theorem encode_replicate_cost (hcap : 3 ≤ cap) (p : α) (n : Nat) :
    ∃ k, cap * k ≤ n ∧
      totalCost (encode cap (fun q => .literal [q]) (List.replicate (n + 1) p)) = 3 * (k + 1) := by
  have hstate : ∀ n, ∃ k r, 1 ≤ r ∧ r ≤ cap ∧ cap * k + r = n + 1 ∧
      Encoded.start.pushAll cap (fun q => .literal [q]) (List.replicate (n + 1) p) =
        constantState cap p k r := by
    intro n
    induction n with
    | zero => exact ⟨0, 1, by omega, by omega, by omega, rfl⟩
    | succ n ih =>
        obtain ⟨k, r, hpos, hle, hsum, hstate⟩ := ih
        have hpush : Encoded.start.pushAll cap (fun q => .literal [q])
            (List.replicate (n + 1 + 1) p) =
            (constantState cap p k r).push cap (fun q => .literal [q]) p := by
          rw [← hstate, List.replicate_succ']
          exact List.foldl_append
        rw [constantState_push hcap hpos] at hpush
        by_cases hfull : r = cap
        · rw [if_pos hfull] at hpush
          exact ⟨k + 1, 1, by omega, by omega, by rw [Nat.mul_succ]; omega, hpush⟩
        · rw [if_neg hfull] at hpush
          exact ⟨k, r + 1, by omega, by omega, by omega, hpush⟩
  obtain ⟨k, r, hpos, _, hsum, hstate⟩ := hstate n
  refine ⟨k, by omega, ?_⟩
  rw [encode, hstate, constantState, Encoded.sections, totalCost_append]
  have hclosed : totalCost (List.replicate k (Section.common p cap)) = 3 * k := by
    simp [totalCost, Section.cost, Nat.mul_comm]
  have hpending : totalCost (some (if r = 1 then Section.literal [p] else .common p r)).toList =
      3 := by
    split <;> rfl
  rw [hclosed, hpending]
  omega

end Constant

end RunLength
