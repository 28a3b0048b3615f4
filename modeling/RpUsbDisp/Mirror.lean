import Mathlib.Data.Set.Basic

/-!
# Mirrored maps

A map and its copy elsewhere.  The map is painted on, and parts of it are sent
over.  The places where the copy is behind are *stale*.  A keeper of the pair
knows a set that covers the stale places, and the lemmas say how this set has to
follow each kind of change.
-/

namespace Mirror

variable {ι α : Type}

/-- The places where the copy is behind. -/
def stale (source copy : ι → α) : Set ι :=
  {p | source p ≠ copy p}

/-- The map is only changed within `region`. -/
def ChangesOnly (region : Set ι) (before after : ι → α) : Prop :=
  ∀ p, p ∉ region → after p = before p

/-- `region` of the map, laid over the copy. -/
def Overwrites (region : Set ι) (source before after : ι → α) : Prop :=
  (∀ p, p ∈ region → after p = source p) ∧ ChangesOnly region before after

variable {source source' copy copy' : ι → α} {region covered : Set ι}

theorem stale_eq_empty : stale source copy = ∅ ↔ ∀ p, source p = copy p := by
  simp [stale, Set.eq_empty_iff_forall_notMem]

/-- Painting makes no more than the painted region stale. -/
theorem stale_paint (h : stale source copy ⊆ covered)
    (hpaint : ChangesOnly region source source') : stale source' copy ⊆ covered ∪ region := by
  intro p hp
  by_cases hregion : p ∈ region
  · exact Or.inr hregion
  · apply Or.inl
    apply h
    have hne : source' p ≠ copy p := hp
    rwa [hpaint p hregion] at hne

/-- A copy that is disturbed within what is covered stays covered. -/
theorem stale_disturb (h : stale source copy ⊆ covered)
    (hcopy : ChangesOnly covered copy copy') : stale source copy' ⊆ covered := by
  intro p hp
  by_contra hcovered
  have hne : source p ≠ copy' p := hp
  rw [hcopy p hcovered] at hne
  exact hcovered (h hne)

/-- Sending all that may be stale leaves nothing stale. -/
theorem stale_overwrite (h : stale source copy ⊆ covered)
    (hsend : Overwrites covered source copy copy') : stale source copy' = ∅ := by
  rw [stale_eq_empty]
  intro p
  by_cases hcovered : p ∈ covered
  · exact (hsend.1 p hcovered).symm
  · rw [hsend.2 p hcovered]
    by_contra hne
    exact hcovered (h hne)

/-- **Replay.**  The same change made on both sides leaves nothing stale, if all
that was stale is changed by it. -/
theorem stale_replay (h : stale source copy ⊆ region)
    (hsource : ChangesOnly region source source') (hcopy : ChangesOnly region copy copy')
    (hsame : ∀ p, p ∈ region → copy' p = source' p) : stale source' copy' = ∅ := by
  rw [stale_eq_empty]
  intro p
  by_cases hregion : p ∈ region
  · exact (hsame p hregion).symm
  · rw [hsource p hregion, hcopy p hregion]
    by_contra hne
    exact hregion (h hne)

end Mirror
