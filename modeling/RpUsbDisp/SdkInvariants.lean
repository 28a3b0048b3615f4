import RpUsbDisp.SdkStages

/-!
# What the threads of a display keep

`Sound` is what holds in every world that a display gets to (`reachable_sound`): its threads keep
to their rules, and agree with the shared state.  Besides `Locked` and `Staged`, they agree on

* `Owned`: every transfer is one thread's, and libusb has those that are submitted only;
* `Numbered`: what was submitted under a number is what the thread of that number submitted.
-/

namespace RpUsbDisp.SdkDevice

open Programs Sdk StatusPackets Hotplug

variable {cfg : Config} {s s' : State cfg} {g g' : Task} {gs rest : List Task}

section Transfers

/-! ## The transfers -/

/-- The transfers of a thread. -/
def Task.transfers (g : Task) : List Nat := g.idle ++ g.flying

/-- A transfer that its thread may use, and one that libusb has, or has given back. -/
def TransferImpl.Idle (transfer : TransferImpl) : Prop :=
  transfer.inFlight = false ∧ transfer.completion = false

def TransferImpl.Flying (transfer : TransferImpl) : Prop :=
  transfer.inFlight = !transfer.completion

/-- Whose the transfers are. -/
structure Owned (s : State cfg) (gs : List Task) : Prop where
  owner : ∀ t, (gs.flatMap Task.transfers).count t = (s.transfers t).isSome.toNat
  idle : ∀ g ∈ gs, ∀ t ∈ g.idle, ∃ transfer, s.transfers t = some transfer ∧ transfer.Idle
  flying : ∀ g ∈ gs, ∀ t ∈ g.flying, ∃ transfer, s.transfers t = some transfer ∧ transfer.Flying
  allocated : ∀ t, s.nextTransfer ≤ t → s.transfers t = none

/-- What is said of the others' transfers, where they are not this thread's. -/
theorem Owned.apart (h : Owned s (g :: rest)) {t : Nat} (ht : t ∈ g.transfers) :
    g.transfers.count t = 1 ∧ ∀ u ∈ rest, t ∉ u.transfers := by
  have howner := h.owner t
  rw [List.flatMap_cons, List.count_append] at howner
  have hle := Bool.toNat_le (s.transfers t).isSome
  have hpos : 0 < g.transfers.count t := List.count_pos_iff.mpr ht
  refine ⟨by omega, fun u hu hmem => ?_⟩
  have hpos' : 0 < (rest.flatMap Task.transfers).count t :=
    List.count_pos_iff.mpr (List.mem_flatMap.mpr ⟨u, hu, hmem⟩)
  omega

/-- A transfer is not both. -/
theorem Owned.separate (h : Owned s (g :: rest)) {t : Nat} (ht : t ∈ g.idle) :
    g.idle.count t = 1 ∧ t ∉ g.flying := by
  obtain ⟨hcount, _⟩ := h.apart (t := t) (List.mem_append_left _ ht)
  rw [Task.transfers, List.count_append] at hcount
  have hpos : 0 < g.idle.count t := List.count_pos_iff.mpr ht
  refine ⟨by omega, fun hflying => ?_⟩
  have hpos' : 0 < g.flying.count t := List.count_pos_iff.mpr hflying
  omega

/-- Other things that are known of a thread do not count. -/
theorem Owned.frame (h : Owned s (g :: rest))
    (hs : s'.transfers = s.transfers ∧ s'.nextTransfer = s.nextTransfer)
    (hg : g'.idle = g.idle ∧ g'.flying = g.flying) : Owned s' (g' :: rest) := by
  obtain ⟨htransfers, hnext⟩ := hs
  obtain ⟨hidle, hflying⟩ := hg
  have hboth : g'.transfers = g.transfers := by rw [Task.transfers, hidle, hflying, ← Task.transfers]
  exact {
    owner := by
      rw [htransfers, List.flatMap_cons, hboth, ← List.flatMap_cons]
      exact h.owner
    idle := by
      rw [htransfers]
      refine List.forall_mem_cons.mpr ⟨?_, fun u hu => h.idle u (List.mem_cons_of_mem _ hu)⟩
      rw [hidle]
      exact h.idle g List.mem_cons_self
    flying := by
      rw [htransfers]
      refine List.forall_mem_cons.mpr ⟨?_, fun u hu => h.flying u (List.mem_cons_of_mem _ hu)⟩
      rw [hflying]
      exact h.flying g List.mem_cons_self
    allocated := by
      rw [htransfers, hnext]
      exact h.allocated }

/-- **A transfer changes**, and what its thread has with it. -/
theorem Owned.change (h : Owned s (g :: rest)) {t : Nat} {transfer : Option TransferImpl}
    (htransfers : s'.transfers = Function.update s.transfers t transfer)
    (hnext : s.nextTransfer ≤ s'.nextTransfer) (hallocated : t < s'.nextTransfer)
    (hapart : ∀ u ∈ rest, t ∉ u.transfers)
    (hsame : ∀ x, x ≠ t → g'.transfers.count x = g.transfers.count x)
    (hcount : g'.transfers.count t = transfer.isSome.toNat)
    (hidle : ∀ x ∈ g'.idle, (x ≠ t ∧ x ∈ g.idle) ∨
      (x = t ∧ ∃ new, transfer = some new ∧ new.Idle))
    (hflying : ∀ x ∈ g'.flying, (x ≠ t ∧ x ∈ g.flying) ∨
      (x = t ∧ ∃ new, transfer = some new ∧ new.Flying)) : Owned s' (g' :: rest) := by
  have hother : ∀ {x : Nat}, x ≠ t → s'.transfers x = s.transfers x := by
    intro x hx
    rw [htransfers, Function.update_of_ne hx]
  have hthis : s'.transfers t = transfer := by rw [htransfers, Function.update_self]
  exact {
    owner := by
      intro x
      have hbefore := h.owner x
      rw [List.flatMap_cons, List.count_append] at hbefore ⊢
      by_cases hx : x = t
      · subst hx
        have hnone : (rest.flatMap Task.transfers).count x = 0 := by
          refine List.count_eq_zero.mpr fun hmem => ?_
          obtain ⟨u, hu, hmem⟩ := List.mem_flatMap.mp hmem
          exact hapart u hu hmem
        rw [hcount, hnone, hthis, Nat.add_zero]
      · rw [hsame x hx, hother hx]
        exact hbefore
    idle := by
      refine List.forall_mem_cons.mpr ⟨fun x hx => ?_, fun u hu x hx => ?_⟩
      · rcases hidle x hx with ⟨hne, hmem⟩ | ⟨rfl, new, rfl, hnew⟩
        · rw [hother hne]
          exact h.idle g List.mem_cons_self x hmem
        · exact ⟨new, hthis, hnew⟩
      · have hne : x ≠ t := fun he => hapart u hu (he ▸ List.mem_append_left _ hx)
        rw [hother hne]
        exact h.idle u (List.mem_cons_of_mem _ hu) x hx
    flying := by
      refine List.forall_mem_cons.mpr ⟨fun x hx => ?_, fun u hu x hx => ?_⟩
      · rcases hflying x hx with ⟨hne, hmem⟩ | ⟨rfl, new, rfl, hnew⟩
        · rw [hother hne]
          exact h.flying g List.mem_cons_self x hmem
        · exact ⟨new, hthis, hnew⟩
      · have hne : x ≠ t := fun he => hapart u hu (he ▸ List.mem_append_right _ hx)
        rw [hother hne]
        exact h.flying u (List.mem_cons_of_mem _ hu) x hx
    allocated := by
      intro x hx
      rw [hother (by omega)]
      exact h.allocated x (by omega) }

/-- A transfer that is there has been allocated. -/
theorem Owned.below (h : Owned s gs) {t : Nat} {transfer : TransferImpl}
    (ht : s.transfers t = some transfer) : t < s.nextTransfer := by
  refine Nat.lt_of_not_le fun hle => ?_
  rw [h.allocated t hle] at ht
  cases ht

theorem Owned.alloc (h : Owned s (g :: rest)) (garbage : StatusBuffer) :
    Owned { s.setTransfer s.nextTransfer (some ⟨false, false, .unknown, garbage⟩) with
        nextTransfer := s.nextTransfer + 1 } ({ g with idle := s.nextTransfer :: g.idle } :: rest) := by
  have hfree : ((g :: rest).flatMap Task.transfers).count s.nextTransfer = 0 := by
    rw [h.owner, h.allocated _ (Nat.le_refl _)]
    rfl
  have hnot := List.count_eq_zero.mp hfree
  rw [List.flatMap_cons, List.mem_append, not_or] at hnot
  have hmine : g.transfers.count s.nextTransfer = 0 := List.count_eq_zero.mpr hnot.1
  rw [Task.transfers, List.count_append] at hmine
  refine h.change (t := s.nextTransfer) rfl (Nat.le_succ _) (Nat.lt_succ_self _)
    ?_ ?_ ?_ ?_ ?_
  · exact fun u hu hmem => hnot.2 (List.mem_flatMap.mpr ⟨u, hu, hmem⟩)
  · intro x hx
    rw [Task.transfers, Task.transfers, List.cons_append, List.count_cons_of_ne (Ne.symm hx)]
  · simp only [Task.transfers, List.cons_append, List.count_cons_self, List.count_append, hmine]
    rfl
  · intro x hx
    rcases List.mem_cons.mp hx with rfl | hx
    · exact Or.inr ⟨rfl, _, rfl, rfl, rfl⟩
    · refine Or.inl ⟨fun he => hnot.1 (List.mem_append_left _ (he ▸ hx)), hx⟩
  · intro x hx
    exact Or.inl ⟨fun he => hnot.1 (List.mem_append_right _ (he ▸ hx)), hx⟩

/-- What is left after one of a kind has gone. -/
theorem mem_erase_once {l : List Nat} {t x : Nat} (hcount : l.count t = 1) (hx : x ∈ l.erase t) :
    x ≠ t ∧ x ∈ l := by
  refine ⟨fun he => ?_, List.mem_of_mem_erase hx⟩
  have hpos : 0 < (l.erase t).count t := List.count_pos_iff.mpr (he ▸ hx)
  rw [List.count_erase_self, hcount] at hpos
  exact Nat.lt_irrefl 0 hpos

theorem Owned.submit (h : Owned s (g :: rest)) {t : Nat} (ht : t ∈ g.idle) {transfer : TransferImpl}
    (hnow : s.transfers t = some transfer)
    (htransfers : s'.transfers =
      Function.update s.transfers t (some { transfer with inFlight := true }))
    (hnext : s'.nextTransfer = s.nextTransfer)
    (hidle : g'.idle = g.idle.erase t) (hflying : g'.flying = t :: g.flying) :
    Owned s' (g' :: rest) := by
  obtain ⟨hone, hnot⟩ := h.separate ht
  have hapart := (h.apart (List.mem_append_left _ ht)).2
  obtain ⟨old, hold, _, hcompletion⟩ := h.idle g List.mem_cons_self t ht
  obtain rfl := Option.some.inj (hold.symm.trans hnow)
  refine h.change htransfers (Nat.le_of_eq hnext.symm) (hnext ▸ h.below hnow) hapart ?_ ?_ ?_ ?_
  · intro x hx
    simp only [Task.transfers, hidle, hflying, List.count_append,
      List.count_erase_of_ne hx, List.count_cons_of_ne (Ne.symm hx)]
  · have hzero := List.count_eq_zero.mpr hnot
    simp only [Task.transfers, hidle, hflying, List.count_append, List.count_erase_self, hone,
      List.count_cons_self, hzero]
    rfl
  · intro x hx
    rw [hidle] at hx
    exact Or.inl (mem_erase_once hone hx)
  · intro x hx
    rw [hflying] at hx
    rcases List.mem_cons.mp hx with rfl | hx
    · refine Or.inr ⟨rfl, _, rfl, ?_⟩
      show true = !_
      rw [hcompletion]
      rfl
    · exact Or.inl ⟨fun he => hnot (he ▸ hx), hx⟩

theorem Owned.wait (h : Owned s (g :: rest)) {t : Nat} (ht : t ∈ g.flying) {transfer : TransferImpl}
    (hnow : s.transfers t = some transfer) (hcompletion : transfer.completion = true) :
    Owned (s.setTransfer t (some { transfer with completion := false }))
      ({ g with idle := t :: g.idle, flying := g.flying.erase t } :: rest) := by
  obtain ⟨hcount, hapart⟩ := h.apart (List.mem_append_right _ ht)
  rw [Task.transfers, List.count_append] at hcount
  have hpos : 0 < g.flying.count t := List.count_pos_iff.mpr ht
  have hone : g.flying.count t = 1 := by omega
  have hzero : g.idle.count t = 0 := by omega
  obtain ⟨old, hold, hflight⟩ := h.flying g List.mem_cons_self t ht
  obtain rfl := Option.some.inj (hold.symm.trans hnow)
  refine h.change (t := t) rfl (Nat.le_refl _) (h.below hnow) hapart ?_ ?_ ?_ ?_
  · intro x hx
    simp only [Task.transfers, List.count_append, List.count_erase_of_ne hx,
      List.count_cons_of_ne (Ne.symm hx)]
  · simp only [Task.transfers, List.count_append, List.count_erase_self, hone,
      List.count_cons_self, hzero]
    rfl
  · intro x hx
    rcases List.mem_cons.mp hx with rfl | hx
    · refine Or.inr ⟨rfl, _, rfl, ?_, rfl⟩
      show old.inFlight = false
      rw [hflight, hcompletion]
      rfl
    · exact Or.inl ⟨fun he => List.count_eq_zero.mp hzero (he ▸ hx), hx⟩
  · intro x hx
    exact Or.inl (mem_erase_once hone hx)

theorem Owned.free (h : Owned s (g :: rest)) {t : Nat} (ht : t ∈ g.idle) :
    Owned (s.setTransfer t none) ({ g with idle := g.idle.erase t } :: rest) := by
  obtain ⟨hone, hnot⟩ := h.separate ht
  have hapart := (h.apart (List.mem_append_left _ ht)).2
  obtain ⟨old, hold, _⟩ := h.idle g List.mem_cons_self t ht
  refine h.change (t := t) rfl (Nat.le_refl _) (h.below hold) hapart ?_ ?_ ?_ ?_
  · intro x hx
    simp only [Task.transfers, List.count_append, List.count_erase_of_ne hx]
  · have hzero := List.count_eq_zero.mpr hnot
    simp only [Task.transfers, List.count_append, List.count_erase_self, hone, hzero]
    rfl
  · intro x hx
    exact Or.inl (mem_erase_once hone hx)
  · intro x hx
    exact Or.inl ⟨fun he => hnot (he ▸ hx), hx⟩

/-- **One operation** of a thread. -/
theorem Owned.track {o : SdkOp cfg} {r : o.Res} (h : Owned s (g :: rest)) (hpre : g.Permits o)
    (heffect : Effect s o r s') : Owned s' (g.track o r :: rest) := by
  cases ho : o.handles with
  | false => exact h.frame (heffect.transfers_same ho) (Task.track_transfers ho)
  | true =>
      cases heffect with
      | allocTransfer => exact h.alloc cfg.garbage
      | noTransfer => exact h
      | submitStatus hnow => exact h.submit hpre.1 hnow rfl rfl rfl rfl
      | refuseStatus hresult =>
          rw [Task.track_submitStatus, if_neg hresult]
          exact h
      | submitDisplay hnow => exact h.submit hpre.1 hnow rfl rfl rfl rfl
      | refuseDisplay hresult =>
          rw [Task.track_submitDisplay, if_neg hresult]
          exact h
      | waitForCompletion hnow hcompletion => exact h.wait hpre.1 hnow hcompletion
      | freeTransfer t => exact h.free hpre
      | _ => cases ho

/-- libusb gives a transfer back. -/
theorem Owned.complete (h : Owned s gs) {t : Nat} {transfer : TransferImpl}
    (hnow : s.transfers t = some transfer) (hflight : transfer.inFlight = true)
    (status : TransferStatus) (received : Received) :
    Owned (s.setTransfer t (some (transfer.complete status received))) gs := by
  have hother : ∀ {x : Nat}, x ≠ t → (s.setTransfer t
      (some (transfer.complete status received))).transfers x = s.transfers x :=
    fun hx => Function.update_of_ne hx _ _
  have hthis : (s.setTransfer t (some (transfer.complete status received))).transfers t =
      some (transfer.complete status received) := Function.update_self _ _ _
  exact {
    owner := by
      intro x
      by_cases hx : x = t
      · subst hx
        rw [hthis, h.owner, hnow]
        rfl
      · rw [hother hx]
        exact h.owner x
    idle := by
      intro g hg x hx
      have hne : x ≠ t := by
        intro he
        obtain ⟨old, hold, hidle⟩ := h.idle g hg x hx
        rw [he, hnow] at hold
        cases hold
        rw [hidle.1] at hflight
        cases hflight
      rw [hother hne]
      exact h.idle g hg x hx
    flying := by
      intro g hg x hx
      by_cases hxt : x = t
      · rw [hxt, hthis]
        exact ⟨_, rfl, rfl⟩
      · rw [hother hxt]
        exact h.flying g hg x hx
    allocated := by
      intro x hx
      have hne : x ≠ t := by
        have hlt := h.below hnow
        have hle : s.nextTransfer ≤ x := hx
        omega
      rw [hother hne]
      exact h.allocated x hx }

theorem Owned.same (h : Owned s gs)
    (hs : s'.transfers = s.transfers ∧ s'.nextTransfer = s.nextTransfer) : Owned s' gs := by
  obtain ⟨htransfers, hnext⟩ := hs
  exact {
    owner := by
      rw [htransfers]
      exact h.owner
    idle := by
      rw [htransfers]
      exact h.idle
    flying := by
      rw [htransfers]
      exact h.flying
    allocated := by
      rw [htransfers, hnext]
      exact h.allocated }

/-- A thread without transfers. -/
theorem Owned.enter (h : Owned s gs) (role : Role) (number : Nat) :
    Owned s (Task.start role number :: gs) where
  owner := h.owner
  idle := List.forall_mem_cons.mpr ⟨(fun t ht => by cases ht), h.idle⟩
  flying := List.forall_mem_cons.mpr ⟨(fun t ht => by cases ht), h.flying⟩
  allocated := h.allocated

theorem Owned.leave (h : Owned s (g :: rest)) (hidle : g.idle = []) (hflying : g.flying = []) :
    Owned s rest where
  owner := by
    intro t
    have hbefore := h.owner t
    rwa [List.flatMap_cons, Task.transfers, hidle, hflying, List.nil_append, List.nil_append]
      at hbefore
  idle := fun u hu => h.idle u (List.mem_cons_of_mem _ hu)
  flying := fun u hu => h.flying u (List.mem_cons_of_mem _ hu)
  allocated := h.allocated

end Transfers

section Numbers

/-! ## What was submitted -/

/-- What was submitted under a number. -/
def State.sentBy (s : State cfg) (number : Nat) : List DisplayCall :=
  (s.wire.filter fun sent => sent.caller = number).map Sent.call

/-- Whose the submissions are. -/
structure Numbered (s : State cfg) (gs : List Task) : Prop where
  below : ∀ g ∈ gs, g.number < s.nextNumber
  apart : (gs.map Task.number ++ s.finished.map Finished.number).Nodup
  before : ∀ f ∈ s.finished, f.number < s.nextNumber
  sent : ∀ g ∈ gs, s.sentBy g.number = g.submitted
  finished : ∀ f ∈ s.finished, f.call.Submits f.outcome (s.sentBy f.number)
  none : ∀ sent ∈ s.wire, sent.caller < s.nextNumber

/-- Other things that are known of a thread do not count. -/
theorem Numbered.frame (h : Numbered s (g :: rest)) (hwire : s'.wire = s.wire)
    (hthreads : s'.disposing = s.disposing ∧ s'.nextNumber = s.nextNumber ∧ s'.finished = s.finished)
    (hnumber : g'.number = g.number) (hsubmitted : g'.submitted = g.submitted) :
    Numbered s' (g' :: rest) := by
  obtain ⟨_, hnext, hfinished⟩ := hthreads
  have hsent : ∀ number, s'.sentBy number = s.sentBy number := by
    intro number
    rw [State.sentBy, hwire, ← State.sentBy]
  exact {
    below := by
      rw [hnext]
      refine List.forall_mem_cons.mpr ⟨?_, fun u hu => h.below u (List.mem_cons_of_mem _ hu)⟩
      rw [hnumber]
      exact h.below g List.mem_cons_self
    apart := by
      rw [hfinished, List.map_cons, hnumber, ← List.map_cons]
      exact h.apart
    before := by
      rw [hfinished, hnext]
      exact h.before
    sent := by
      refine List.forall_mem_cons.mpr ⟨?_, fun u hu => ?_⟩
      · rw [hsent, hnumber, hsubmitted]
        exact h.sent g List.mem_cons_self
      · rw [hsent]
        exact h.sent u (List.mem_cons_of_mem _ hu)
    finished := by
      rw [hfinished]
      intro f hf
      rw [hsent]
      exact h.finished f hf
    none := by
      rw [hwire, hnext]
      exact h.none }

/-- The number of a thread is nobody else's. -/
theorem Numbered.other (h : Numbered s (g :: rest)) :
    (∀ u ∈ rest, u.number ≠ g.number) ∧ ∀ f ∈ s.finished, f.number ≠ g.number := by
  have hapart := h.apart
  rw [List.map_cons, List.cons_append, List.nodup_cons, List.mem_append, not_or] at hapart
  refine ⟨fun u hu he => hapart.1.1 ?_, fun f hf he => hapart.1.2 ?_⟩
  · exact he ▸ List.mem_map_of_mem hu
  · exact he ▸ List.mem_map_of_mem hf

theorem Numbered.submit (h : Numbered s (g :: rest)) {sent : Sent cfg} (hcaller : sent.caller = g.number)
    (hwire : s'.wire = s.wire ++ [sent])
    (hthreads : s'.disposing = s.disposing ∧ s'.nextNumber = s.nextNumber ∧ s'.finished = s.finished)
    (hnumber : g'.number = g.number) (hsubmitted : g'.submitted = g.submitted ++ [sent.call]) :
    Numbered s' (g' :: rest) := by
  obtain ⟨_, hnext, hfinished⟩ := hthreads
  obtain ⟨hothers, hover⟩ := h.other
  have hsent : ∀ number, number ≠ g.number → s'.sentBy number = s.sentBy number := by
    intro number hne
    have hnot : ¬ sent.caller = number := fun he => hne (he.symm.trans hcaller)
    rw [State.sentBy, hwire, List.filter_append, List.filter_cons_of_neg (by simpa using hnot),
      List.filter_nil, List.append_nil, ← State.sentBy]
  have hmine : s'.sentBy g.number = s.sentBy g.number ++ [sent.call] := by
    rw [State.sentBy, hwire, List.filter_append, List.filter_cons_of_pos (by simpa using hcaller),
      List.filter_nil, List.map_append, ← State.sentBy]
    rfl
  exact {
    below := by
      rw [hnext]
      refine List.forall_mem_cons.mpr ⟨?_, fun u hu => h.below u (List.mem_cons_of_mem _ hu)⟩
      rw [hnumber]
      exact h.below g List.mem_cons_self
    apart := by
      rw [hfinished, List.map_cons, hnumber, ← List.map_cons]
      exact h.apart
    before := by
      rw [hfinished, hnext]
      exact h.before
    sent := by
      refine List.forall_mem_cons.mpr ⟨?_, fun u hu => ?_⟩
      · rw [hnumber, hmine, hsubmitted, h.sent g List.mem_cons_self]
      · rw [hsent _ (hothers u hu)]
        exact h.sent u (List.mem_cons_of_mem _ hu)
    finished := by
      rw [hfinished]
      intro f hf
      rw [hsent _ (hover f hf)]
      exact h.finished f hf
    none := by
      rw [hwire, hnext]
      intro x hx
      rcases List.mem_append.mp hx with hx | hx
      · exact h.none x hx
      · rw [List.mem_singleton.mp hx, hcaller]
        exact h.below g List.mem_cons_self }

/-- **One operation** of a thread. -/
theorem Numbered.track {o : SdkOp cfg} {r : o.Res} (h : Numbered s (g :: rest)) (hpre : g.Permits o)
    (heffect : Effect s o r s') : Numbered s' (g.track o r :: rest) := by
  cases ho : o.draws with
  | false =>
      exact h.frame (heffect.wire_same ho) heffect.threads_same (Task.track_number g o r)
        (Task.track_submitted ho)
  | true =>
      cases heffect with
      | submitDisplay hnow => exact h.submit hpre.2 rfl ⟨rfl, rfl, rfl⟩ rfl rfl
      | refuseDisplay hresult =>
          rw [Task.track_submitDisplay, if_neg hresult]
          exact h
      | _ => cases ho

theorem Numbered.same (h : Numbered s gs) (hwire : s'.wire = s.wire)
    (hnext : s'.nextNumber = s.nextNumber) (hfinished : s'.finished = s.finished) :
    Numbered s' gs := by
  have hsent : ∀ number, s'.sentBy number = s.sentBy number := by
    intro number
    rw [State.sentBy, hwire, ← State.sentBy]
  exact {
    below := by
      rw [hnext]
      exact h.below
    apart := by
      rw [hfinished]
      exact h.apart
    before := by
      rw [hfinished, hnext]
      exact h.before
    sent := by
      intro g hg
      rw [hsent]
      exact h.sent g hg
    finished := by
      rw [hfinished]
      intro f hf
      rw [hsent]
      exact h.finished f hf
    none := by
      rw [hwire, hnext]
      exact h.none }

/-- A thread that enters has a number of its own. -/
theorem Numbered.enter (h : Numbered s gs) (role : Role) :
    Numbered { s with nextNumber := s.nextNumber + 1 } (Task.start role s.nextNumber :: gs) where
  below := List.forall_mem_cons.mpr
    ⟨Nat.lt_succ_self _, fun u hu => Nat.lt_succ_of_lt (h.below u hu)⟩
  apart := by
    rw [List.map_cons, List.cons_append, List.nodup_cons]
    refine ⟨fun hmem => ?_, h.apart⟩
    have hlt : s.nextNumber < s.nextNumber := by
      rcases List.mem_append.mp hmem with hmem | hmem
      · obtain ⟨u, hu, hnumber⟩ := List.mem_map.mp hmem
        have hbelow := h.below u hu
        rwa [hnumber] at hbelow
      · obtain ⟨f, hf, hnumber⟩ := List.mem_map.mp hmem
        have hbelow := h.before f hf
        rwa [hnumber] at hbelow
    exact Nat.lt_irrefl _ hlt
  before := fun f hf => Nat.lt_succ_of_lt (h.before f hf)
  sent := by
    refine List.forall_mem_cons.mpr ⟨?_, h.sent⟩
    have hnone : s.wire.filter (fun sent => sent.caller = s.nextNumber) = [] := by
      refine List.filter_eq_nil_iff.mpr fun sent hsent => ?_
      have hlt := h.none sent hsent
      simp only [decide_eq_true_eq]
      omega
    show (s.wire.filter fun sent => sent.caller = s.nextNumber).map Sent.call = []
    rw [hnone]
    rfl
  finished := h.finished
  none := fun sent hsent => Nat.lt_succ_of_lt (h.none sent hsent)

/-- A thread ends. -/
theorem Numbered.finish (h : Numbered s (g :: rest)) {outcome : Outcome}
    (hends : EndsWell outcome g) : Numbered (s.retire g outcome) rest := by
  have hbefore : ∀ {P : Task → Prop}, (∀ u ∈ g :: rest, P u) → ∀ u ∈ rest, P u :=
    fun hP u hu => hP u (List.mem_cons_of_mem _ hu)
  have hgone : Numbered s rest := {
    below := hbefore h.below
    apart := by
      have hapart := h.apart
      rw [List.map_cons, List.cons_append, List.nodup_cons] at hapart
      exact hapart.2
    before := h.before
    sent := hbefore h.sent
    finished := h.finished
    none := h.none }
  have hend := hends.ends
  unfold State.retire
  cases hrole : g.role with
  | call c =>
      rw [hrole] at hend
      exact {
        below := hgone.below
        apart := by
          rw [List.map_append, ← List.append_assoc]
          have hapart := h.apart
          rw [List.map_cons, List.cons_append] at hapart
          exact (List.perm_append_singleton _ _).nodup_iff.mpr hapart
        before := by
          intro f hf
          rcases List.mem_append.mp hf with hf | hf
          · exact h.before f hf
          · rw [List.mem_singleton.mp hf]
            exact h.below g List.mem_cons_self
        sent := hgone.sent
        finished := by
          intro f hf
          rcases List.mem_append.mp hf with hf | hf
          · exact h.finished f hf
          · rw [List.mem_singleton.mp hf]
            show c.Submits outcome (s.sentBy g.number)
            rw [h.sent g List.mem_cons_self]
            exact hend.2.2.1
        none := h.none }
  | worker => exact hgone.same rfl rfl rfl
  | destructor => exact hgone

end Numbers

section Runs

/-! ## All of it -/

/-- What the shared state and the threads have to do with each other. -/
structure Agreed (s : State cfg) (gs : List Task) : Prop where
  locked : Locked s gs
  staged : Staged s gs
  owned : Owned s gs
  numbered : Numbered s gs

/-- The order of the threads does not matter. -/
theorem Agreed.perm (h : Agreed s gs) (hperm : gs.Perm rest) : Agreed s rest := by
  obtain ⟨hlocked, hstaged, howned, hnumbered⟩ := h
  have hall : ∀ {P : Task → Prop}, (∀ g ∈ gs, P g) → ∀ g ∈ rest, P g :=
    fun hP g hg => hP g (hperm.mem_iff.mpr hg)
  have hcount : ∀ p : Task → Bool, gs.countP p = rest.countP p := fun p => hperm.countP_eq p
  exact {
    locked := (hcount _).symm.trans hlocked
    staged := {
      needs := hall hstaged.needs
      calls := hall hstaged.calls
      ends := hall hstaged.ends
      passed := hall hstaged.passed
      returned := hstaged.returned
      once := (hcount _).symm.trans hstaged.once
      fresh := hstaged.fresh
      done := hstaged.done
      worker := (hcount _).symm.trans hstaged.worker
      live := hstaged.live
      joined := hstaged.joined
      destructor := hcount _ ▸ hstaged.destructor
      closed := fun hd => hall (hstaged.closed hd)
      left := fun hd hzero => hstaged.left hd ((hcount _).trans hzero) }
    owned := {
      owner := fun t => ((hperm.flatMap_right Task.transfers).count_eq t).symm.trans (howned.owner t)
      idle := hall howned.idle
      flying := hall howned.flying
      allocated := howned.allocated }
    numbered := {
      below := hall hnumbered.below
      apart := ((hperm.map Task.number).append_right _).nodup_iff.mp hnumbered.apart
      before := hnumbered.before
      sent := hall hnumbered.sent
      finished := hnumbered.finished
      none := hnumbered.none } }

/-- The answers are such as the rules allow. -/
theorem Agreed.answer {o : SdkOp cfg} {r : o.Res} (h : Agreed s (g :: rest)) (hpre : g.Permits o)
    (heffect : Effect s o r s') : (callRules cfg).answer g o r := by
  cases heffect with
  | lockStatus hfree => exact h.locked.free hfree g List.mem_cons_self
  | onceFirst hfresh => exact fun _ => h.staged.first_call hfresh hpre.1
  | onceAgain hdone => exact fun hfirst => by cases hfirst
  | _ => trivial

/-- **One operation** of a thread. -/
theorem Agreed.track {o : SdkOp cfg} {r : o.Res} (h : Agreed s (g :: rest)) (hpre : g.Permits o)
    (heffect : Effect s o r s') : Agreed s' (g.track o r :: rest) :=
  ⟨h.locked.track hpre heffect, h.staged.track hpre heffect, h.owned.track hpre heffect,
    h.numbered.track hpre heffect⟩

/-- A thread enters. -/
theorem Agreed.enter {w : SdkWorld cfg} (h : Agreed w.shared w.ghosts) {role : Role}
    {prog : Nat → SdkProg cfg Outcome} {e : Event} {s : State cfg} (henter : Enters w e role prog s) :
    Agreed { s with nextNumber := s.nextNumber + 1 } (Task.start role s.nextNumber :: w.ghosts) := by
  have hnew := h.owned.enter role s.nextNumber
  obtain ⟨hlocked, hstaged, _, hnumbered⟩ := h
  cases henter with
  | call c hopen =>
      exact ⟨hlocked, (hstaged.enterCall hopen c _).same ⟨rfl, rfl, rfl, rfl⟩ rfl rfl,
        hnew.same ⟨rfl, rfl⟩, hnumbered.enter _⟩
  | destructor hopen hnone =>
      exact ⟨hlocked, (hstaged.enterDestructor hopen hnone _).same ⟨rfl, rfl, rfl, rfl⟩ rfl rfl,
        hnew.same ⟨rfl, rfl⟩, (hnumbered.enter .destructor).same rfl rfl rfl⟩
  | worker hcreated =>
      exact ⟨hlocked, (hstaged.enterWorker hcreated _).same ⟨rfl, rfl, rfl, rfl⟩ rfl rfl,
        hnew.same ⟨rfl, rfl⟩, (hnumbered.enter .worker).same rfl rfl rfl⟩

/-- A thread goes round. -/
theorem Agreed.again (h : Agreed s (g :: rest)) : Agreed s (g.again :: rest) :=
  ⟨h.locked.frame rfl rfl, h.staged.retrack rfl rfl Or.inl, h.owned.frame ⟨rfl, rfl⟩ ⟨rfl, rfl⟩,
    h.numbered.frame rfl ⟨rfl, rfl, rfl⟩ rfl rfl⟩

/-- A thread ends. -/
theorem Agreed.finish (h : Agreed s (g :: rest)) {outcome : Outcome} (hends : EndsWell outcome g)
    (hlast : ∀ t, outcome ≠ .again t) : Agreed (s.retire g outcome) rest := by
  have hidle : g.idle = [] := by
    have hend := hends.ends
    cases hrole : g.role with
    | call c =>
        rw [hrole] at hend
        exact hend.2.1
    | worker =>
        rw [hrole] at hend
        cases outcome with
        | again t => exact absurd rfl (hlast t)
        | ended => exact hend.2.1
        | _ => exact hend.elim
    | destructor =>
        rw [hrole] at hend
        cases outcome with
        | disposed => exact hend.2
        | _ => exact hend.elim
  have hsame : (s.retire g outcome).transfers = s.transfers ∧
      (s.retire g outcome).nextTransfer = s.nextTransfer ∧
      (s.retire g outcome).statusLock = s.statusLock := by
    unfold State.retire
    split <;> exact ⟨rfl, rfl, rfl⟩
  have hlocked : Locked s rest := by
    have hcount := h.locked
    rwa [Locked, List.countP_cons_of_neg (Bool.eq_false_iff.mp hends.released)] at hcount
  refine ⟨?_, h.staged.finish hends hlast,
    (h.owned.leave hidle hends.landed).same ⟨hsame.1, hsame.2.1⟩, h.numbered.finish hends⟩
  rw [Locked, hsame.2.2]
  exact hlocked

/-- A world whose threads keep to the rules and agree with the shared state. -/
structure Sound (w : SdkWorld cfg) : Prop where
  fine : w.Fine (callRules cfg) (fun _ => True) EndsWell
  agreed : Agreed w.shared w.ghosts

/-- A thread and the others. -/
theorem Sound.split {w : SdkWorld cfg} (h : Sound w) {i : Nat} {p : SdkProg cfg Outcome} {g : Task}
    (hi : w.threads[i]? = some ⟨p, g⟩) : Agreed w.shared (g :: w.others i) :=
  h.agreed.perm (World.ghosts_perm hi)

/-- The threads that enter keep to the rules. -/
theorem Enters.obeys {w : SdkWorld cfg} {role : Role} {prog : Nat → SdkProg cfg Outcome}
    {e : Event} {s : State cfg} (h : Enters w e role prog s) (number : Nat) :
    Obeys (prog number) EndsWell (Task.start role number) := by
  cases h with
  | call c => exact obeys_call c number
  | destructor => exact obeys_destroy number
  | worker => exact obeys_statusFetchingWorker number

/-- The status thread, when it goes round. -/
theorem EndsWell.between {t : Nat} (h : EndsWell (.again t) g) : g.again.Between t := by
  have hend := h.ends
  cases hrole : g.role with
  | call c =>
      rw [hrole] at hend
      obtain ⟨_, _, hsubmits, _⟩ := hend
      cases c <;> exact hsubmits.elim
  | worker =>
      rw [hrole] at hend
      exact ⟨hrole, hend.1, h.released, h.landed, hend.2⟩
  | destructor =>
      rw [hrole] at hend
      exact hend.elim

/-- **Every event** keeps it. -/
theorem Sound.step {w w' : SdkWorld cfg} {e : Event} (h : Sound w) (hstep : Step w e w') : Sound w' := by
  cases hstep with
  | enter henter =>
      refine ⟨World.Fine.spawn (s := _) h.fine (henter.obeys _), ?_⟩
      exact (h.agreed.enter henter).perm (World.ghosts_spawn_perm _ _ _ _).symm
  | @again i t g hi =>
      have hround := (h.fine.ret hi).between
      refine ⟨?_, (h.split hi).again.perm
        (World.ghosts_set_perm hi _ ⟨workerRound cfg g.number t, g.again⟩).symm⟩
      intro u hu
      rcases List.mem_or_eq_of_mem_set hu with hu | rfl
      · exact h.fine u hu
      · exact obeys_workerRound hround rfl
  | @run i result o k g r s hi heffect =>
      have hpre := (h.fine.pre hi).1
      have hagreed := h.split hi
      refine ⟨h.fine.set hi (hagreed.answer hpre heffect) _, ?_⟩
      exact (hagreed.track hpre heffect).perm (World.ghosts_set_perm hi _ ⟨k r, g.track o r⟩).symm
  | finish hi hlast =>
      exact ⟨h.fine.erase _, (h.split hi).finish (h.fine.ret hi) hlast⟩
  | complete hnow hflight hpolled status received =>
      obtain ⟨hlocked, hstaged, howned, hnumbered⟩ := h.agreed
      exact ⟨h.fine, hlocked, hstaged.same ⟨rfl, rfl, rfl, rfl⟩ rfl rfl,
        howned.complete hnow hflight status received, hnumbered.same rfl rfl rfl⟩
  | others running =>
      obtain ⟨hlocked, hstaged, howned, hnumbered⟩ := h.agreed
      exact ⟨h.fine, hlocked, hstaged.same ⟨rfl, rfl, rfl, rfl⟩ rfl rfl,
        howned.same ⟨rfl, rfl⟩, hnumbered.same rfl rfl rfl⟩

theorem sound_constructed (packetType : UInt8) : Sound (constructed cfg packetType) where
  fine := fun t ht => by cases ht
  agreed := {
    locked := rfl
    staged := {
      needs := fun g hg => by cases hg
      calls := fun g hg => by cases hg
      ends := fun g hg => by cases hg
      passed := fun g hg => by cases hg
      returned := fun f hf => by cases hf
      once := rfl
      fresh := fun _ => rfl
      done := fun hd => by cases hd
      worker := rfl
      live := fun hne => absurd rfl hne
      joined := fun hj => by cases hj
      destructor := Nat.le_refl _
      closed := fun hd => by cases hd
      left := fun hd => by cases hd }
    owned := {
      owner := fun _ => rfl
      idle := fun g hg => by cases hg
      flying := fun g hg => by cases hg
      allocated := fun _ _ => rfl }
    numbered := {
      below := fun g hg => by cases hg
      apart := List.nodup_nil
      before := fun f hf => by cases hf
      sent := fun g hg => by cases hg
      finished := fun f hf => by cases hf
      none := fun sent hs => by cases hs } }

/-- **Every world** that a display gets to is such. -/
theorem reachable_sound {w : SdkWorld cfg} (h : Reachable w) : Sound w :=
  h.invariant sound_constructed fun _ _ _ hw _ hstep => hw.step hstep

end Runs

end RpUsbDisp.SdkDevice
