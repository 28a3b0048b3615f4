import RpUsbDisp.Updates

/-!
# Acknowledged refreshes

A device that has lost something of its picture says so in its status packets, and a
transfer that fails means the same.  Either sets `unsync_flag`, and the update that
counts it down to zero sends the whole screen with CLEARDIRTY, which tells the device
that it has everything again.

That update alone knows that it has taken the flag: `clear_dirty` is a local
variable of it.  If its send fails, or if it is a drawing command the device carries
out by itself, the screen still goes over some time, but nobody acknowledges it.
`refresh_acknowledged` says when the flag is not lost in this way.
-/

namespace RpUsbDisp

open Programs

/-! ## Commands that acknowledge -/

/-- `cmd_flag` of the command's first packet. -/
def Command.cmdFlag (dev : Dev) : Command → UInt8
  | .sendImage _ x y right bottom _ clearDirty =>
      (bitbltHeader dev dev.rlemode x y right bottom clearDirty).cmdFlag
  | .drawRect x y right bottom color operation =>
      (fillrectPacket dev x y right bottom color operation).cmdFlag
  | .copyArea sx sy dx dy width height => (copyareaPacket dev sx sy dx dy width height).cmdFlag

/-- The command carries CLEARDIRTY. -/
def Send.Acknowledges (dev : Dev) (framebuffer : Int → Pixel) (c : Send) : Prop :=
  (c.command framebuffer).cmdFlag dev &&& RPUSBDISP_CMD_FLAG_CLEARDITY ≠ 0

/-- The header of a bitblt has the flag if `clear_dirty` says so. -/
theorem bitbltHeader_acknowledges (dev : Dev) (rlemode : Bool) (x y right bottom : Int)
    (clearDirty : Bool) :
    (bitbltHeader dev rlemode x y right bottom clearDirty).cmdFlag &&&
      RPUSBDISP_CMD_FLAG_CLEARDITY ≠ 0 ↔ clearDirty = true := by
  simp only [bitbltHeader]
  cases rlemode <;> cases clearDirty <;> decide

/-- Only a bitblt can carry CLEARDIRTY, and it does if it is told to. -/
theorem acknowledges_iff (dev : Dev) (framebuffer : Int → Pixel) (c : Send) :
    c.Acknowledges dev framebuffer ↔ ∃ r, c = .image r true := by
  cases c with
  | image r clearDirty =>
      rw [Send.Acknowledges, Send.command, Command.cmdFlag, bitbltHeader_acknowledges]
      constructor
      · intro h
        obtain rfl := h
        exact ⟨r, rfl⟩
      · intro h
        obtain ⟨_, heq⟩ := h
        exact (Send.image.inj heq).2
  | accelerated a =>
      refine iff_of_false ?_ (by simp)
      cases a with
      | fillrect rect =>
          have hflag : (RPUSBDISP_DISPCMD_RECT ||| RPUSBDISP_CMD_FLAG_START) &&&
              RPUSBDISP_CMD_FLAG_CLEARDITY = 0 := by decide
          exact not_not_intro hflag
      | copyarea area =>
          have hflag : (RPUSBDISP_DISPCMD_COPY_AREA ||| RPUSBDISP_CMD_FLAG_START) &&&
              RPUSBDISP_CMD_FLAG_CLEARDITY = 0 := by decide
          exact not_not_intro hflag

/-! ## The lock and the flag -/

/-- Thread `i` holds `operation_lock`. -/
def Holds (w : UpdateWorld) (i : Nat) : Prop :=
  ∃ t, w.threads[i]? = some t ∧ t.ghost ≠ .outside

/-- Thread `i` has taken the flag and not sent yet. -/
def HasTaken (w : UpdateWorld) (i : Nat) : Prop :=
  ∃ t, w.threads[i]? = some t ∧ t.ghost = .tested true

/-- **The invariant.**  One thread at most is inside the lock, and a refresh that is owed
is either still to be taken or in the hands of the update that has taken it. -/
structure Owing (w : UpdateWorld) : Prop where
  locked : ∀ i, Holds w i → w.shared.fb.pa.operationLock = true
  single : ∀ i j, Holds w i → Holds w j → i = j
  owed : w.shared.owed = true → w.shared.fb.pa.unsyncFlag = 1 ∨ ∃ i, HasTaken w i

theorem HasTaken.holds {w : UpdateWorld} {i : Nat} (h : HasTaken w i) : Holds w i := by
  obtain ⟨t, hi, htaken⟩ := h
  exact ⟨t, hi, by rw [htaken]; exact nofun⟩

/-- A step of thread `i` to another ghost leaves the invariant, if the lock and the flag
are seen to. -/
theorem Owing.set {w : UpdateWorld} (h : Owing w) {i : Nat}
    {t t' : Thread FbOp FbOp.Res Unit UpdatePhase} (hi : w.threads[i]? = some t)
    {s : RefreshState} (hmine : t'.ghost ≠ .outside → s.fb.pa.operationLock = true)
    (hothers : ∀ j, j ≠ i → Holds w j → t'.ghost = .outside ∧ s.fb.pa.operationLock = true)
    (howed : s.owed = true → s.fb.pa.unsyncFlag = 1 ∨ t'.ghost = .tested true ∨
      ∃ j, j ≠ i ∧ HasTaken w j) :
    Owing ⟨s, w.threads.set i t'⟩ := by
  have hlt : i < w.threads.length := (List.getElem?_eq_some_iff.mp hi).1
  have hself : (w.threads.set i t')[i]? = some t' := List.getElem?_set_self hlt
  have hother : ∀ j, j ≠ i → (w.threads.set i t')[j]? = w.threads[j]? := fun j hj =>
    List.getElem?_set_ne (Ne.symm hj)
  have hholds : ∀ j, Holds ⟨s, w.threads.set i t'⟩ j →
      (j = i ∧ t'.ghost ≠ .outside) ∨ (j ≠ i ∧ Holds w j) := by
    intro j hparts
    obtain ⟨u, hj, hghost⟩ := hparts
    by_cases hji : j = i
    · subst hji
      obtain rfl := Option.some.inj (hself.symm.trans hj)
      exact Or.inl ⟨rfl, hghost⟩
    · exact Or.inr ⟨hji, u, (hother j hji).symm.trans hj, hghost⟩
  constructor
  · intro j hj
    rcases hholds j hj with ⟨_, hghost⟩ | ⟨hji, hj⟩
    · exact hmine hghost
    · exact (hothers j hji hj).2
  · intro j k hj hk
    rcases hholds j hj with ⟨rfl, hghost⟩ | ⟨hji, hold⟩
    · rcases hholds k hk with ⟨rfl, _⟩ | ⟨hki, hold'⟩
      · rfl
      · exact absurd (hothers k hki hold').1 hghost
    · rcases hholds k hk with ⟨rfl, hghost⟩ | ⟨_, hold'⟩
      · exact absurd (hothers j hji hold).1 hghost
      · exact h.single j k hold hold'
  · intro hs
    rcases howed hs with hflag | htaken | ⟨j, hji, u, hj, htaken⟩
    · exact Or.inl hflag
    · exact Or.inr ⟨i, t', hself, htaken⟩
    · exact Or.inr ⟨j, u, (hother j hji).trans hj, htaken⟩

/-- A thread inside the lock is alone there. -/
theorem Owing.alone {w : UpdateWorld} (h : Owing w) {i : Nat} {p : FbProg Unit} {ph : UpdatePhase}
    (hi : w.threads[i]? = some ⟨p, ph⟩) (hinside : ph ≠ .outside) (j : Nat) (hji : j ≠ i) :
    ¬ Holds w j := fun hj => hji (h.single j i hj ⟨_, hi, hinside⟩)

/-- What touches neither the lock nor the flag leaves the invariant. -/
theorem Owing.quiet {w : UpdateWorld} (h : Owing w) {i : Nat} {p p' : FbProg Unit}
    {ph : UpdatePhase} (hi : w.threads[i]? = some ⟨p, ph⟩) {s : RefreshState}
    (hlock : s.fb.pa.operationLock = w.shared.fb.pa.operationLock)
    (hflag : s.fb.pa.unsyncFlag = w.shared.fb.pa.unsyncFlag) (howed : s.owed = w.shared.owed) :
    Owing ⟨s, w.threads.set i ⟨p', ph⟩⟩ := by
  refine h.set hi ?_ ?_ ?_
  · intro hghost
    rw [hlock]
    exact h.locked i ⟨_, hi, hghost⟩
  · intro j hji hj
    refine ⟨?_, by rw [hlock]; exact h.locked j hj⟩
    by_contra hghost
    exact h.alone hi hghost j hji hj
  · intro hs
    rw [howed] at hs
    rw [hflag]
    rcases h.owed hs with hone | ⟨j, htaken⟩
    · exact Or.inl hone
    · by_cases hji : j = i
      · subst hji
        obtain ⟨t, hj, hghost⟩ := htaken
        obtain rfl := Option.some.inj (hi.symm.trans hj)
        exact Or.inr (Or.inl hghost)
      · exact Or.inr (Or.inr ⟨j, hji, htaken⟩)

/-- With the flag set nothing else matters for what is owed. -/
theorem Owing.flagged {w : UpdateWorld} (h : Owing w) {i : Nat} {p p' : FbProg Unit}
    {ph ph' : UpdatePhase} (hi : w.threads[i]? = some ⟨p, ph⟩) {s : RefreshState}
    (hlock : s.fb.pa.operationLock = w.shared.fb.pa.operationLock)
    (hph : ph' ≠ .outside ↔ ph ≠ .outside) (hflag : s.owed = true → s.fb.pa.unsyncFlag = 1) :
    Owing ⟨s, w.threads.set i ⟨p', ph'⟩⟩ := by
  refine h.set hi ?_ ?_ fun hs => Or.inl (hflag hs)
  · intro hghost
    rw [hlock]
    exact h.locked i ⟨_, hi, hph.mp hghost⟩
  · intro j hji hj
    refine ⟨?_, by rw [hlock]; exact h.locked j hj⟩
    by_contra hghost
    exact h.alone hi (hph.mp hghost) j hji hj

/-! ## Runs -/

section Runs

variable {a : Arch} {d : Nat} {palette : UInt32 → Pixel}

/-- The image commands; the others the device carries out by itself. -/
def Send.IsImage (c : Send) : Prop := ∃ r clearDirty, c = .image r clearDirty

/-- How a send has to come out for the flag not to be lost.  The update that has taken
it sends an image that succeeds, or fails in a way that sets the flag again.  An update
that has not does not succeed while the flag is set. -/
def FlagHeeded (w : UpdateWorld) : UpdateEvent a → Prop
  | .run i result => ∀ dev c k clearDirty,
      w.threads[i]? = some ⟨.op (.send dev c) k, .tested clearDirty⟩ →
        if clearDirty then (c.IsImage ∧ result = .sent) ∨ result = .failed true
        else result = .sent → w.shared.fb.pa.unsyncFlag ≠ 1
  | .call _ => True

/-- What is promised of a send: only an image of the whole screen acknowledges; and if
one succeeds while a refresh is owed, it is such an image. -/
def SendsKept (allowed : UpdateWorld → UpdateEvent a → Prop) (w : UpdateWorld) : Prop :=
  ∀ (i dev : Nat) (c : Send) (k : Bool → FbProg Unit) (ph : UpdatePhase),
    w.threads[i]? = some ⟨.op (.send dev c) k, ph⟩ →
      (∀ dev framebuffer, c.Acknowledges dev framebuffer → c = .image .full true) ∧
        (allowed w (.run i .sent) → w.shared.owed = true → c = .image .full true)

/-- The ghost state of a thread that is about to send. -/
theorem Updating.send_phase {b : Option Nat} {screen : Prop} {w : UpdateWorld}
    (h : Updating b screen w) {i dev : Nat} {c : Send} {k : Bool → FbProg Unit} {ph : UpdatePhase}
    (hi : w.threads[i]? = some ⟨.op (.send dev c) k, ph⟩) :
    ∃ clearDirty, ph = .tested clearDirty ∧
      ∀ r taken, c = .image r taken → taken = clearDirty ∧ (taken = true → r = .full) := by
  have hpre := h.fine.pre hi
  cases c with
  | image r taken =>
      obtain ⟨hph, _, hfull⟩ := hpre
      refine ⟨taken, hph, ?_⟩
      intro _ _ heq
      obtain ⟨rfl, rfl⟩ := Send.image.inj heq
      exact ⟨rfl, hfull⟩
  | accelerated a =>
      obtain ⟨clearDirty, hph⟩ := hpre
      exact ⟨clearDirty, hph, nofun⟩

/-- A refresh that is owed while nobody has taken the flag. -/
theorem Owing.flag {w : UpdateWorld} (h : Owing w) (howed : w.shared.owed = true)
    (hnone : ∀ i, ¬ HasTaken w i) : w.shared.fb.pa.unsyncFlag = 1 := by
  rcases h.owed howed with hflag | ⟨i, htaken⟩
  · exact hflag
  · exact absurd htaken (hnone i)

/-- **One operation.**  A thread that heeds the flag keeps the invariant. -/
theorem Owing.run {w : UpdateWorld} (h : Owing w) {b : Option Nat} {screen : Prop}
    (hupdating : Updating b screen w) {i : Nat} {o : FbOp} {k : o.Res → FbProg Unit}
    {ph : UpdatePhase} {r : o.Res} {s : RefreshState} {result : SendResult}
    (hi : w.threads[i]? = some ⟨.op o k, ph⟩)
    (hheeded : FlagHeeded w (.run i result : UpdateEvent a))
    (hexec : w.shared.exec palette o result = some (r, s)) :
    Owing ⟨s, w.threads.set i ⟨k r, ph.next o r⟩⟩ := by
  have hpre := hupdating.fine.pre hi
  -- Nobody has taken the flag unless it is thread `i`, once that is inside the lock.
  have hmine : ph ≠ .outside → ph ≠ .tested true → ∀ j, ¬ HasTaken w j := by
    intro hinside htaken j hj
    by_cases hji : j = i
    · subst hji
      obtain ⟨t, hj, hghost⟩ := hj
      obtain rfl := Option.some.inj (hi.symm.trans hj)
      exact htaken hghost
    · exact h.alone hi hinside j hji hj.holds
  cases o with
  | lockOperation =>
      simp only [RefreshState.exec, FbState.exec] at hexec
      split at hexec
      · cases hexec
      · rename_i hfree
        have hnobody : ∀ j, ¬ Holds w j := fun j hj => hfree (h.locked j hj)
        obtain ⟨rfl, rfl⟩ := Prod.mk.inj (Option.some.inj hexec)
        exact h.set hi (fun _ => rfl) (fun j _ hj => absurd hj (hnobody j))
          fun hs => Or.inl (h.flag hs fun j hj => hnobody j hj.holds)
  | unlockOperation =>
      obtain ⟨hinside, htaken⟩ := hpre
      obtain ⟨rfl, rfl⟩ := Prod.mk.inj (Option.some.inj hexec)
      exact h.set hi (fun hghost => absurd rfl hghost)
        (fun j hji hj => absurd hj (h.alone hi hinside j hji))
        fun hs => Or.inl (h.flag hs (hmine hinside htaken))
  | unsyncDecAndTest =>
      obtain rfl : ph = .locked := hpre
      obtain ⟨rfl, rfl⟩ := Prod.mk.inj (Option.some.inj hexec)
      refine h.set hi (fun _ => h.locked i ⟨_, hi, by simp⟩)
        (fun j hji hj => absurd hj (h.alone hi (by simp) j hji)) ?_
      intro hs
      have hone := h.flag hs (hmine (by simp) (by simp))
      refine Or.inr (Or.inl ?_)
      simp [UpdatePhase.next, hone]
  | send dev c =>
      obtain ⟨clearDirty, rfl, _⟩ := hupdating.send_phase hi
      have hheeded := hheeded dev c k clearDirty hi
      cases result with
      | sent =>
          obtain ⟨rfl, rfl⟩ := Prod.mk.inj (Option.some.inj hexec)
          exact h.flagged hi rfl (by simp [UpdatePhase.next]) (by simp)
      | failed unsynced =>
          obtain ⟨rfl, rfl⟩ := Prod.mk.inj (Option.some.inj hexec)
          refine h.flagged hi (by cases unsynced <;> rfl) (by simp [UpdatePhase.next]) ?_
          cases unsynced with
          | true => exact fun _ => rfl
          | false =>
              intro hs
              cases clearDirty with
              | true =>
                  rcases hheeded with ⟨_, hsent⟩ | hfailed
                  · cases hsent
                  · cases hfailed
              | false => exact h.flag hs (hmine (by simp) (by simp))
  | setUnsync =>
      obtain ⟨rfl, rfl⟩ := Prod.mk.inj (Option.some.inj hexec)
      exact h.flagged hi rfl Iff.rfl fun _ => rfl
  | _ =>
      obtain ⟨rfl, rfl⟩ := Prod.mk.inj (Option.some.inj hexec)
      exact h.quiet hi rfl rfl rfl

/-- A new thread holds nothing. -/
theorem Owing.spawn {w : UpdateWorld} (h : Owing w) (p : FbProg Unit) :
    Owing (w.spawn w.shared p .outside) := by
  have hold : ∀ (i : Nat) (t : Thread FbOp FbOp.Res Unit UpdatePhase), t.ghost ≠ .outside →
      ((w.threads ++ [⟨p, .outside⟩])[i]? = some t ↔ w.threads[i]? = some t) := by
    intro i t hghost
    rcases Nat.lt_trichotomy i w.threads.length with hlt | rfl | hgt
    · rw [List.getElem?_append_left hlt]
    · rw [List.getElem?_concat_length, List.getElem?_eq_none (Nat.le_refl _)]
      refine iff_of_false ?_ (by simp)
      intro heq
      exact hghost (by rw [← Option.some.inj heq])
    · rw [List.getElem?_eq_none (by simp; omega), List.getElem?_eq_none (Nat.le_of_lt hgt)]
  have hholds : ∀ i, Holds (w.spawn w.shared p .outside) i → Holds w i := by
    intro i hparts
    obtain ⟨t, hi, hghost⟩ := hparts
    exact ⟨t, (hold i t hghost).mp hi, hghost⟩
  refine ⟨fun i hi => h.locked i (hholds i hi), fun i j hi hj => h.single i j (hholds i hi) (hholds j hj),
    fun hs => ?_⟩
  rcases h.owed hs with hflag | ⟨i, t, hi, htaken⟩
  · exact Or.inl hflag
  · exact Or.inr ⟨i, t, (hold i t (by simp [htaken])).mpr hi, htaken⟩

/-- **Step.**  An event that heeds the flag keeps the invariant. -/
theorem Owing.next {w w' : UpdateWorld} {e : UpdateEvent a} (h : Owing w) {b : Option Nat}
    {screen : Prop} (hupdating : Updating b screen w) (hheeded : FlagHeeded w e)
    (hnext : nextUpdate palette w e = some w') : Owing w' := by
  cases e with
  | call source =>
      obtain rfl := Option.some.inj hnext
      exact h.spawn _
  | run i result =>
      obtain ⟨o, k, ph, r, s, hi, hexec, rfl⟩ := World.step_some hnext
      exact h.run hupdating hi hheeded hexec

/-- **The acknowledged screen.**  In any run a command that carries CLEARDIRTY is an
image of the whole screen. -/
theorem acknowledges_full {b : Option Nat} {screen : Prop} {w : UpdateWorld}
    (h : Updating b screen w) {i dev : Nat} {c : Send} {k : Bool → FbProg Unit} {ph : UpdatePhase}
    (hi : w.threads[i]? = some ⟨.op (.send dev c) k, ph⟩) {dev' : Dev} {framebuffer : Int → Pixel}
    (hacknowledges : c.Acknowledges dev' framebuffer) : c = .image .full true := by
  obtain ⟨r, rfl⟩ := (acknowledges_iff dev' framebuffer c).mp hacknowledges
  obtain ⟨_, _, himage⟩ := h.send_phase hi
  rw [(himage r true rfl).2 rfl]

/-- **When a refresh is acknowledged.**  In every run whose sends heed the flag, only an
image of the whole screen carries CLEARDIRTY, and the first send that succeeds after
`unsync_flag` was set is one. -/
theorem refresh_acknowledged {b : Option Nat} {fb : FbState} (hrest : AtRest b fb)
    {w : UpdateWorld} (run : Runs.Run (nextUpdate palette)
      (FlagHeeded : UpdateWorld → UpdateEvent a → Prop) (restingWorld fb) w) :
    SendsKept (FlagHeeded : UpdateWorld → UpdateEvent a → Prop) w := by
  obtain ⟨hupdating, howing⟩ : Updating b False w ∧ Owing w := by
    refine run.invariant (I := fun w => Updating b False w ∧ Owing w)
      ⟨restingWorld_updating hrest False.elim, ?_⟩ ?_
    · constructor
      · intro i hparts
        obtain ⟨t, hi, _⟩ := hparts
        cases hi
      · intro i _ hparts
        obtain ⟨t, hi, _⟩ := hparts
        cases hi
      · exact nofun
    · intro w w' e h hheeded hnext
      exact ⟨h.1.next False.elim hnext, h.2.next h.1 hheeded hnext⟩
  intro i dev c k ph hi
  refine ⟨fun dev framebuffer h => acknowledges_full hupdating hi h, ?_⟩
  intro hheeded howed
  obtain ⟨clearDirty, rfl, himage⟩ := hupdating.send_phase hi
  have hsent := hheeded dev c k clearDirty hi
  cases clearDirty with
  | true =>
      rcases hsent with ⟨⟨r, taken, rfl⟩, _⟩ | hfailed
      · obtain ⟨rfl, hfull⟩ := himage r taken rfl
        rw [hfull rfl]
      · cases hfailed
  | false =>
      -- Nobody else can have taken the flag, so it is still set.
      refine absurd (howing.flag howed ?_) (hsent rfl)
      intro j hj
      by_cases hji : j = i
      · subst hji
        obtain ⟨t, hj, hghost⟩ := hj
        obtain rfl := Option.some.inj (hi.symm.trans hj)
        cases hghost
      · exact howing.alone hi nofun j hji hj.holds

/-- Thread `i` is not about to send. -/
def notSending (w : UpdateWorld) : UpdateEvent a → Bool
  | .run i _ =>
      match w.threads[i]? with
      | some ⟨.op (.send _ _) _, _⟩ => false
      | _ => true
  | .call _ => true

/-- Only a send can fail to heed the flag. -/
theorem flagHeeded_of_notSending (w : UpdateWorld) (e : UpdateEvent a) (h : notSending w e = true) :
    FlagHeeded w e := by
  cases e with
  | call source => trivial
  | run i result =>
      intro dev c k clearDirty hi
      rw [notSending, hi] at h
      cases h

/-- The flag is set, and a write is about to be sent. -/
def setAndWrite : List (UpdateEvent amd64) :=
  [.call (.setUnsync 0), .run 0 .sent, .run 0 .sent, .call (.callback (.write fun _ => 3)),
    .run 1 .sent, .run 1 .sent, .run 1 .sent, .run 1 .sent, .run 1 .sent, .run 1 .sent,
    .run 1 .sent, .run 1 .sent]

theorem refresh_acknowledged_write : ∃ (w : UpdateWorld) (k : Bool → FbProg Unit),
    Runs.after (nextUpdate fun c => c.toUInt16) (restingWorld inStep) setAndWrite = some w ∧
      w.threads[1]? = some ⟨.op (.send 0 (.image .full true)) k, .tested true⟩ ∧
      w.shared.owed = true ∧
      SendsKept (FlagHeeded : UpdateWorld → UpdateEvent amd64 → Prop) w := by
  have hrun : Runs.Run (nextUpdate fun c => c.toUInt16)
      (FlagHeeded : UpdateWorld → UpdateEvent amd64 → Prop) (restingWorld inStep) _ :=
    Runs.Run.start.after setAndWrite
      (Runs.allowedThrough_of_checks flagHeeded_of_notSending rfl) rfl
  exact ⟨_, _, rfl, rfl, rfl, refresh_acknowledged inStep_atRest hrun⟩

/-- **A refresh nobody acknowledges.**  The update that has taken the flag finds no
tickets; the next one sends the whole screen, without CLEARDIRTY. -/
theorem refresh_unacknowledged :
    ¬ ∀ w : UpdateWorld, Runs.Run (nextUpdate fun c => c.toUInt16)
        (fun _ (_ : UpdateEvent amd64) => True) (restingWorld inStep) w →
      SendsKept (fun _ (_ : UpdateEvent amd64) => True) w := by
  intro h
  have hrun : Runs.Run (nextUpdate fun c => c.toUInt16) (fun _ (_ : UpdateEvent amd64) => True)
      (restingWorld inStep) _ :=
    @Runs.Run.of_after _ _ _ _ _ (setAndWrite ++ [.run 1 (.failed false), .run 1 .sent,
      .call (.callback (.write fun _ => 3)), .run 2 .sent, .run 2 .sent, .run 2 .sent,
      .run 2 .sent, .run 2 .sent, .run 2 .sent, .run 2 .sent, .run 2 .sent]) rfl
  have hkept := (h _ hrun 2 0 (.image .full false) _ _ rfl).2 trivial rfl
  cases hkept

end Runs

end RpUsbDisp
