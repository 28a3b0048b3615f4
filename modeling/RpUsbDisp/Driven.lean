import RpUsbDisp.Binding

/-!
# A display that drives

There is one framebuffer, and a display is bound to it when it comes, if no other is.
A display that comes later stays unbound, also when the bound one goes: nothing hands
the framebuffer on (`attached_undriven`).

So the framebuffer is bound exactly while a display is attached, as long as no bound
display is unbound in the presence of another one (`driven_while_attached`).
-/

namespace RpUsbDisp.Hotplug

open Programs

/-! ## What a probing has found -/

/-- A probing that is over has found the framebuffer bound, or has bound it. -/
def bindProtocol : Protocol HostOp HostOp.Res Bool where
  pre found
    | .dev _ (.probed retval) => retval = 0 → found = true
    | _ => True
  answer _ _ _ := True
  track found
    | .fb .bindedUsbdev, binded => found || binded.isSome
    | .setBindedUsbdev binded, _ => found || binded.isSome
    | _, _ => found

section Programs

variable {d : Nat} {F : Fault → Prop}

/-- A display operation and what follows it. -/
theorem binds_ask {α : Type} {o : DisplayOp} {f : o.Res → HostProg α} {Q : α → Bool → Prop}
    {found : Bool} (hprobed : ∀ retval, o ≠ .probed retval) (h : ∀ r, (f r).wp bindProtocol F Q found) :
    (Prog.ask (HostOp.dev d o) >>= f).wp bindProtocol F Q found := by
  refine ⟨?_, fun r _ => h r⟩
  cases o with
  | probed retval => exact absurd rfl (hprobed retval)
  | _ => trivial

/-- `fbhandler_set_unsync_flag` binds nothing. -/
theorem setUnsync_binds {found : Bool} :
    (framebufferPart (fbhandlerSetUnsync d)).wp bindProtocol F (fun _ found' => found' = found) found := by
  refine ⟨trivial, fun handle _ => ?_⟩
  cases handle with
  | false => exact rfl
  | true => exact ⟨trivial, fun _ _ => rfl⟩

/-- `_status_start_querying` binds nothing. -/
theorem statusStartQuerying_binds {found : Bool} :
    (statusStartQuerying d).wp bindProtocol F (fun _ found' => found' = found) found := by
  have hcount : (do
      let failCount ← (Prog.ask (HostOp.dev d .statusFailCount) : HostProg Nat)
      Prog.ask (HostOp.dev d (.setStatusFailCount (failCount + 1))) : HostProg Unit).wp
      bindProtocol F (fun _ found' => found' = found) found :=
    binds_ask nofun fun _ => ⟨trivial, fun _ _ => rfl⟩
  unfold statusStartQuerying
  refine binds_ask nofun fun alive => ?_
  split
  · refine binds_ask nofun fun failCount => ?_
    split
    · exact rfl
    · refine binds_ask nofun fun granted => ?_
      split
      · refine binds_ask nofun fun status => ?_
        split
        · split
          · exact binds_ask nofun fun _ => hcount
          · exact hcount
        · exact rfl
      · exact rfl
  · exact rfl

/-- **`fbhandler_on_new_device`** leaves the framebuffer bound. -/
theorem fbhandlerOnNewDevice_binds :
    (fbhandlerOnNewDevice d).wp bindProtocol F (fun _ found => found = true) false := by
  refine ⟨trivial, fun _ _ => ⟨trivial, fun binded _ => ?_⟩⟩
  cases binded with
  | some other => exact ⟨trivial, fun _ _ => rfl⟩
  | none =>
      exact ⟨trivial, fun _ _ => ⟨trivial, fun _ _ => ⟨trivial, fun _ _ => ⟨trivial, fun _ _ =>
        ⟨trivial, fun _ _ => rfl⟩⟩⟩⟩⟩

/-- `_on_new_usb_device` leaves it bound, if it succeeds. -/
theorem onNewUsbDevice_binds :
    (onNewUsbDevice d).wp bindProtocol F (fun retval found => retval = 0 → found = true) false := by
  have hrefused : -ENOMEM ≠ 0 := by decide
  unfold onNewUsbDevice
  refine binds_ask nofun fun granted => ?_
  cases granted with
  | false => exact fun h => absurd h hrefused
  | true =>
      refine binds_ask nofun fun allocated => ?_
      cases allocated with
      | false => exact binds_ask nofun fun _ => fun h => absurd h hrefused
      | true =>
          refine binds_ask (o := .aside .addUsbdevToList) nofun fun _ => binds_ask nofun fun _ => ?_
          rw [wp_bind]
          apply wp_mono statusStartQuerying_binds (fun _ he => he)
          intro _ _ heq
          obtain rfl := heq
          rw [wp_bind]
          apply wp_mono fbhandlerOnNewDevice_binds (fun _ he => he)
          intro _ _ heq
          obtain rfl := heq
          refine binds_ask nofun fun _ => ?_
          rw [wp_bind]
          apply wp_mono setUnsync_binds (fun _ he => he)
          intro _ _ heq
          obtain rfl := heq
          exact binds_ask nofun fun _ => fun _ => rfl

/-- **A probing** that succeeds leaves the framebuffer bound. -/
theorem probe_binds : (usbProbe d).wp bindProtocol F (fun _ _ => True) false := by
  have hprobed : ∀ (found : Bool) (retval : Int), (retval = 0 → found = true) →
      (Prog.ask (HostOp.dev d (.probed retval)) : HostProg Unit).wp bindProtocol F
        (fun _ _ => True) found := fun _ _ hfound => ⟨hfound, fun _ _ => trivial⟩
  have hrefused : -ENOMEM = 0 → false = true := by decide
  have hfailed : ∀ found, (Prog.ask (HostOp.dev d .kfree) >>= fun _ =>
      Prog.ask (HostOp.dev d (.probed (-ENOMEM))) : HostProg Unit).wp bindProtocol F
        (fun _ _ => True) found :=
    fun found => binds_ask nofun fun _ => hprobed found _ fun h => absurd h (by decide)
  unfold usbProbe rpusbdispProbe
  refine binds_ask (o := .request .kzalloc) nofun fun granted => ?_
  cases granted with
  | false => exact hprobed false _ hrefused
  | true =>
      refine binds_ask (o := .request .endpoints) nofun fun endpoints => ?_
      cases endpoints with
      | false => exact hfailed false
      | true =>
          have hassoc : ((onNewUsbDevice d >>= fun retval =>
              if retval ≠ 0 then do
                Prog.ask (HostOp.dev d .kfree)
                return -ENOMEM
              else return 0 : HostProg Int) >>= fun retval =>
                Prog.ask (HostOp.dev d (.probed retval)) : HostProg Unit).wp bindProtocol F
              (fun _ _ => True) false := by
            rw [Prog.bind_assoc, wp_bind]
            apply wp_mono onNewUsbDevice_binds (fun _ he => he)
            intro retval found hfound
            by_cases hzero : retval = 0
            · rw [if_neg (fun hne => hne hzero)]
              exact hprobed found 0 fun _ => hfound hzero
            · rw [if_pos hzero]
              exact hfailed found
          exact hassoc

end Programs

/-! ## Which displays are there -/

/-- No probing and no removal is in progress. -/
def Settled (w : HostWorld) : Prop :=
  ∀ d, (w.shared.dev d).core ≠ .probing ∧ (w.shared.dev d).core ≠ .leaving

/-- The display is attached, or about to be. -/
def Present (s : HostState) (d : Nat) : Prop :=
  (s.dev d).core = .attached ∨ (s.dev d).core = .probing

/-- No display is unbound while another one is attached or being probed. -/
def Unrivalled {a : Arch} (w : HostWorld) : HostEvent a → Prop
  | .run i _ => ∀ t, w.threads[i]? = some t → t.asks = some (.setBindedUsbdev none) →
      ∀ d, ¬ Present w.shared d
  | _ => True

/-- The thread probes display `d`. -/
def Probing (d : Nat) (s : HostState) (g : Ghost) : Prop :=
  g.role.token = some (d, .life) ∧ (s.dev d).core = .probing

/-- Probings keep to the protocol of binding, and `J` holds of what they have found. -/
def Probed (J : HostState → Prop) (w : HostWorld) : Prop :=
  ∀ d, w.Keeps bindProtocol (fun _ => True) (fun _ _ => True) (Probing d)
    fun s found => found = true → J s

/-- The framebuffer is bound. -/
def BoundState (s : HostState) : Prop := s.fb.pa.bindedUsbdev ≠ none

section Operations

variable {info : Nat → Dev} {palette : UInt32 → Pixel} {s s' : HostState} {c : HostChoice} {g : Ghost}

/-- Only the end of its probing attaches a display. -/
theorem exec_attached {o : HostOp} {r : o.Res} (h : s.exec info palette o c = some (r, s')) {d : Nat}
    (hattached : (s'.dev d).core = .attached) :
    (s.dev d).core = .attached ∨ o = .dev d (.probed 0) := by
  revert hattached
  refine exec_display (R := fun x x' => x'.core = .attached → x.core = .attached ∨ o = .dev d (.probed 0))
    (fun _ hx => Or.inl hx) h d ?_
  intro o' r' x' heq hexec hattached
  obtain rfl := heq
  cases hback : o'.HandsBack with
  | false => exact Or.inl ((display_core hexec hback).symm.trans hattached)
  | true =>
      cases o' with
      | probed retval =>
          cases hexec
          by_cases hretval : retval = 0
          · exact Or.inr (by rw [hretval])
          · exact absurd ((if_neg hretval).symm.trans hattached) nofun
      | disconnected =>
          cases hexec
          cases hattached
      | workDone =>
          cases hexec
          exact Or.inl hattached
      | statusHandled =>
          cases hexec
          exact Or.inl hattached
      | _ => cases hback

end Operations

section Worlds

/-! ## The invariants are kept -/

variable {info : Nat → Dev} {palette : UInt32 → Pixel} {w w' : HostWorld} {a : Arch} {J : HostState → Prop}

/-- A probing is of a display that was being probed. -/
theorem Probing.before (h : Hosted info w) {d : Nat} {s : HostState} {g : Ghost}
    (hprobing : Probing d s g) (hcore : (s.dev d).core = .probing →
      (w.shared.dev d).core = .probing ∨ (w.shared.dev d).core = .unknown)
    {t : Thread HostOp HostOp.Res Unit Ghost} (ht : t ∈ w.threads) (hg : t.ghost = g) :
    Probing d w.shared g := by
  obtain ⟨htoken, hnow⟩ := hprobing
  rcases hcore hnow with hbefore | hunknown
  · exact ⟨htoken, hbefore⟩
  · subst hg
    obtain ⟨ph, hrole⟩ := Role.token_life.mp htoken
    rcases ((h.knows t ht).life d ph hrole).core with hlife | hlife
    · exact absurd (hunknown.symm.trans hlife) nofun
    · exact absurd (hunknown.symm.trans hlife) nofun

/-- No operation starts a probing. -/
theorem exec_probing {s s' : HostState} {o : HostOp} {r : o.Res} {c : HostChoice} {d : Nat}
    (h : s.exec info palette o c = some (r, s')) (hprobing : (s'.dev d).core = .probing) :
    (s.dev d).core = .probing := by
  rcases exec_core h d with hsame | hother | hother
  · exact hsame.symm.trans hprobing
  · exact absurd (hprobing.symm.trans hother) nofun
  · exact absurd (hprobing.symm.trans hother) nofun

/-- **Operations**, for what probings have found. -/
theorem Probed.run (h : Hosted info w) (hprobed : Probed J w) {i : Nat} {o : HostOp}
    {k : o.Res → HostProg Unit} {g : Ghost} {r : o.Res} {s : HostState} {c : HostChoice}
    (hi : w.threads[i]? = some ⟨.op o k, g⟩) (hexec : w.shared.exec info palette o c = some (r, s))
    (hkeep : (∃ d, (s.dev d).core = .probing) → J w.shared → J s)
    (hfind : bindProtocol.track false o r = true → J s) :
    Probed J ⟨s, w.threads.set i ⟨k r, g.next o r⟩⟩ := by
  have hmay : g.May info o := (h.fine.pre hi).2
  have htrack : ∀ found, bindProtocol.track found o r = true →
      found = true ∨ bindProtocol.track false o r = true := by
    intro found hfound
    cases found with
    | true => exact Or.inl rfl
    | false => exact Or.inr hfound
  intro d
  refine (hprobed d).set hi ?_ ?_
  · intro hprobing
    refine ⟨⟨Role.token_of_next hmay hprobing.1, exec_probing hexec hprobing.2⟩, ?_⟩
    intro found _ hfound
    refine ⟨trivial, fun hfound' => ?_⟩
    rcases htrack found hfound' with hbefore | hnew
    · exact hkeep ⟨d, hprobing.2⟩ (hfound hbefore)
    · exact hfind hnew
  · intro j u _ _ hprobing
    refine ⟨⟨hprobing.1, exec_probing hexec hprobing.2⟩, fun found hfound hfound' => ?_⟩
    exact hkeep ⟨d, hprobing.2⟩ (hfound hfound')

/-- **A new thread**, for what probings have found. -/
theorem Probed.spawn (h : Hosted info w) (hprobed : Probed J w)
    (hJ : ∀ s d x, J s → J (HostState.setDev s d x)) {e : Nat} {x : DisplayState} {p : HostProg Unit}
    {g : Ghost} (hcore : x.core = .probing →
      (w.shared.dev e).core = .probing ∨ (w.shared.dev e).core = .unknown)
    (hnew : ∀ d, Probing d (w.shared.setDev e x) g →
      p.wp bindProtocol (fun _ => True) (fun _ _ => True) false) :
    Probed J (w.spawn (w.shared.setDev e x) p g) := by
  intro d
  apply (hprobed d).spawn
  · exact fun habout => ⟨false, hnew d habout, nofun⟩
  · intro u hu habout
    have hbefore : ((w.shared.setDev e x).dev d).core = .probing →
        (w.shared.dev d).core = .probing ∨ (w.shared.dev d).core = .unknown := by
      intro hnow
      by_cases he : d = e
      · subst he
        rw [HostState.setDev_same] at hnow
        exact hcore hnow
      · rw [w.shared.setDev_other x he] at hnow
        exact Or.inl hnow
    exact ⟨habout.before h hbefore hu rfl, fun found hfound hfound' => hJ _ _ _ (hfound hfound')⟩

/-- **Step**, for what probings have found; operations are left open. -/
theorem Probed.next (h : Hosted info w) (hprobed : Probed J w)
    (hJ : ∀ s d x, J s → J (HostState.setDev s d x)) {e : HostEvent a}
    (hrun : ∀ i c, e = .run i c → Probed J w')
    (hnext : nextHost info palette w e = some w') : Probed J w' := by
  rcases nextHost_some hnext with ⟨i, c, rfl⟩ | ⟨e, x, p, g, hstarts, rfl⟩
  · exact hrun i c rfl
  · have hcore : x.core = .probing →
        (w.shared.dev e).core = .probing ∨ (w.shared.dev e).core = .unknown := by
      intro hnow
      rcases hstarts.core with hsame | ⟨hunknown, _⟩ | ⟨_, hleaving⟩
      · exact Or.inl (hsame.symm.trans hnow)
      · exact Or.inr hunknown
      · cases hleaving.symm.trans hnow
    refine hprobed.spawn h hJ hcore fun d habout => ?_
    obtain ⟨htoken, hprobing⟩ := habout
    cases hstarts with
    | probe => exact probe_binds
    | disconnect =>
        cases htoken
        rw [HostState.setDev_same] at hprobing
        cases hprobing
    | _ => cases htoken

/-! ## What is bound is attached -/

/-- A display that is gone has no handle. -/
def Released (w : HostWorld) : Prop :=
  ∀ d, (w.shared.dev d).core = .gone → w.shared.fb.fbHandle d = false

theorem Released.run (h : Hosted info w) (hreleased : Released w) {i : Nat} {c : HostChoice}
    (hnext : w.step (HostState.exec info palette) Ghost.next i c = some w') : Released w' := by
  obtain ⟨o, k, g, r, s, hi, hexec, rfl⟩ := World.step_some hnext
  have hmay : g.May info o := (h.fine.pre hi).2
  have hmem := List.mem_of_getElem? hi
  intro d hgone
  by_cases hlife : g.role.token = some (d, .life)
  · obtain ⟨ph, hrole⟩ := Role.token_life.mp hlife
    have hbusy := ((h.knows _ hmem).life d ph hrole).core
    have hends : (s.dev d).core = .gone → (w.shared.dev d).core = .gone ∨
        (∃ retval, o = .dev d (.probed retval) ∧ retval ≠ 0) ∨ o = .dev d .disconnected := by
      refine exec_display (R := fun x x' => x'.core = .gone → x.core = .gone ∨
        (∃ retval, o = .dev d (.probed retval) ∧ retval ≠ 0) ∨ o = .dev d .disconnected)
        (fun _ hx => Or.inl hx) hexec d ?_
      intro o' r' x' heq hdone hx
      obtain rfl := heq
      cases hback : o'.HandsBack with
      | false => exact Or.inl ((display_core hdone hback).symm.trans hx)
      | true =>
          cases o' with
          | probed retval =>
              refine Or.inr (Or.inl ⟨retval, rfl, ?_⟩)
              intro heq
              obtain rfl := heq
              cases hdone
              cases hx
          | disconnected => exact Or.inr (Or.inr rfl)
          | workDone =>
              cases hdone
              exact Or.inl hx
          | statusHandled =>
              cases hdone
              exact Or.inl hx
          | _ => cases hback
    rcases hends hgone with hbefore | ⟨retval, rfl, hretval⟩ | rfl
    · rcases hbusy with hcore | hcore
      · exact absurd (hbefore.symm.trans hcore) nofun
      · exact absurd (hbefore.symm.trans hcore) nofun
    · obtain ⟨x', _, rfl⟩ := exec_dev hexec
      rcases hmay with ⟨_, hallocating⟩ | ⟨hzero, _⟩
      · exact ((h.knows _ hmem).life d _ hallocating).2.2.1
      · exact absurd hzero hretval
    · obtain ⟨x', _, rfl⟩ := exec_dev hexec
      obtain ⟨taken, hdraining⟩ := hmay
      have hkilled := ((h.knows _ hmem).life d _ hdraining).2.1
      exact ((h.regular d).killed hkilled).1
  · have hcore := h.core_same hi hexec hlife
    have hhandle : s.fb.fbHandle d = w.shared.fb.fbHandle d :=
      exec_handle hexec hmay fun ph hrole => hlife (Role.token_life.mpr ⟨ph, hrole⟩)
    exact hhandle.trans (hreleased d (hcore.symm.trans hgone))

theorem Released.next (h : Hosted info w) (hreleased : Released w) {e : HostEvent a}
    (hnext : nextHost info palette w e = some w') : Released w' := by
  rcases nextHost_some hnext with ⟨i, c, rfl⟩ | ⟨e, x, p, g, hstarts, rfl⟩
  · exact hreleased.run h hnext
  · intro d hgone
    exact hreleased d (hstarts.settled hgone (by simp) (by simp))

/-- **What is bound is attached**, where nothing is in progress. -/
theorem Hosted.attached_of_bound (h : Hosted info w) (hreleased : Released w) (hsettled : Settled w)
    {d : Nat} (hbound : w.shared.fb.pa.bindedUsbdev = some d) : (w.shared.dev d).core = .attached := by
  obtain ⟨hprobing, hleaving⟩ := hsettled d
  have hnot : ∀ t ∈ w.threads, ¬ t.ghost.Halfway d := by
    intro t ht hhalf
    obtain ⟨ph, hrole⟩ : ∃ ph, t.ghost.role = .life d ph :=
      hhalf.elim (fun h' => ⟨_, h'⟩) (fun h' => ⟨_, h'⟩)
    rcases ((h.knows t ht).life d ph hrole).core with hcore | hcore
    · exact hprobing hcore
    · exact hleaving hcore
  have hhandle : w.shared.fb.fbHandle d = true := (h.bound d hnot).mpr hbound
  cases hcore : (w.shared.dev d).core with
  | unknown => exact absurd (hhandle.symm.trans ((h.regular d).unknown hcore).1) nofun
  | probing => exact absurd hcore hprobing
  | attached => rfl
  | leaving => exact absurd hcore hleaving
  | gone => exact absurd (hhandle.symm.trans (hreleased d hcore)) nofun

/-! ## What is attached finds the framebuffer bound -/

/-- The framebuffer is bound where a display is attached, or a probing has found it
so. -/
structure Driving (w : HostWorld) : Prop where
  attached : ∀ d, (w.shared.dev d).core = .attached → BoundState w.shared
  probed : Probed BoundState w

theorem Driving.run (h : Hosted info w) (hdriving : Driving w) {i : Nat} {c : HostChoice}
    (hunrivalled : Unrivalled w (.run i c : HostEvent a))
    (hnext : w.step (HostState.exec info palette) Ghost.next i c = some w') : Driving w' := by
  obtain ⟨o, k, g, r, s, hi, hexec, rfl⟩ := World.step_some hnext
  have hmay : g.May info o := (h.fine.pre hi).2
  have hmem := List.mem_of_getElem? hi
  have hkeep : ∀ d, Present w.shared d → BoundState w.shared → BoundState s := by
    intro d hpresent hbound
    by_cases hset : ∃ binded, o = .setBindedUsbdev binded
    · obtain ⟨binded, rfl⟩ := hset
      cases hexec
      cases binded with
      | none => exact absurd hpresent (hunrivalled _ hi rfl d)
      | some e => exact Option.some_ne_none e
    · unfold BoundState
      rw [exec_binded_same hexec fun binded hb => hset ⟨binded, hb⟩]
      exact hbound
  constructor
  · intro d hattached
    rcases exec_attached hexec hattached with hbefore | rfl
    · exact hkeep d (Or.inl hbefore) (hdriving.attached d hbefore)
    · obtain ⟨ph, hrole⟩ : ∃ ph, g.role = .life d ph := by
        rcases hmay with ⟨_, hrole⟩ | ⟨_, hrole | hrole⟩
        · exact ⟨_, hrole⟩
        · exact ⟨_, hrole⟩
        · exact ⟨_, hrole⟩
      have hprobing : (w.shared.dev d).core = .probing := by
        have hknows := h.knows _ hmem
        rcases hmay with ⟨_, hrole'⟩ | ⟨_, hrole' | hrole'⟩
        · exact (hknows.life d _ hrole').1
        · exact (hknows.life d _ hrole').1
        · exact (hknows.life d _ hrole').1
      obtain ⟨found, hp, hfound⟩ :=
        hdriving.probed d _ hmem ⟨Role.token_life.mpr ⟨ph, hrole⟩, hprobing⟩
      exact hkeep d (Or.inr hprobing) (hfound (hp.1 rfl))
  · apply hdriving.probed.run h hi hexec
    · intro hparts hbound
      obtain ⟨d, hprobing⟩ := hparts
      exact hkeep d (Or.inr (exec_probing hexec hprobing)) hbound
    · intro hfound
      cases o with
      | fb o =>
          cases o with
          | bindedUsbdev =>
              cases hexec
              exact Option.isSome_iff_ne_none.mp hfound
          | _ => cases hfound
      | setBindedUsbdev binded =>
          cases hexec
          exact Option.isSome_iff_ne_none.mp hfound
      | _ => cases hfound

theorem Driving.next (h : Hosted info w) (hdriving : Driving w) {e : HostEvent a}
    (hunrivalled : Unrivalled w e) (hnext : nextHost info palette w e = some w') : Driving w' := by
  refine ⟨?_, hdriving.probed.next h (fun _ _ _ hs => hs) ?_ hnext⟩
  · rcases nextHost_some hnext with ⟨i, c, rfl⟩ | ⟨e, x, p, g, hstarts, rfl⟩
    · exact (hdriving.run h hunrivalled hnext).attached
    · intro d hattached
      exact hdriving.attached d (hstarts.settled hattached (by simp) (by simp))
  · intro i c heq
    obtain rfl := heq
    exact (hdriving.run h hunrivalled hnext).probed

/-- **Run.** -/
theorem Hosted.probed_of_run {fb : FbState} (hunbound : Unbound fb)
    (run : Runs.Run (nextHost info palette) (fun _ (_ : HostEvent a) => True) (loadedHost fb) w) :
    Hosted info w ∧ Released w ∧ Probed (fun _ => True) w := by
  refine run.invariant (I := fun w => Hosted info w ∧ Released w ∧ Probed (fun _ => True) w)
    ⟨loadedHost_hosted hunbound, nofun, fun _ _ ht => absurd ht List.not_mem_nil⟩ ?_
  intro w w' e hparts _ hnext
  obtain ⟨h, hreleased, hprobed⟩ := hparts
  refine ⟨h.next hnext, hreleased.next h hnext, hprobed.next h (fun _ _ _ _ => trivial) ?_ hnext⟩
  intro i c heq
  obtain rfl := heq
  obtain ⟨o, k, g, r, s, hi, hexec, rfl⟩ := World.step_some hnext
  exact hprobed.run h hi hexec (fun _ _ => trivial) fun _ => trivial

/-- Where the framebuffer is bound, or no display is there, probings have found what
is. -/
theorem Probed.driving (hprobed : Probed (fun _ => True) w)
    (hfresh : BoundState w.shared ∨ ∀ d, ¬ Present w.shared d) : Driving w := by
  constructor
  · intro d hattached
    rcases hfresh with hbound | hnone
    · exact hbound
    · exact absurd (Or.inl hattached) (hnone d)
  · intro d t ht hprobing
    obtain ⟨found, hp, _⟩ := hprobed d t ht hprobing
    refine ⟨found, hp, fun _ => ?_⟩
    rcases hfresh with hbound | hnone
    · exact hbound
    · exact absurd (Or.inr hprobing.2) (hnone d)

/-- A display that is never plugged in is never there. -/
theorem unknown_of_run {fb : FbState} (hunbound : Unbound fb) {d : Nat}
    (run : Runs.Run (nextHost info palette) (fun _ (e : HostEvent a) => e ≠ .probe d) (loadedHost fb) w) :
    (w.shared.dev d).core = .unknown := by
  suffices hinv : Hosted info w ∧ (w.shared.dev d).core = .unknown from hinv.2
  refine run.invariant (I := fun w => Hosted info w ∧ (w.shared.dev d).core = .unknown)
    ⟨loadedHost_hosted hunbound, rfl⟩ ?_
  intro w w' e hparts hne hnext
  obtain ⟨h, hunknown⟩ := hparts
  refine ⟨h.next hnext, ?_⟩
  rcases nextHost_some hnext with ⟨i, c, rfl⟩ | ⟨e, x, p, g, hstarts, rfl⟩
  · obtain ⟨o, k, g, r, s, hi, hexec, rfl⟩ := World.step_some hnext
    refine (h.core_same hi hexec fun hlife => ?_).trans hunknown
    obtain ⟨ph, hrole⟩ := Role.token_life.mp hlife
    rcases ((h.knows _ (List.mem_of_getElem? hi)).life d ph hrole).core with hcore | hcore
    · cases hunknown.symm.trans hcore
    · cases hunknown.symm.trans hcore
  · show ((w.shared.setDev e x).dev d).core = .unknown
    by_cases he : d = e
    · subst he
      rw [HostState.setDev_same]
      rcases hstarts.core with hsame | ⟨_, _, hprobe⟩ | ⟨hattached, _⟩
      · exact hsame.trans hunknown
      · exact absurd hprobe hne
      · cases hunknown.symm.trans hattached
    · rw [w.shared.setDev_other x he]
      exact hunknown

end Worlds

/-! ## The framebuffer is bound while a display is attached -/

/-- **A present display is driven**, unless it came while another one was.  Where no
probing and no removal is in progress, what is bound is attached; and the framebuffer is
bound exactly when a display is attached, in runs that start where it is bound or no
display is there, and unbind no display while another one is attached or being
probed. -/
theorem driven_while_attached {info : Nat → Dev} {palette : UInt32 → Pixel} {a : Arch} {fb : FbState}
    {w₀ w : HostWorld} (hunbound : Unbound fb)
    (reached : Runs.Run (nextHost info palette) (fun _ (_ : HostEvent a) => True) (loadedHost fb) w₀) :
    (Settled w₀ → ∀ d, w₀.shared.fb.pa.bindedUsbdev = some d → (w₀.shared.dev d).core = .attached) ∧
    ((BoundState w₀.shared ∨ ∀ d, ¬ Present w₀.shared d) →
      Runs.Run (nextHost info palette) (fun w (e : HostEvent a) => Unrivalled w e) w₀ w → Settled w →
      ((∃ d, w.shared.fb.pa.bindedUsbdev = some d) ↔ ∃ d, (w.shared.dev d).core = .attached)) := by
  obtain ⟨h₀, hreleased₀, hprobed₀⟩ := Hosted.probed_of_run hunbound reached
  refine ⟨fun hsettled d hbound => h₀.attached_of_bound hreleased₀ hsettled hbound, ?_⟩
  intro hfresh run hsettled
  obtain ⟨h, hreleased, hdriving⟩ : Hosted info w ∧ Released w ∧ Driving w := by
    refine run.invariant (I := fun w => Hosted info w ∧ Released w ∧ Driving w)
      ⟨h₀, hreleased₀, hprobed₀.driving hfresh⟩ ?_
    intro w w' e hparts hunrivalled hnext
    obtain ⟨h, hreleased, hdriving⟩ := hparts
    exact ⟨h.next hnext, hreleased.next h hnext, hdriving.next h hunrivalled hnext⟩
  constructor
  · intro hparts
    obtain ⟨d, hbound⟩ := hparts
    exact ⟨d, h.attached_of_bound hreleased hsettled hbound⟩
  · intro hparts
    obtain ⟨d, hattached⟩ := hparts
    exact Option.ne_none_iff_exists'.mp (hdriving.attached d hattached)

/-- Only displays below `count` are plugged in. -/
def plugsBelow (count : Nat) (_ : HostWorld) : HostEvent amd64 → Bool
  | .probe e => e < count
  | _ => true

/-- Where nothing is in progress at the displays that were plugged in, nothing is. -/
theorem settled_of_tested {count : Nat} {test : HostWorld → HostEvent amd64 → Bool}
    {events : List (HostEvent amd64)} {w : HostWorld}
    (htest : ∀ w e, test w e = true → plugsBelow count w e = true)
    (htested : Runs.tested (nextHost (fun _ => .attached 64 0x0104 .little) (fun c => c.toUInt16))
      test (loadedHost neverBound) events = some w)
    (hplugged : ∀ d < count, (w.shared.dev d).core ≠ .probing ∧ (w.shared.dev d).core ≠ .leaving) :
    Settled w := by
  intro d
  by_cases hd : d < count
  · exact hplugged d hd
  · have hother : ∀ w' (e : HostEvent amd64), test w' e = true → e ≠ .probe d := by
      intro w' e hpass he
      subst he
      exact hd (of_decide_eq_true (htest w' _ hpass))
    have hunknown := unknown_of_run neverBound_unbound (Runs.Run.start.of_tested hother htested)
    rw [hunknown]
    exact ⟨nofun, nofun⟩

/-- The states of the first two displays, and the binding. -/
def twoDisplays (first second : CoreState) (binded : Option Nat) (w : HostWorld) : Bool :=
  (w.shared.dev 0).core = first && (w.shared.dev 1).core = second &&
    w.shared.fb.pa.bindedUsbdev = binded

theorem twoDisplays_spec {first second : CoreState} {binded : Option Nat} {w : HostWorld}
    (h : twoDisplays first second binded w = true) :
    (w.shared.dev 0).core = first ∧ (w.shared.dev 1).core = second ∧
      w.shared.fb.pa.bindedUsbdev = binded := by
  obtain ⟨hcores, hbinded⟩ := Bool.and_eq_true_iff.mp h
  obtain ⟨hfirst, hsecond⟩ := Bool.and_eq_true_iff.mp hcores
  exact ⟨of_decide_eq_true hfirst, of_decide_eq_true hsecond, of_decide_eq_true hbinded⟩

/-- Two displays come, the second one while the first is bound. -/
def bothPlugged : List (HostEvent amd64) :=
  [.probe 0] ++ List.replicate 22 (.run 0 plenty) ++ [.probe 1] ++ List.replicate 17 (.run 1 plenty)

/-- Two displays are plugged in, and nothing is unbound. -/
def onlyBinds (w : HostWorld) (e : HostEvent amd64) : Bool :=
  plugsBelow 2 w e && match e with
    | .run i _ => match (w.threads[i]?.bind Thread.asks : Option HostOp) with
      | some (.setBindedUsbdev none) => false
      | _ => true
    | _ => true

theorem unrivalled_of_onlyBinds (w : HostWorld) (e : HostEvent amd64) (h : onlyBinds w e = true) :
    Unrivalled w e := by
  cases e with
  | run i c =>
      intro t ht hasks
      have hthread : (w.threads[i]?.bind Thread.asks : Option HostOp) = t.asks := by rw [ht]; rfl
      have htest := (Bool.and_eq_true_iff.mp h).2
      dsimp only at htest
      rw [hthread, hasks] at htest
      cases htest
  | _ => trivial

/-- Two displays come, and the first one is driven. -/
theorem driven_while_attached_plugged : ∃ w,
    Runs.Run (nextHost (fun _ => .attached 64 0x0104 .little) (fun c => c.toUInt16))
      (fun w (e : HostEvent amd64) => Unrivalled w e) (loadedHost neverBound) w ∧ Settled w ∧
    w.shared.fb.pa.bindedUsbdev = some 0 ∧ (w.shared.dev 0).core = .attached ∧
    ((∃ d, w.shared.fb.pa.bindedUsbdev = some d) ↔ ∃ d, (w.shared.dev d).core = .attached) := by
  have hends : (Runs.tested (nextHost (fun _ => .attached 64 0x0104 .little) (fun c => c.toUInt16))
      onlyBinds (loadedHost neverBound) bothPlugged).any
      (twoDisplays .attached .attached (some 0)) = true := by decide +kernel
  obtain ⟨w, htested, hdisplays⟩ := (Option.any_eq_true _ _).mp hends
  obtain ⟨hfirst, hsecond, hbound⟩ := twoDisplays_spec hdisplays
  have run := Runs.Run.start.of_tested unrivalled_of_onlyBinds htested
  have hsettled : Settled w := by
    refine settled_of_tested (fun _ _ h => (Bool.and_eq_true_iff.mp h).1) htested fun d hd => ?_
    obtain rfl | rfl : d = 0 ∨ d = 1 := by omega
    · rw [hfirst]
      exact ⟨nofun, nofun⟩
    · rw [hsecond]
      exact ⟨nofun, nofun⟩
  have hnone : ∀ d, ¬ Present (loadedHost neverBound).shared d := fun d h => h.elim nofun nofun
  have hattached := (driven_while_attached (w := w) neverBound_unbound
    (run.mono fun _ _ _ => trivial)).1 hsettled 0 hbound
  have hiff := (driven_while_attached neverBound_unbound Runs.Run.start).2 (Or.inr hnone) run hsettled
  exact ⟨w, run, hsettled, hbound, hattached, hiff⟩

/-- **An attached display is not driven.**  It came while another one was bound, and
that one is gone. -/
theorem attached_undriven : ∃ w,
    Runs.Run (nextHost (fun _ => .attached 64 0x0104 .little) (fun c => c.toUInt16))
      (fun _ (_ : HostEvent amd64) => True) (loadedHost neverBound) w ∧ Settled w ∧
    w.shared.fb.pa.bindedUsbdev = none ∧ (w.shared.dev 1).core = .attached ∧
    ¬ ((∃ d, w.shared.fb.pa.bindedUsbdev = some d) ↔ ∃ d, (w.shared.dev d).core = .attached) := by
  have hends : (Runs.tested (nextHost (fun _ => .attached 64 0x0104 .little) (fun c => c.toUInt16))
      (plugsBelow 2) (loadedHost neverBound)
      (bothPlugged ++ [.disconnect 0] ++ List.replicate 9 (.run 2 plenty) ++
        [.statusComplete 0 (-2) ⟨0, 0, 0, 0, 0⟩] ++ List.replicate 2 (.run 3 plenty) ++
        List.replicate 9 (.run 2 plenty))).any (twoDisplays .gone .attached none) = true := by
    decide +kernel
  obtain ⟨w, htested, hdisplays⟩ := (Option.any_eq_true _ _).mp hends
  obtain ⟨hfirst, hsecond, hbound⟩ := twoDisplays_spec hdisplays
  have hsettled : Settled w := by
    refine settled_of_tested (fun _ _ h => h) htested fun d hd => ?_
    obtain rfl | rfl : d = 0 ∨ d = 1 := by omega
    · rw [hfirst]
      exact ⟨nofun, nofun⟩
    · rw [hsecond]
      exact ⟨nofun, nofun⟩
  refine ⟨w, Runs.Run.start.of_tested (fun _ _ _ => trivial) htested, hsettled, hbound, hsecond, ?_⟩
  intro hiff
  obtain ⟨d, hd⟩ := hiff.mpr ⟨1, hsecond⟩
  exact absurd (hbound.symm.trans hd) nofun

end RpUsbDisp.Hotplug
