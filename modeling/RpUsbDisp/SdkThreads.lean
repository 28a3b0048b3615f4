import RpUsbDisp.SdkDevice

/-!
# The threads of a display

What one thread of a display may do (`callRules`), and that every program keeps to it: it touches
what `statusLock_` guards only with the lock held, gives back what it takes, hands libusb only
transfers of its own and does not free one that libusb has.

A callback runs with the lock held.  What it does behind a second lock is not reached, so the
rules answer a lock only to a thread that does not have it.  In the same way they let only an
application's call be the first at the once flag: when there is a status thread, the flag is not
fresh.  That the answers are such is shown in `SdkInvariants`.
-/

namespace RpUsbDisp.SdkDevice

open Programs Sdk StatusPackets Hotplug

variable {cfg : Config}

/-! ## What a thread may do -/

/-- The operations that may have to wait. -/
def SdkOp.waits : SdkOp cfg → Bool
  | .lockStatus | .onceBegin | .waitForCompletion _ | .join => true
  | _ => false

/-- The callbacks call nothing but `isAlive`. -/
def Config.Quiet (cfg : Config) : Prop :=
  ∀ callback status, ∀ c ∈ cfg.reactions callback status, c = .isAlive

/-- What a call that ended in some way has submitted. -/
def ApiCall.Submits : ApiCall → Outcome → List DisplayCall → Prop
  | .getStatus, .status _, calls => calls = []
  | .setStatusUpdatedCallback _, .done, calls => calls = []
  | .isAlive, .alive _, calls => calls = []
  | .draw call _, .done, calls => calls = [call]
  | .draw call _, .threw, calls => calls = [] ∨ calls = [call]
  | .enable _ _, .done, calls => calls = [.fill 0xcb20, .fill 0xcb20]
  | .enable _ _, .threw, calls => calls <+: [.fill 0xcb20, .fill 0xcb20]
  | _, _, _ => False

/-- An `enable` that has returned. -/
def ApiCall.Passes : ApiCall → Outcome → Prop
  | .enable _ _, .done => True
  | _, _ => False

/-- An `enable`. -/
def ApiCall.Enables : ApiCall → Prop
  | .enable _ _ => True
  | _ => False

/-- A thread that is neither in `doEnable_` nor the destructor. -/
def Task.Plain (g : Task) : Prop := g.stage = .plain ∧ g.isDestructor = false

/-- What a thread may ask. -/
def Task.Permits (g : Task) : SdkOp cfg → Prop
  | .unlockStatus => g.holds = true
  | .loadStatus => g.holds = true
  | .storeStatus _ => g.holds = true ∧ g.role = .worker ∧ g.round = .looked
  | .loadCallback => g.holds = true
  | .storeCallback _ => g.holds = true
  | .invokeCallback _ _ => g.holds = true ∧ g.role = .worker ∧ g.round = .published
  | .onceBegin => g.Plain ∧ ∀ c, g.role = .call c → c.Enables
  | .onceEnd returned => g.enabling = true ∧ g.holds = false ∧ (returned = true ↔ g.stage = .created)
  | .summonPipeline => g.stage = .begun ∧ g.holds = true
  | .testWorking => g.role = .worker ∧ g.round = .fresh
  | .storeWorking true => g.stage = .summoned ∧ g.holds = true
  | .storeWorking false => g.role = .worker ∨ (g.role = .destructor ∧ g.stage = .plain)
  | .createThread => g.stage = .alive ∧ g.holds = true
  | .setTransferBuffer t => t ∈ g.idle
  | .submitStatus t => t ∈ g.idle ∧ g.role = .worker
  | .submitDisplay t sent => t ∈ g.idle ∧ sent.caller = g.number
  | .waitForCompletion t => t ∈ g.flying ∧ g.Plain
  | .transferStatus t => t ∈ g.idle
  | .decodeStatus t => t ∈ g.idle
  | .freeTransfer t => t ∈ g.idle
  | .joinable => g.role = .destructor ∧ g.stage = .stopping
  | .join => g.role = .destructor ∧ g.stage = .joining
  | .releasePipeline => g.role = .destructor ∧ g.stage = .alone ∧ g.idle = [] ∧ g.flying = []
  | .releaseInterface => g.role = .destructor ∧ g.stage = .released ∧ g.idle = [] ∧ g.flying = []
  | _ => True

/-- The rules of a thread.  Where no callback makes a call that locks, nobody waits who has the
lock. -/
def callRules (cfg : Config) : Protocol (SdkOp cfg) SdkOp.Res Task where
  pre g o := g.Permits o ∧ (cfg.Quiet → g.holds = true → o.waits = false)
  answer g
    | .lockStatus, _ => g.holds = false
    | .onceBegin, first => first = true → g.isCall = true
    | _, _ => True
  track := Task.track

/-- What a thread has done when it ends. -/
def Role.Ends (g : Task) : Role → Outcome → Prop
  | .call c, outcome =>
      g.stage = .plain ∧ g.idle = [] ∧ c.Submits outcome g.submitted ∧
        (c.Passes outcome → g.passed = true)
  | .worker, .again t => g.stage = .plain ∧ g.idle = [t]
  | .worker, .ended => g.stage = .plain ∧ g.idle = [] ∧ g.round = .stopped
  | .destructor, .disposed => g.stage = .released ∧ g.idle = []
  | _, _ => False

/-- How a thread ends. -/
structure EndsWell (outcome : Outcome) (g : Task) : Prop where
  released : g.holds = false
  landed : g.flying = []
  ends : g.role.Ends g outcome

/-- The program of a thread keeps to the rules. -/
abbrev Obeys {α : Type} (p : SdkProg cfg α) (Q : α → Task → Prop) (g : Task) : Prop :=
  p.wp (callRules cfg) (fun _ => True) Q g

section Calls

/-! ## Calls -/

variable {g : Task} {α β : Type}

/-- One part after the other. -/
theorem Obeys.bind {p : SdkProg cfg α} {f : α → SdkProg cfg β} {Q : β → Task → Prop}
    {Q' : α → Task → Prop} (h : Obeys p Q' g) (hf : ∀ a g, Q' a g → Obeys (f a) Q g) :
    Obeys (p >>= f) Q g :=
  wp_bind.mpr (wp_mono h (fun _ _ => trivial) hf)

/-- An operation that does not wait and what follows it. -/
theorem obeys_ask {o : SdkOp cfg} {f : o.Res → SdkProg cfg β} {Q : β → Task → Prop}
    (hpre : g.Permits o) (hgoes : o.waits = false)
    (hf : ∀ r, (callRules cfg).answer g o r → Obeys (f r) Q (g.track o r)) :
    Obeys (ask o >>= f) Q g :=
  wp_ask_bind.mpr ⟨⟨hpre, fun _ _ => hgoes⟩, hf⟩

/-- An operation that may wait and what follows it. -/
theorem obeys_wait {o : SdkOp cfg} {f : o.Res → SdkProg cfg β} {Q : β → Task → Prop}
    (hpre : g.Permits o) (hfree : cfg.Quiet → g.holds = false)
    (hf : ∀ r, (callRules cfg).answer g o r → Obeys (f r) Q (g.track o r)) :
    Obeys (ask o >>= f) Q g := by
  refine wp_ask_bind.mpr ⟨⟨hpre, fun hquiet hholds => ?_⟩, hf⟩
  rw [hfree hquiet] at hholds
  cases hholds

/-- A thread after more submissions, and after an `enable` that has been let pass. -/
def Task.after (g : Task) (calls : List DisplayCall) (passed : Bool) : Task :=
  { g with submitted := g.submitted ++ calls, passed := g.passed || passed }

@[simp] theorem Task.after_nil (g : Task) : g.after [] false = g := by
  simp [Task.after]

@[simp] theorem Task.after_after (g : Task) (calls more : List DisplayCall) (p q : Bool) :
    (g.after calls p).after more q = g.after (calls ++ more) (p || q) := by
  simp [Task.after, Bool.or_assoc]

/-- The lock, taken and given back. -/
theorem Task.unlocked (h : g.holds = false) : { g with holds := false } = g := by
  obtain ⟨_, _, _, _, _, _, _, _, _⟩ := g
  cases h
  rfl

theorem obeys_getStatus (hfree : cfg.Quiet → g.holds = false) :
    Obeys (getStatus cfg) (fun outcome g' => g' = g ∧ ∃ s, outcome = .status s) g := by
  refine obeys_wait trivial hfree fun _ hlock => ?_
  refine obeys_ask rfl rfl fun status _ => ?_
  refine obeys_ask rfl rfl fun _ _ => ?_
  exact ⟨Task.unlocked hlock, status, rfl⟩

theorem obeys_setStatusUpdatedCallback (callback : Option Nat)
    (hfree : cfg.Quiet → g.holds = false) :
    Obeys (setStatusUpdatedCallback cfg callback) (fun outcome g' => g' = g ∧ outcome = .done) g := by
  refine obeys_wait trivial hfree fun _ hlock => ?_
  refine obeys_ask rfl rfl fun _ _ => ?_
  refine obeys_ask rfl rfl fun _ _ => ?_
  exact ⟨Task.unlocked hlock, rfl⟩

theorem obeys_isAlive : Obeys (isAlive cfg) (fun outcome g' => g' = g ∧ ∃ b, outcome = .alive b) g :=
  obeys_ask trivial rfl fun working _ => ⟨rfl, working, rfl⟩

/-- A transfer is submitted and waited for, and freed in any case. -/
theorem obeys_sendTransfer {sent : Sent cfg} (hcaller : sent.caller = g.number)
    (hplain : g.Plain) (hfree : cfg.Quiet → g.holds = false) :
    Obeys (sendTransfer cfg sent) (fun outcome g' =>
      (outcome = .threw ∧ g' = g) ∨
        ((outcome = .done ∨ outcome = .threw) ∧ g' = g.after [sent.call] false)) g := by
  refine obeys_ask trivial rfl fun r _ => ?_
  cases r with
  | none => exact Or.inl ⟨rfl, rfl⟩
  | some t =>
      refine obeys_ask ⟨List.mem_cons_self, hcaller⟩ rfl fun result _ => ?_
      rw [Task.track_submitDisplay]
      by_cases hresult : result = 0
      · rw [if_pos hresult, if_neg fun h => h hresult]
        refine obeys_wait ⟨List.mem_cons_self, hplain⟩ hfree fun _ _ => ?_
        refine obeys_ask List.mem_cons_self rfl fun status _ => ?_
        refine obeys_ask List.mem_cons_self rfl fun _ _ => ?_
        simp only [Task.track, List.erase_cons_head]
        have hafter : { g with submitted := g.submitted ++ [sent.call] } = g.after [sent.call] false := by
          simp only [Task.after, Bool.or_false]
        split
        · exact Or.inr ⟨Or.inl rfl, hafter⟩
        · exact Or.inr ⟨Or.inr rfl, hafter⟩
      · rw [if_neg hresult, if_pos hresult]
        refine obeys_ask List.mem_cons_self rfl fun _ _ => Or.inl ⟨rfl, ?_⟩
        simp only [Task.track, List.erase_cons_head]

/-- The status is read under the lock. -/
theorem obeys_markedStatus (call : DisplayCall) (env : Environment)
    (hfree : cfg.Quiet → g.holds = false) :
    Obeys (markedStatus cfg call env) (fun _ g' => g' = g) g := by
  unfold markedStatus
  split
  · rfl
  · refine obeys_wait trivial hfree fun _ hlock => ?_
    refine obeys_ask rfl rfl fun status _ => ?_
    refine obeys_ask rfl rfl fun _ _ => ?_
    exact Task.unlocked hlock

/-- **A command** is submitted once at most, and has been if the call returns. -/
theorem obeys_draw (call : DisplayCall) (env : Environment) (hplain : g.Plain)
    (hfree : cfg.Quiet → g.holds = false) :
    Obeys (draw cfg g.number call env) (fun outcome g' =>
      (outcome = .threw ∧ g' = g) ∨
        ((outcome = .done ∨ outcome = .threw) ∧ g' = g.after [call] false)) g := by
  unfold draw
  split
  · exact Or.inl ⟨rfl, rfl⟩
  · trivial
  · refine (obeys_markedStatus call env hfree).bind fun displayStatus g' hg => ?_
    obtain rfl := hg
    split
    · trivial
    · exact obeys_sendTransfer rfl hplain hfree

/-- The two fills: the second one is only drawn after the first. -/
theorem obeys_fillTwice (first second : Environment) (hplain : g.Plain)
    (hfree : cfg.Quiet → g.holds = false) :
    Obeys (fillTwice cfg g.number first second) (fun outcome g' => ∃ calls,
      g' = g.after calls false ∧ (ApiCall.enable first second).Submits outcome calls) g := by
  unfold fillTwice
  refine (obeys_draw (.fill 0xcb20) first hplain hfree).bind fun outcome g' hg => ?_
  rcases hg with ⟨rfl, rfl⟩ | ⟨hend, rfl⟩
  · exact ⟨[], (Task.after_nil _).symm, List.nil_prefix⟩
  · rcases hend with rfl | rfl
    · refine obeys_ask trivial rfl fun _ _ => ?_
      have hsecond : Obeys (draw cfg (g.after [.fill 0xcb20] false).number (.fill 0xcb20) second) _
          (g.after [.fill 0xcb20] false) := obeys_draw _ second hplain hfree
      apply wp_mono hsecond (fun _ _ => trivial)
      intro outcome g' hg
      rcases hg with ⟨rfl, rfl⟩ | ⟨hend, rfl⟩
      · exact ⟨_, rfl, ⟨_, rfl⟩⟩
      · refine ⟨_, Task.after_after _ _ _ _ _, ?_⟩
        rcases hend with rfl | rfl
        · rfl
        · exact List.prefix_rfl
    · exact ⟨_, rfl, ⟨_, rfl⟩⟩

/-- `doEnable_`: whether there is a status thread then is what it returns. -/
theorem obeys_doEnable (hstage : g.stage = .begun) (hholds : g.holds = true) :
    Obeys (doEnable cfg) (fun returned g' => ∃ stage, g' = { g with stage := stage } ∧
      g'.enabling = true ∧ (returned = true ↔ stage = .created)) g := by
  refine obeys_ask ⟨hstage, hholds⟩ rfl fun pipeline _ => ?_
  cases pipeline with
  | false =>
      refine ⟨.begun, ?_, ?_, by simp⟩
      · rw [← hstage]
        rfl
      · simp [Task.track, Task.enabling, hstage]
  | true =>
      refine obeys_ask ⟨rfl, hholds⟩ rfl fun _ _ => ?_
      refine ⟨⟨⟨rfl, hholds⟩, fun _ _ => rfl⟩, fun created _ => ?_⟩
      cases created with
      | false => exact ⟨.alive, rfl, rfl, by simp⟩
      | true => exact ⟨.created, rfl, rfl, by simp⟩

/-- **`enable`** passes the once flag before it draws. -/
theorem obeys_enable (first second : Environment) (hplain : g.Plain)
    (hrole : ∀ c, g.role = .call c → c.Enables) (hfree : cfg.Quiet → g.holds = false) :
    Obeys (enable cfg g.number first second) (fun outcome g' => ∃ calls passed,
      g' = g.after calls passed ∧ (ApiCall.enable first second).Submits outcome calls ∧
        (outcome = .done → passed = true)) g := by
  -- what is drawn once the flag has been passed
  have hfills : ∀ g', g' = g.after [] true → Obeys (fillTwice cfg g.number first second)
      (fun outcome g' => ∃ calls passed, g' = g.after calls passed ∧
        (ApiCall.enable first second).Submits outcome calls ∧ (outcome = .done → passed = true))
      g' := by
    intro g' hg'
    obtain rfl := hg'
    have hfill : Obeys (fillTwice cfg (g.after [] true).number first second) _ (g.after [] true) :=
      obeys_fillTwice first second hplain hfree
    apply wp_mono hfill (fun _ _ => trivial)
    rintro outcome g' ⟨calls, rfl, hsubmits⟩
    exact ⟨calls, true, by simp, hsubmits, fun _ => rfl⟩
  refine obeys_wait ⟨hplain, hrole⟩ hfree fun once _ => ?_
  cases once with
  | false =>
      apply hfills
      simp [Task.track, Task.after]
  | true =>
      refine obeys_wait trivial hfree fun _ hlock => ?_
      have hholds : g.holds = false := hlock
      refine (obeys_doEnable rfl rfl).bind fun returned g' hg => ?_
      obtain ⟨stage, rfl, henabling, hcreated⟩ := hg
      refine obeys_ask rfl rfl fun _ _ => ?_
      refine obeys_ask ⟨henabling, rfl, hcreated⟩ rfl fun _ _ => ?_
      have hback : { g with holds := false, stage := .plain, passed := g.passed || returned } =
          g.after [] returned := by
        simp only [Task.after, List.append_nil]
        rw [← hholds, ← hplain.1]
      simp only [Task.track]
      rw [hback]
      cases returned with
      | true => exact hfills _ rfl
      | false => exact ⟨[], false, rfl, List.nil_prefix, fun h => by cases h⟩

/-- **Every call** gives back what it takes and submits what it is to submit. -/
theorem obeys_prog (c : ApiCall) (hplain : g.Plain) (hrole : ∀ c', g.role = .call c' → c' = c)
    (hfree : cfg.Quiet → c = .isAlive ∨ g.holds = false) :
    Obeys (c.prog cfg g.number) (fun outcome g' => ∃ calls passed,
      g' = g.after calls passed ∧ c.Submits outcome calls ∧
        (c.Passes outcome → passed = true)) g := by
  cases c with
  | getStatus =>
      apply wp_mono (obeys_getStatus fun hquiet => (hfree hquiet).resolve_left (by simp))
        (fun _ _ => trivial)
      rintro outcome g' ⟨rfl, status, rfl⟩
      exact ⟨[], false, (Task.after_nil _).symm, rfl, False.elim⟩
  | setStatusUpdatedCallback callback =>
      apply wp_mono (obeys_setStatusUpdatedCallback callback
        fun hquiet => (hfree hquiet).resolve_left (by simp)) (fun _ _ => trivial)
      rintro outcome g' ⟨rfl, rfl⟩
      exact ⟨[], false, (Task.after_nil _).symm, rfl, False.elim⟩
  | isAlive =>
      apply wp_mono obeys_isAlive (fun _ _ => trivial)
      rintro outcome g' ⟨rfl, working, rfl⟩
      exact ⟨[], false, (Task.after_nil _).symm, rfl, False.elim⟩
  | draw call env =>
      apply wp_mono (obeys_draw call env hplain
        fun hquiet => (hfree hquiet).resolve_left (by simp)) (fun _ _ => trivial)
      rintro outcome g' (⟨rfl, rfl⟩ | ⟨rfl | rfl, rfl⟩)
      · exact ⟨[], false, (Task.after_nil _).symm, Or.inl rfl, False.elim⟩
      · exact ⟨_, false, rfl, rfl, False.elim⟩
      · exact ⟨_, false, rfl, Or.inr rfl, False.elim⟩
  | enable first second =>
      have henables : ∀ c, g.role = .call c → c.Enables := by
        intro c hc
        obtain rfl := hrole c hc
        trivial
      apply wp_mono (obeys_enable first second hplain henables
        fun hquiet => (hfree hquiet).resolve_left (by simp)) (fun _ _ => trivial)
      rintro outcome g' ⟨calls, passed, rfl, hsubmits, hpassed⟩
      refine ⟨calls, passed, rfl, hsubmits, fun hpasses => hpassed ?_⟩
      cases outcome with
      | done => rfl
      | _ => cases hpasses

/-- An application's call. -/
theorem obeys_call (c : ApiCall) (number : Nat) :
    Obeys (c.prog cfg number) EndsWell (Task.start (.call c) number) := by
  have hstart : (Task.start (.call c) number).Plain := ⟨rfl, rfl⟩
  have hrole : ∀ c', (Task.start (.call c) number).role = .call c' → c' = c := by
    intro c' hc
    cases hc
    rfl
  apply wp_mono (obeys_prog c hstart hrole fun _ => Or.inr rfl) (fun _ _ => trivial)
  rintro outcome g' ⟨calls, passed, rfl, hsubmits, hpassed⟩
  exact ⟨rfl, rfl, rfl, rfl, hsubmits, hpassed⟩

end Calls

section Worker

/-! ## The status thread and the destructor -/

variable {g : Task}

/-- A callback leaves what its calls submitted. -/
theorem obeys_react (calls : List ApiCall) (hplain : g.Plain) (hrole : g.role = .worker)
    (hquiet : cfg.Quiet → ∀ c ∈ calls, c = .isAlive) :
    Obeys (react cfg g.number calls) (fun _ g' => ∃ drawn passed, g' = g.after drawn passed) g := by
  induction calls generalizing g with
  | nil => exact ⟨[], false, (Task.after_nil _).symm⟩
  | cons c calls ih =>
      have hworker : ∀ c', g.role = .call c' → c' = c := by
        intro c' hc
        rw [hrole] at hc
        cases hc
      refine (obeys_prog c hplain hworker fun hq =>
        Or.inl (hquiet hq c List.mem_cons_self)).bind fun outcome g' hg => ?_
      obtain ⟨drawn, passed, rfl, _⟩ := hg
      have hrest : Obeys (react cfg g.number calls)
          (fun _ g' => ∃ drawn passed, g' = g.after drawn passed) (g.after drawn passed) := by
        have hnext : Obeys (react cfg (g.after drawn passed).number calls)
            (fun _ g' => ∃ more passed', g' = (g.after drawn passed).after more passed')
            (g.after drawn passed) :=
          ih hplain hrole fun hq c hc => hquiet hq c (List.mem_cons_of_mem _ hc)
        apply wp_mono hnext (fun _ _ => trivial)
        rintro _ g' ⟨more, passed', rfl⟩
        exact ⟨drawn ++ more, passed || passed', Task.after_after _ _ _ _ _⟩
      split
      · exact ⟨drawn, passed, rfl⟩
      · exact hrest

/-- The status thread with its transfer back. -/
structure Task.Between (g : Task) (t : Nat) : Prop where
  role : g.role = .worker
  plain : g.stage = .plain
  released : g.holds = false
  landed : g.flying = []
  idle : g.idle = [t]

theorem Task.Between.idles {t : Nat} (h : g.Between t) : g.Plain := by
  refine ⟨h.plain, ?_⟩
  unfold Task.isDestructor
  rw [h.role]

theorem Task.Between.ends {t : Nat} (h : g.Between t) : EndsWell (.again t) g := by
  refine ⟨h.released, h.landed, ?_⟩
  rw [h.role]
  exact ⟨h.plain, h.idle⟩

theorem obeys_publish {t : Nat} (h : g.Between t) (hround : g.round = .looked)
    (status : StatusNormalPacket) : Obeys (publish cfg g.number t status) EndsWell g := by
  refine obeys_wait trivial (fun _ => h.released) fun _ _ => ?_
  refine obeys_ask ⟨rfl, h.role, hround⟩ rfl fun _ _ => ?_
  refine obeys_ask rfl rfl fun callback _ => ?_
  cases callback with
  | none =>
      refine obeys_ask rfl rfl fun _ _ => ?_
      have hend : Task.Between { g with holds := false, round := .published } t :=
        ⟨h.role, h.plain, rfl, h.landed, h.idle⟩
      exact hend.ends
  | some callback =>
      refine obeys_ask ⟨rfl, h.role, rfl⟩ rfl fun _ _ => ?_
      have hreact : Obeys (react cfg g.number (cfg.reactions callback status))
          (fun _ g' => ∃ drawn passed,
            g' = Task.after { g with holds := true, round := .called } drawn passed)
          { g with holds := true, round := .called } :=
        obeys_react _ h.idles h.role fun hquiet => hquiet callback status
      refine hreact.bind fun returned g' hg => ?_
      obtain ⟨drawn, passed, rfl⟩ := hg
      cases returned with
      | false => trivial
      | true =>
          refine obeys_ask rfl rfl fun _ _ => ?_
          have hend : Task.Between { Task.after { g with holds := true, round := .called }
              drawn passed with holds := false } t :=
            ⟨h.role, h.plain, rfl, h.landed, h.idle⟩
          exact hend.ends

/-- The status thread ends. -/
theorem Task.Between.freed {t : Nat} (h : g.Between t) (hround : g.round = .stopped) :
    EndsWell .ended (g.track (SdkOp.freeTransfer t : SdkOp cfg) ()) := by
  refine ⟨h.released, h.landed, ?_⟩
  have hidle : g.idle.erase t = [] := by rw [h.idle, List.erase_cons_head]
  have hends : Role.Ends (g.track (SdkOp.freeTransfer t : SdkOp cfg) ()) .worker .ended :=
    ⟨h.plain, hidle, hround⟩
  rw [← h.role] at hends
  exact hends

/-- What has been seen of the loop does not touch the rest. -/
theorem Task.Between.look {t : Nat} (h : g.Between t) (round : Round) :
    Task.Between { g with round := round } t :=
  ⟨h.role, h.plain, h.released, h.landed, h.idle⟩

/-- **A round** of the status thread. -/
theorem obeys_workerRound {t : Nat} (h : g.Between t) (hround : g.round = .fresh) :
    Obeys (workerRound cfg g.number t) EndsWell g := by
  have ht : t ∈ g.idle := by
    rw [h.idle]
    exact List.mem_cons_self
  refine obeys_ask ⟨h.role, hround⟩ rfl fun working _ => ?_
  cases working with
  | false => exact obeys_ask ht rfl fun _ _ => (h.look .stopped).freed rfl
  | true =>
      refine obeys_ask ⟨ht, h.role⟩ rfl fun result _ => ?_
      rw [Task.track_submitStatus]
      by_cases hresult : result = 0
      · rw [if_pos hresult, if_neg fun hne => hne hresult]
        refine obeys_wait ⟨List.mem_cons_self, h.idles⟩ (fun _ => h.released) fun _ _ => ?_
        -- the transfer is back
        have hback : Task.Between { g with
            round := .looked, idle := t :: g.idle.erase t, flying := (t :: g.flying).erase t } t := by
          refine ⟨h.role, h.plain, h.released, ?_, ?_⟩
          · rw [List.erase_cons_head]
            exact h.landed
          · rw [h.idle, List.erase_cons_head]
        refine obeys_ask List.mem_cons_self rfl fun status _ => ?_
        cases status with
        | completed =>
            refine obeys_ask List.mem_cons_self rfl fun packet _ => ?_
            cases packet with
            | none => trivial
            | some packet => exact obeys_publish hback rfl packet
        | stall =>
            refine obeys_ask trivial rfl fun result _ => ?_
            split
            · trivial
            · exact hback.ends
        | _ => exact hback.ends
      · rw [if_neg hresult, if_pos hresult]
        refine obeys_ask (Or.inl h.role) rfl fun _ _ => ?_
        have hstore : Task.track { g with round := .looked }
            (SdkOp.storeWorking false : SdkOp cfg) () = { g with round := .stopped } := by
          simp only [Task.track, h.role]
        show Obeys _ _ (Task.track { g with round := .looked }
          (SdkOp.storeWorking false : SdkOp cfg) ())
        rw [hstore]
        exact obeys_ask ht rfl fun _ _ => (h.look .stopped).freed rfl

/-- The status thread begins with a transfer. -/
theorem obeys_statusFetchingWorker (number : Nat) :
    Obeys (statusFetchingWorker cfg) EndsWell (Task.start .worker number) := by
  refine obeys_ask trivial rfl fun t _ => ?_
  cases t with
  | none => trivial
  | some t =>
      refine obeys_ask List.mem_cons_self rfl fun granted _ => ?_
      cases granted with
      | false => trivial
      | true => exact ⟨rfl, rfl, rfl, rfl⟩

/-- The end of the destructor. -/
theorem obeys_release (hrole : g.role = .destructor) (hstage : g.stage = .alone)
    (hholds : g.holds = false) (hidle : g.idle = []) (hflying : g.flying = []) :
    Obeys (release cfg) EndsWell g := by
  refine obeys_ask ⟨hrole, hstage, hidle, hflying⟩ rfl fun _ _ => ?_
  refine obeys_ask ⟨hrole, rfl, hidle, hflying⟩ rfl fun released _ => ?_
  cases released with
  | false => trivial
  | true =>
      refine ⟨hholds, hflying, ?_⟩
      have hends : Role.Ends { g with stage := .released } .destructor .disposed := ⟨rfl, hidle⟩
      rw [← hrole] at hends
      exact hends

theorem obeys_destroy (number : Nat) :
    Obeys (destroy cfg) EndsWell (Task.start .destructor number) := by
  refine obeys_ask (Or.inr ⟨rfl, rfl⟩) rfl fun _ _ => ?_
  refine obeys_ask ⟨rfl, rfl⟩ rfl fun joinable _ => ?_
  cases joinable with
  | false => exact obeys_release rfl rfl rfl rfl rfl
  | true => exact obeys_wait ⟨rfl, rfl⟩ (fun _ => rfl) fun _ _ => obeys_release rfl rfl rfl rfl rfl

end Worker

end RpUsbDisp.SdkDevice
