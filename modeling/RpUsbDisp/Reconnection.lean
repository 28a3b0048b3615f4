import RpUsbDisp.Pipeline
import RpUsbDisp.TouchReports
import RpUsbDisp.Runs

/-!
# Clients of the transport

The display pipeline and the touch driver each keep a target on the interface of the
transport, and open one when there is none.  The interface disappears with the device
and comes back as another one; a target that was opened before does not come back
with it.

The pipeline closes its target when a send fails.  The touch driver keeps it, and asks
a target that is gone from then on.  `clients_recover_iff` says what the touch driver
needs to be spared, and `touch_stays_lost` what follows where it is not.

Anything may happen between two tries of the same chunk.  What happens inside a try
needs no event of its own: a try may fail for any reason.
-/

namespace RpUsbDisp

namespace Windows

/-! ## A client -/

/-- What is known of a client: in which life of the interface its target was opened,
if it has one, and whether its last send failed with no target opened since. -/
structure Client where
  target : Option Nat
  broken : Bool
  deriving DecidableEq

/-- A client after it has asked for a target in life `life`. -/
def Client.ensured (c : Client) (life : Nat) (status : NTSTATUS) : Client :=
  match c.target with
  | some _ => c
  | none => if NT_SUCCESS status then ⟨some life, false⟩ else c

/-- A client that keeps its target or closes it. -/
def Client.keeping (c : Client) (kept : Bool) : Client :=
  { c with target := if kept then c.target else none }

/-- A client after a send. -/
def Client.sent (c : Client) (status : NTSTATUS) (kept : Bool) : Client :=
  { c.keeping kept with broken := ! NT_SUCCESS status }

/-- **A target that is kept is one whose last send did not fail.** -/
def Client.Healthy (c : Client) : Prop := c.target ≠ none → c.broken = false

instance (c : Client) : Decidable c.Healthy := inferInstanceAs (Decidable (_ → _))

/-! ## The system -/

/-- The interface with the number of its life, the driver behind it, and its two
clients. -/
structure Clients where
  present : Bool
  life : Nat
  transport : DeviceContext
  parentDevice : Bool
  pipeline : Client
  touch : Client

/-- Nothing is plugged in, and nobody has asked. -/
def Clients.start : Clients := ⟨false, 0, .created, false, ⟨none, false⟩, ⟨none, false⟩⟩

/-- `g_context` of the pipeline. -/
def Clients.pipelineContext (w : Clients) : PipelineContext :=
  ⟨w.parentDevice, w.pipeline.target.isSome⟩

/-- The context of the touch driver. -/
def Clients.touchContext (w : Clients) : TouchDeviceContext := ⟨w.touch.target.isSome⟩

/-- What happens, one after the other.  A present begins by asking for a target. -/
inductive ClientEvent where
  | appear
  | disappear
  | transport (event : TransportEvent)
  | pipelineInitialize (a : TargetAnswers)
  | pipelineEnsure (a : TargetAnswers)
  | pipelineTry (chunkIndex : UInt32) (buffer : List UInt8) (a : TryAnswers)
  | pipelineTeardown
  | readReport (a : ReadAnswers)

/-- `EnsureTransportTarget` of the pipeline. -/
def Clients.ensure (w : Clients) (a : TargetAnswers) : Clients :=
  { w with
    pipeline := w.pipeline.ensured w.life (ensureTransportTarget w.pipelineContext a).1 }

/-- One try of `SendIoctlWithRetry`. -/
def Clients.trySend (w : Clients) (chunkIndex : UInt32) (buffer : List UInt8) (a : TryAnswers) :
    Clients :=
  let ensured := w.ensure a.target
  let r := sendTry chunkIndex buffer a ⟨w.pipelineContext, w.transport, [], []⟩
  { ensured with
    transport := r.2.transport
    pipeline :=
      if NT_SUCCESS (ensureTransportTarget w.pipelineContext a.target).1 then
        ensured.pipeline.sent r.1 r.2.pipeline.transportTarget
      else ensured.pipeline }

/-- `PipelineTeardown`. -/
def Clients.teardown (w : Clients) : Clients :=
  { w with
    parentDevice := false
    pipeline := w.pipeline.keeping (closeTransportTarget w.pipelineContext).transportTarget }

/-- `EnsureUsbTransportTarget` of the touch driver. -/
def Clients.ensureTouch (w : Clients) (a : TargetAnswers) : Client :=
  w.touch.ensured w.life (ensureUsbTransportTarget w.touchContext a).1

/-- `IOCTL_HID_READ_REPORT`. -/
def Clients.readReport (w : Clients) (a : ReadAnswers) : Clients :=
  let r := touchReadReport w.touchContext w.transport a
  { w with
    touch :=
      if NT_SUCCESS (ensureUsbTransportTarget w.touchContext a.target).1 then
        (w.ensureTouch a.target).sent (queryTouchData w.transport a).1 r.2.2.usbTransportTarget
      else w.ensureTouch a.target }

def Clients.next (w : Clients) : ClientEvent → Clients
  | .appear => { w with present := true }
  | .disappear => { w with present := false, life := w.life + 1 }
  | .transport event => { w with transport := Windows.step w.transport event }
  | .pipelineInitialize a => { w with parentDevice := true }.ensure a
  | .pipelineEnsure a => w.ensure a
  | .pipelineTry chunkIndex buffer a => w.trySend chunkIndex buffer a
  | .pipelineTeardown => w.teardown
  | .readReport a => w.readReport a

/-- Every event can happen at any time. -/
def Clients.step (w : Clients) (event : ClientEvent) : Option Clients := some (w.next event)

/-- No target is opened on an interface that is not there. -/
def Clients.Opens (w : Clients) (a : TargetAnswers) : Prop :=
  w.present = false → NT_SUCCESS (openTransportTarget a) = false

/-- No request is delivered to a target that was opened in an earlier life. -/
def Clients.Delivers (w : Clients) (c : Client) (delivery : NTSTATUS) : Prop :=
  ∀ life, c.target = some life → life ≠ w.life → NT_SUCCESS delivery = false

/-- What the system guarantees. -/
def Environment (w : Clients) : ClientEvent → Prop
  | .pipelineInitialize a => w.Opens a
  | .pipelineEnsure a => w.Opens a
  | .pipelineTry _ _ a => w.Opens a.target ∧ w.Delivers w.pipeline a.delivery
  | .readReport a => w.Opens a.target ∧ w.Delivers w.touch a.delivery
  | _ => True

/-- In which life the target was opened that a request of the pipeline is sent to. -/
def Clients.pipelineSentTo (w : Clients) (a : TargetAnswers) : Option Nat :=
  if NT_SUCCESS (ensureTransportTarget w.pipelineContext a).1 then (w.ensure a).pipeline.target
  else none

/-- In which life the target was opened that a read of the touch driver asks. -/
def Clients.touchSentTo (w : Clients) (a : TargetAnswers) : Option Nat :=
  if NT_SUCCESS (ensureUsbTransportTarget w.touchContext a).1 then (w.ensureTouch a).target else none

/-- **A request after a failed send** opens a target, and if it can be opened, is sent
to it. -/
def Reopens (w : Clients) (c : Client) (a : TargetAnswers) (sentTo : Option Nat) : Prop :=
  c.broken = true →
    c.target = none ∧ (NT_SUCCESS (openTransportTarget a) = true → sentTo = some w.life)

/-- What the clients are to do in an event. -/
structure Recovers (w : Clients) (event : ClientEvent) : Prop where
  pipeline : (w.next event).pipeline.Healthy
  touch : (w.next event).touch.Healthy
  retries : ∀ chunkIndex buffer a, event = .pipelineTry chunkIndex buffer a →
    w.parentDevice = true → Reopens w w.pipeline a.target (w.pipelineSentTo a.target)
  reads : ∀ a, event = .readReport a → Reopens w w.touch a.target (w.touchSentTo a.target)

/-- A read that comes to ask the transport is answered. -/
def ReadsAnswered (w : Clients) : ClientEvent → Prop
  | .readReport a =>
      NT_SUCCESS (ensureUsbTransportTarget w.touchContext a.target).1 = true →
        NT_SUCCESS (queryTouchData w.transport a).1 = true
  | _ => True

section Steps

/-! ## One event -/

variable {w : Clients} {c : Client}

theorem Client.Healthy.ensured (h : c.Healthy) (life : Nat) (status : NTSTATUS) :
    (c.ensured life status).Healthy := by
  unfold Client.ensured
  split
  · exact h
  split
  · exact fun _ => rfl
  · exact h

theorem Client.Healthy.keeping (h : c.Healthy) (kept : Bool) : (c.keeping kept).Healthy := by
  cases kept with
  | true => exact h
  | false => exact fun hnone => absurd rfl hnone

/-- A send leaves a healthy client if the target is closed or the send did not fail. -/
theorem Client.sent_healthy_iff (c : Client) (status : NTSTATUS) (kept : Bool) :
    (c.sent status kept).Healthy ↔
      (kept = true → c.target ≠ none → NT_SUCCESS status = true) := by
  unfold Client.sent Client.keeping Client.Healthy
  cases kept <;> cases NT_SUCCESS status <;> simp

/-- What is known of the pipeline has a target exactly if the pipeline has. -/
theorem ensure_isSome (w : Clients) (a : TargetAnswers) :
    (w.ensure a).pipeline.target.isSome =
      (ensureTransportTarget w.pipelineContext a).2.transportTarget := by
  unfold Clients.ensure Client.ensured ensureTransportTarget Clients.pipelineContext
  cases htarget : w.pipeline.target with
  | some life => simp [htarget]
  | none =>
      have hstate : NT_SUCCESS STATUS_INVALID_DEVICE_STATE = false := rfl
      cases w.parentDevice with
      | false => simp [hstate, htarget]
      | true => cases hopen : NT_SUCCESS (openTransportTarget a) <;> simp [hopen, htarget]

/-- What is known of the touch driver has a target exactly if the driver has. -/
theorem ensureTouch_isSome (w : Clients) (a : TargetAnswers) :
    (w.ensureTouch a).target.isSome =
      (ensureUsbTransportTarget w.touchContext a).2.usbTransportTarget := by
  unfold Clients.ensureTouch Client.ensured ensureUsbTransportTarget Clients.touchContext
  cases htarget : w.touch.target with
  | some life => simp [htarget]
  | none => cases hopen : NT_SUCCESS (openTransportTarget a) <;> simp [hopen, htarget]

/-- A request that gets its target has one. -/
theorem ensureUsbTransportTarget_target (hid : TouchDeviceContext) (a : TargetAnswers)
    (h : NT_SUCCESS (ensureUsbTransportTarget hid a).1 = true) :
    (ensureUsbTransportTarget hid a).2.usbTransportTarget = true := by
  unfold ensureUsbTransportTarget at h ⊢
  grind

/-- **A try of the pipeline** keeps its target exactly if it does not fail. -/
theorem sendTry_target (chunkIndex : UInt32) (buffer : List UInt8) (a : TryAnswers) (s : PushState)
    (h : NT_SUCCESS (ensureTransportTarget s.pipeline a.target).1 = true) :
    (sendTry chunkIndex buffer a s).2.pipeline.transportTarget = true →
      NT_SUCCESS (sendTry chunkIndex buffer a s).1 = true := by
  unfold sendTry closeTransportTarget
  grind

/-- **A read of the touch driver** keeps the target that it has asked for. -/
theorem touchReadReport_target (hid : TouchDeviceContext) (transport : DeviceContext)
    (a : ReadAnswers) :
    (touchReadReport hid transport a).2.2 = (ensureUsbTransportTarget hid a.target).2 := by
  unfold touchReadReport
  grind

/-- The pipeline stays healthy in every event. -/
theorem next_pipeline (h : w.pipeline.Healthy) (event : ClientEvent) :
    (w.next event).pipeline.Healthy := by
  cases event with
  | pipelineInitialize a => exact h.ensured _ _
  | pipelineEnsure a => exact h.ensured _ _
  | pipelineTeardown => exact h.keeping _
  | pipelineTry chunkIndex buffer a =>
      rw [Clients.next, Clients.trySend]
      dsimp only
      split
      · rename_i htarget
        rw [Client.sent_healthy_iff]
        intro hkept _
        exact sendTry_target chunkIndex buffer a _ htarget hkept
      · exact h.ensured _ _
  | appear => exact h
  | disappear => exact h
  | transport event => exact h
  | readReport a => exact h

/-- **The touch driver** stays healthy in an event exactly if no read goes unanswered. -/
theorem next_touch_iff (h : w.touch.Healthy) (event : ClientEvent) :
    (w.next event).touch.Healthy ↔ ReadsAnswered w event := by
  cases event with
  | readReport a =>
      rw [Clients.next, Clients.readReport, ReadsAnswered]
      dsimp only
      split
      · rename_i htarget
        have hkept := ensureUsbTransportTarget_target _ _ htarget
        have hsome := ensureTouch_isSome w a.target
        rw [hkept, Option.isSome_iff_ne_none] at hsome
        rw [Client.sent_healthy_iff, touchReadReport_target, hkept]
        grind
      · rename_i hnone
        exact iff_of_true (h.ensured _ _) fun htarget => absurd htarget hnone
  | appear => exact iff_of_true h trivial
  | disappear => exact iff_of_true h trivial
  | transport event => exact iff_of_true h trivial
  | pipelineInitialize a => exact iff_of_true h trivial
  | pipelineEnsure a => exact iff_of_true h trivial
  | pipelineTry chunkIndex buffer a => exact iff_of_true h trivial
  | pipelineTeardown => exact iff_of_true h trivial

/-- A healthy client whose last send failed has closed its target. -/
theorem Client.Healthy.closed (h : c.Healthy) (hbroken : c.broken = true) : c.target = none := by
  by_contra hsome
  rw [h hsome] at hbroken
  cases hbroken

/-- **The pipeline reconnects.** -/
theorem pipeline_reopens (h : w.pipeline.Healthy) (hparent : w.parentDevice = true)
    (a : TargetAnswers) : Reopens w w.pipeline a (w.pipelineSentTo a) := by
  intro hbroken
  have hclosed := h.closed hbroken
  refine ⟨hclosed, fun hopen => ?_⟩
  have hcontext : ensureTransportTarget w.pipelineContext a =
      (openTransportTarget a, { w.pipelineContext with transportTarget := true }) := by
    unfold ensureTransportTarget Clients.pipelineContext
    rw [hclosed, hparent, hopen]
    rfl
  rw [Clients.pipelineSentTo, hcontext, if_pos hopen, Clients.ensure, hcontext, Client.ensured,
    hclosed]
  simp only [hopen, if_true]

/-- The touch driver would reconnect if it had closed its target. -/
theorem touch_reopens (h : w.touch.Healthy) (a : TargetAnswers) :
    Reopens w w.touch a (w.touchSentTo a) := by
  intro hbroken
  have hclosed := h.closed hbroken
  refine ⟨hclosed, fun hopen => ?_⟩
  have hcontext : ensureUsbTransportTarget w.touchContext a = (openTransportTarget a, ⟨true⟩) := by
    unfold ensureUsbTransportTarget Clients.touchContext
    rw [hclosed, hopen]
    rfl
  rw [Clients.touchSentTo, hcontext, if_pos hopen, Clients.ensureTouch, hcontext, Client.ensured,
    hclosed]
  simp only [hopen, if_true]

/-- **The step**: between two events both clients are healthy. -/
theorem recovers_iff (hpipeline : w.pipeline.Healthy) (htouch : w.touch.Healthy)
    (event : ClientEvent) : Recovers w event ↔ ReadsAnswered w event := by
  constructor
  · intro h
    exact (next_touch_iff htouch event).mp h.touch
  · intro hanswered
    constructor
    · exact next_pipeline hpipeline event
    · exact (next_touch_iff htouch event).mpr hanswered
    · intro _ _ a _ hparent
      exact pipeline_reopens hpipeline hparent a.target
    · intro a _
      exact touch_reopens htouch a.target

end Steps

section Runs

/-! ## Runs -/

variable {w w' : Clients}

/-- **When both clients recover.**  In every run of requests of both clients, of any
outcome, and of disappearances and reappearances of the interface, every event does
what the clients are to do exactly if every read that comes to ask the transport is
answered. -/
theorem clients_recover_iff (events : List ClientEvent) :
    Runs.AllowedThrough Clients.step Recovers .start events ↔
      Runs.AllowedThrough Clients.step ReadsAnswered .start events := by
  have hiff : ∀ w event, w.pipeline.Healthy ∧ w.touch.Healthy → True →
      (Recovers w event ↔ ReadsAnswered w event) :=
    fun w event h _ => recovers_iff h.1 h.2 event
  have hkeep : ∀ w w' event, w.pipeline.Healthy ∧ w.touch.Healthy → True →
      ReadsAnswered w event → w.step event = some w' → w'.pipeline.Healthy ∧ w'.touch.Healthy := by
    intro w w' event h _ hanswered hstep
    have hrecovers := (recovers_iff h.1 h.2 event).mpr hanswered
    rw [← Option.some.inj hstep]
    exact ⟨hrecovers.pipeline, hrecovers.touch⟩
  have hstart : Clients.start.pipeline.Healthy ∧ Clients.start.touch.Healthy :=
    ⟨fun _ => rfl, fun _ => rfl⟩
  exact Runs.allowedThrough_iff hiff hkeep hstart (Runs.allowedThrough_true events Clients.start)

/-- A read whose query is not delivered. -/
def lostRead : ReadAnswers := { goodRead with delivery := STATUS_UNSUCCESSFUL }

/-- The device is unplugged and plugged in again between two reads: the second one
fails, and the touch driver keeps its target. -/
theorem touch_not_reconnected :
    Runs.AllowedThrough Clients.step Environment .start
        [.appear, .readReport goodRead, .disappear, .appear, .readReport lostRead] ∧
      ¬ Runs.AllowedThrough Clients.step Recovers .start
        [.appear, .readReport goodRead, .disappear, .appear, .readReport lostRead] := by
  constructor
  · refine (Runs.allowedThrough_cons rfl).mpr ⟨trivial, ?_⟩
    refine (Runs.allowedThrough_cons rfl).mpr ⟨⟨fun habsent => ?_, fun life hlife => ?_⟩, ?_⟩
    · cases habsent
    · cases hlife
    refine (Runs.allowedThrough_cons rfl).mpr ⟨trivial, ?_⟩
    refine (Runs.allowedThrough_cons rfl).mpr ⟨trivial, ?_⟩
    refine (Runs.allowedThrough_cons rfl).mpr ⟨⟨fun habsent => ?_, fun _ _ _ => rfl⟩, trivial⟩
    cases habsent
  · intro hrecovers
    have hlast := (hrecovers.2 _ rfl).2 _ rfl |>.2 _ rfl |>.2 _ rfl |>.1
    have hhealthy := hlast.touch
    revert hhealthy
    decide

/-- The touch driver has a target that was opened in an earlier life of the interface. -/
def Clients.Lost (w : Clients) : Prop := ∃ life, w.touch.target = some life ∧ life < w.life

/-- A client with a target asks for no other one. -/
theorem Client.ensured_some {c : Client} {life : Nat} (h : c.target = some life) (now : Nat)
    (status : NTSTATUS) : (c.ensured now status).target = some life := by
  rw [Client.ensured, h]
  exact h

theorem Clients.Lost.next (h : w.Lost) (event : ClientEvent) : (w.next event).Lost := by
  obtain ⟨life, htarget, hold⟩ := h
  cases event with
  | disappear => exact ⟨life, htarget, Nat.lt_succ_of_lt hold⟩
  | readReport a =>
      refine ⟨life, ?_, hold⟩
      rw [Clients.next, Clients.readReport]
      dsimp only
      have hensured : (w.ensureTouch a.target).target = some life :=
        Client.ensured_some htarget _ _
      split
      · rename_i hok
        rw [touchReadReport_target, ensureUsbTransportTarget_target _ _ hok]
        exact hensured
      · exact hensured
  | appear => exact ⟨life, htarget, hold⟩
  | transport event => exact ⟨life, htarget, hold⟩
  | pipelineInitialize a => exact ⟨life, htarget, hold⟩
  | pipelineEnsure a => exact ⟨life, htarget, hold⟩
  | pipelineTry chunkIndex buffer a => exact ⟨life, htarget, hold⟩
  | pipelineTeardown => exact ⟨life, htarget, hold⟩

/-- A read that is not delivered hands out the empty report at most. -/
theorem touchReadReport_undelivered (hid : TouchDeviceContext) (transport : DeviceContext)
    {a : ReadAnswers} (h : NT_SUCCESS a.delivery = false) {report : HidTouchInputReport}
    (hreport : (touchReadReport hid transport a).2.1 = some report) : report = .empty := by
  have hquery : NT_SUCCESS (queryTouchData transport a).1 = false := by
    unfold queryTouchData sendIoctl
    rw [if_neg (Bool.eq_false_iff.mp h)]
    exact h
  unfold touchReadReport at hreport
  grind

/-- **The touch driver does not come back.**  Once its target has gone with the
interface, it keeps that target in every run, however often the interface returns, and
every read gets the empty report or none. -/
theorem touch_stays_lost (hlost : w.Lost) (run : Runs.Run Clients.step Environment w w') :
    w'.Lost ∧ ∀ a report, Environment w' (.readReport a) →
      (touchReadReport w'.touchContext w'.transport a).2.1 = some report → report = .empty := by
  have hstill : w'.Lost := by
    refine run.invariant hlost ?_
    intro s s' event h _ hstep
    rw [← Option.some.inj hstep]
    exact h.next event
  refine ⟨hstill, ?_⟩
  intro a report henvironment hreport
  obtain ⟨life, htarget, hold⟩ := hstill
  exact touchReadReport_undelivered _ _ (henvironment.2 life htarget (Nat.ne_of_lt hold)) hreport

theorem Client.sent_isSome (c : Client) (status : NTSTATUS) (kept : Bool) :
    (c.sent status kept).target.isSome = (kept && c.target.isSome) := by
  unfold Client.sent Client.keeping
  cases kept <;> rfl

/-- A try that gets its target leaves it, or closes it. -/
theorem sendTry_pipeline (chunkIndex : UInt32) (buffer : List UInt8) (a : TryAnswers) (s : PushState) :
    (sendTry chunkIndex buffer a s).2.pipeline = (ensureTransportTarget s.pipeline a.target).2 ∨
      NT_SUCCESS (ensureTransportTarget s.pipeline a.target).1 = true ∧
        (sendTry chunkIndex buffer a s).2.pipeline =
          closeTransportTarget (ensureTransportTarget s.pipeline a.target).2 := by
  unfold sendTry
  grind

/-- One try of the loop is one event. -/
theorem trySend_eq (w : Clients) (chunkIndex : UInt32) (buffer : List UInt8) (a : TryAnswers)
    {s : PushState} (hpipeline : s.pipeline = w.pipelineContext) (htransport : s.transport = w.transport) :
    (sendTry chunkIndex buffer a s).2.pipeline = (w.trySend chunkIndex buffer a).pipelineContext ∧
      (sendTry chunkIndex buffer a s).2.transport = (w.trySend chunkIndex buffer a).transport := by
  have hsame : (sendTry chunkIndex buffer a s).2.pipeline =
        (sendTry chunkIndex buffer a ⟨w.pipelineContext, w.transport, [], []⟩).2.pipeline ∧
      (sendTry chunkIndex buffer a s).2.transport =
        (sendTry chunkIndex buffer a ⟨w.pipelineContext, w.transport, [], []⟩).2.transport := by
    unfold sendTry
    rw [hpipeline, htransport]
    grind
  refine ⟨?_, hsame.2⟩
  rw [hsame.1]
  have hsome := ensure_isSome w a.target
  have hparent : (ensureTransportTarget w.pipelineContext a.target).2.parentDevice =
      w.parentDevice := by
    unfold ensureTransportTarget Clients.pipelineContext
    grind
  have hcontext : (ensureTransportTarget w.pipelineContext a.target).2 =
      ⟨w.parentDevice, (w.ensure a.target).pipeline.target.isSome⟩ := by
    rw [hsome, ← hparent]
  unfold Clients.trySend
  generalize hr : sendTry chunkIndex buffer a ⟨w.pipelineContext, w.transport, [], []⟩ = r
  have hcases := sendTry_pipeline chunkIndex buffer a ⟨w.pipelineContext, w.transport, [], []⟩
  rw [hr, hcontext] at hcases
  rw [Clients.pipelineContext]
  dsimp only at hcases ⊢
  rcases hcases with hkept | ⟨hok, hclosed⟩
  · rw [hkept]
    split
    · rw [Client.sent_isSome, Bool.and_self]
      rfl
    · rfl
  · rw [if_pos hok, hclosed, Client.sent_isSome]
    rfl

/-- **All tries of a chunk** are events of the pipeline: nothing else happens to the
clients in `SendIoctlWithRetry`. -/
theorem retryLoop_tries (chunkIndex : UInt32) (buffer : List UInt8) (answers : Nat → TryAnswers)
    (retriesLeft : Nat) (retryDelay : UInt32) {s : PushState} (hpipeline : s.pipeline = w.pipelineContext)
    (htransport : s.transport = w.transport) :
    ∃ tries : List TryAnswers, tries.length ≤ retriesLeft + 1 ∧
      ∃ w', Runs.after Clients.step w (tries.map (.pipelineTry chunkIndex buffer)) = some w' ∧
        (retryLoop chunkIndex buffer answers retriesLeft retryDelay s).2.pipeline =
          w'.pipelineContext ∧
        (retryLoop chunkIndex buffer answers retriesLeft retryDelay s).2.transport =
          w'.transport := by
  induction retriesLeft generalizing w s retryDelay with
  | zero =>
      have htry := trySend_eq w chunkIndex buffer (answers kMaxRetries) hpipeline htransport
      exact ⟨[answers kMaxRetries], Nat.le_refl 1, _, rfl, htry.1, htry.2⟩
  | succ retriesLeft ih =>
      have htry := trySend_eq w chunkIndex buffer (answers (kMaxRetries - (retriesLeft + 1)))
        hpipeline htransport
      rw [retryLoop]
      generalize sendTry chunkIndex buffer (answers (kMaxRetries - (retriesLeft + 1))) s = r at htry
      dsimp only
      split
      · exact ⟨[answers (kMaxRetries - (retriesLeft + 1))], Nat.le_add_left 1 _, _, rfl, htry.1, htry.2⟩
      · have hpipeline' : ({ r.2 with slept := r.2.slept ++ [retryDelay] } : PushState).pipeline =
            (w.trySend chunkIndex buffer
              (answers (kMaxRetries - (retriesLeft + 1)))).pipelineContext := htry.1
        obtain ⟨tries, hlength, w', hafter, hend⟩ :=
          ih (min (retryDelay * 2) kMaxRetryDelayMs) hpipeline' htry.2
        exact ⟨answers (kMaxRetries - (retriesLeft + 1)) :: tries, Nat.succ_le_succ hlength, w',
          hafter, hend⟩

end Runs

end Windows

end RpUsbDisp
