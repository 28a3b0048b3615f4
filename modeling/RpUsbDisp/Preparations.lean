import RpUsbDisp.Transport
import RpUsbDisp.Runs

/-!
# Preparations of the hardware

The framework prepares the device object of the transport when the device starts
and releases it when it stops, again and again over the life of the object.  A
preparation selects a configuration and scans its pipes for the three it needs.

The scan overwrites what it finds and clears nothing.  A kind of pipe that the new
configuration lacks keeps the pipe of a configuration that is gone, and the checks
after the scan only ask whether there is a pipe.  `preparations_current_iff` says
which preparations come to that.
-/

namespace RpUsbDisp

namespace Windows

/-! ## The scan -/

/-- The kinds of pipes that the context keeps. -/
inductive PipeKind where
  | bulkIn
  | bulkOut
  | interruptIn
  deriving DecidableEq

/-- Whether the scan takes a pipe for one of this kind. -/
def PipeKind.is : PipeKind → Pipe → Bool
  | .bulkIn, pipe => pipe.pipeType = .bulk ∧ pipe.isIn
  | .bulkOut, pipe => pipe.pipeType = .bulk ∧ ¬ pipe.isIn
  | .interruptIn, pipe => pipe.pipeType = .interrupt ∧ pipe.isIn

/-- The pipe of a kind that the context keeps. -/
def DeviceContext.pipe (context : DeviceContext) : PipeKind → Option Pipe
  | .bulkIn => context.bulkIn
  | .bulkOut => context.bulkOut
  | .interruptIn => context.interruptIn

/-- A list has a pipe of a kind. -/
def Lists (pipes : List Pipe) (kind : PipeKind) : Prop := ∃ pipe ∈ pipes, kind.is pipe = true

theorem configurePipe_pipe (context : DeviceContext) (pipe : Pipe) (kind : PipeKind) :
    (configurePipe context pipe).pipe kind =
      if kind.is pipe then some pipe else context.pipe kind := by
  unfold configurePipe
  cases kind <;> simp only [DeviceContext.pipe, PipeKind.is] <;> grind

/-- **The scan** of the pipes: of each kind the last one is kept, and without any the
pipe from before. -/
theorem scan_pipe (context : DeviceContext) (pipes : List Pipe) (kind : PipeKind) :
    (pipes.foldl configurePipe context).pipe kind =
      ((pipes.filter kind.is).getLast?).or (context.pipe kind) := by
  induction pipes generalizing context with
  | nil => rfl
  | cons pipe pipes ih =>
      rw [List.foldl_cons, ih, configurePipe_pipe, List.filter_cons]
      by_cases his : kind.is pipe = true
      · rw [if_pos his, if_pos his, List.getLast?_cons]
        cases (pipes.filter kind.is).getLast? <;> rfl
      · rw [if_neg his, if_neg his]

/-- What the scan leaves is from the list, or was there before and the list has none. -/
theorem scan_cases (context : DeviceContext) (pipes : List Pipe) (kind : PipeKind) :
    (∃ pipe ∈ pipes, kind.is pipe = true ∧
        (pipes.foldl configurePipe context).pipe kind = some pipe) ∨
      ¬ Lists pipes kind ∧ (pipes.foldl configurePipe context).pipe kind = context.pipe kind := by
  rw [scan_pipe]
  cases hlast : (pipes.filter kind.is).getLast? with
  | some pipe =>
      obtain ⟨hmem, his⟩ := List.mem_filter.mp (List.mem_of_getLast? hlast)
      exact .inl ⟨pipe, hmem, his, rfl⟩
  | none =>
      refine .inr ⟨?_, rfl⟩
      intro hlists
      obtain ⟨pipe, hmem, his⟩ := hlists
      have hnil : pipes.filter kind.is = [] := List.getLast?_eq_none_iff.mp hlast
      have hin : pipe ∈ pipes.filter kind.is := List.mem_filter.mpr ⟨hmem, his⟩
      rw [hnil] at hin
      cases hin

/-! ## One preparation -/

/-- The calls of a preparation succeed up to the scan. -/
structure PrepareAnswers.Configures (a : PrepareAnswers) : Prop where
  create : NT_SUCCESS a.create = true
  descriptor : NT_SUCCESS a.descriptor = true
  vendor : a.idVendor = kVendorId
  product : a.idProduct = kProductId
  selectConfig : NT_SUCCESS a.selectConfig = true
  hasInterface : a.hasInterface = true

/-- There is a pipe of this kind after the scan, a new one or one from before. -/
def Kept (context : DeviceContext) (a : PrepareAnswers) (kind : PipeKind) : Prop :=
  Lists a.pipes kind ∨ (context.pipe kind).isSome

/-- Nothing stops a preparation: every call succeeds, and after the scan there are
the pipes that the code asks for. -/
structure Serves (context : DeviceContext) (a : PrepareAnswers) : Prop where
  configures : a.Configures
  bulkIn : Kept context a .bulkIn
  bulkOut : Kept context a .bulkOut
  reader : Kept context a .interruptIn → NT_SUCCESS a.reader = true

/-- The pipe that `WdfUsbTargetPipeConfigContinuousReader` has been called on with
success, if a preparation gets there. -/
def readerPipe (context : DeviceContext) (a : PrepareAnswers) : Option Pipe :=
  if ¬ NT_SUCCESS a.create then none
  else if ¬ NT_SUCCESS a.descriptor then none
  else if a.idVendor ≠ kVendorId ∨ a.idProduct ≠ kProductId then none
  else if ¬ NT_SUCCESS a.selectConfig then none
  else if ¬ a.hasInterface then none
  else
    let context := a.pipes.foldl configurePipe context
    if context.bulkIn = none ∨ context.bulkOut = none then none
    else if ¬ NT_SUCCESS a.reader then none
    else context.interruptIn

/-- The pipes of the context are pipes of this configuration. -/
structure DeviceContext.PipesOf (context : DeviceContext) (pipes : List Pipe) : Prop where
  bulkIn : ∃ pipe ∈ pipes, context.bulkIn = some pipe
  bulkOut : ∃ pipe ∈ pipes, context.bulkOut = some pipe
  interruptIn : ∀ pipe, context.interruptIn = some pipe → pipe ∈ pipes

/-- **What a preparation is to do.**  If it succeeds, it leaves pipes of its own
configuration, with the reader on the interrupt pipe; if it fails, the device is not
ready. -/
structure Prepares (context : DeviceContext) (a : PrepareAnswers) : Prop where
  pipes : NT_SUCCESS (usbDevicePrepareHardware context a).1 = true →
    (usbDevicePrepareHardware context a).2.PipesOf a.pipes
  reader : NT_SUCCESS (usbDevicePrepareHardware context a).1 = true →
    readerPipe context a = (usbDevicePrepareHardware context a).2.interruptIn
  failed : NT_SUCCESS (usbDevicePrepareHardware context a).1 = false →
    (usbDevicePrepareHardware context a).2.deviceReady = false

section Preparation

variable {context : DeviceContext} {a : PrepareAnswers}

theorem kept_iff (context : DeviceContext) (a : PrepareAnswers) (kind : PipeKind) :
    Kept context a kind ↔ (a.pipes.foldl configurePipe context).pipe kind ≠ none := by
  rcases scan_cases context a.pipes kind with ⟨pipe, hmem, his, hscan⟩ | ⟨hnone, hscan⟩
  · rw [hscan]
    exact iff_of_true (.inl ⟨pipe, hmem, his⟩) (Option.some_ne_none pipe)
  · rw [hscan, Kept, Option.isSome_iff_ne_none]
    exact or_iff_right hnone

theorem scan_deviceReady (context : DeviceContext) (pipes : List Pipe) :
    (pipes.foldl configurePipe context).deviceReady = context.deviceReady := by
  induction pipes generalizing context with
  | nil => rfl
  | cons pipe pipes ih =>
      rw [List.foldl_cons, ih]
      unfold configurePipe
      grind

/-- A preparation whose calls up to the scan succeed is left to the scan. -/
theorem prepareHardware_configured (context : DeviceContext) (h : a.Configures) :
    (usbDevicePrepareHardware context a =
      let scanned := a.pipes.foldl configurePipe context
      if scanned.bulkIn = none ∨ scanned.bulkOut = none then (STATUS_INVALID_DEVICE_STATE, scanned)
      else if scanned.interruptIn ≠ none ∧ ¬ NT_SUCCESS a.reader then (a.reader, scanned)
      else (STATUS_SUCCESS, { scanned with deviceReady := true })) ∧
    (readerPipe context a =
      let scanned := a.pipes.foldl configurePipe context
      if scanned.bulkIn = none ∨ scanned.bulkOut = none then none
      else if ¬ NT_SUCCESS a.reader then none
      else scanned.interruptIn) := by
  have hids : ¬ (a.idVendor ≠ kVendorId ∨ a.idProduct ≠ kProductId) := by
    intro hne
    rcases hne with hne | hne
    · exact hne h.vendor
    · exact hne h.product
  unfold usbDevicePrepareHardware readerPipe
  simp only [h.create, h.descriptor, hids, h.selectConfig, h.hasInterface, not_true_eq_false,
    if_false, and_self]

/-- A preparation that is stopped before the scan fails and changes nothing. -/
theorem prepareHardware_unconfigured (context : DeviceContext) (h : ¬ a.Configures) :
    NT_SUCCESS (usbDevicePrepareHardware context a).1 = false ∧
      (usbDevicePrepareHardware context a).2 = context := by
  have hrequest : NT_SUCCESS STATUS_INVALID_DEVICE_REQUEST = false := rfl
  have hstate : NT_SUCCESS STATUS_INVALID_DEVICE_STATE = false := rfl
  have hfields : ¬ (NT_SUCCESS a.create = true ∧ NT_SUCCESS a.descriptor = true ∧
      a.idVendor = kVendorId ∧ a.idProduct = kProductId ∧ NT_SUCCESS a.selectConfig = true ∧
      a.hasInterface = true) := by
    intro hall
    obtain ⟨hcreate, hdescriptor, hvendor, hproduct, hselect, hinterface⟩ := hall
    exact h ⟨hcreate, hdescriptor, hvendor, hproduct, hselect, hinterface⟩
  unfold usbDevicePrepareHardware
  grind

/-- **How a preparation ends.** -/
theorem prepareHardware_cases (context : DeviceContext) (a : PrepareAnswers) :
    Serves context a ∧ usbDevicePrepareHardware context a =
        (STATUS_SUCCESS, { a.pipes.foldl configurePipe context with deviceReady := true }) ∧
        readerPipe context a = (a.pipes.foldl configurePipe context).interruptIn ∨
      ¬ Serves context a ∧ NT_SUCCESS (usbDevicePrepareHardware context a).1 = false ∧
        (usbDevicePrepareHardware context a).2.deviceReady = context.deviceReady := by
  by_cases hconfigures : a.Configures
  · obtain ⟨hprepare, hreader⟩ := prepareHardware_configured context hconfigures
    have hready := scan_deviceReady context a.pipes
    have hin := kept_iff context a .bulkIn
    have hout := kept_iff context a .bulkOut
    have hint := kept_iff context a .interruptIn
    simp only [DeviceContext.pipe] at hin hout hint
    have hstate : NT_SUCCESS STATUS_INVALID_DEVICE_STATE = false := rfl
    have hserves : Serves context a ↔ Kept context a .bulkIn ∧ Kept context a .bulkOut ∧
        (Kept context a .interruptIn → NT_SUCCESS a.reader = true) := by
      constructor
      · exact fun h => ⟨h.bulkIn, h.bulkOut, h.reader⟩
      · exact fun h => ⟨hconfigures, h.1, h.2.1, h.2.2⟩
    rw [hserves, hin, hout, hint, hprepare, hreader]
    generalize a.pipes.foldl configurePipe context = scanned at hready ⊢
    grind
  · obtain ⟨hfails, hsame⟩ := prepareHardware_unconfigured context hconfigures
    refine .inr ⟨fun hserves => hconfigures hserves.configures, hfails, ?_⟩
    rw [hsame]

/-- Stored pipes are of the kind they are stored for. -/
def DeviceContext.Typed (context : DeviceContext) : Prop :=
  ∀ kind pipe, context.pipe kind = some pipe → kind.is pipe = true

theorem DeviceContext.Typed.scan (h : context.Typed) (pipes : List Pipe) :
    (pipes.foldl configurePipe context).Typed := by
  intro kind pipe hpipe
  rcases scan_cases context pipes kind with ⟨found, _, his, hscan⟩ | ⟨_, hscan⟩
  · rw [hscan] at hpipe
    rw [← Option.some.inj hpipe]
    exact his
  · rw [hscan] at hpipe
    exact h kind pipe hpipe

/-- Pipes of a configuration, kind by kind. -/
theorem pipesOf_iff (context : DeviceContext) (pipes : List Pipe) :
    context.PipesOf pipes ↔ context.pipe .bulkIn ≠ none ∧ context.pipe .bulkOut ≠ none ∧
      ∀ kind pipe, context.pipe kind = some pipe → pipe ∈ pipes := by
  constructor
  · intro h
    obtain ⟨bulkIn, hin, hbulkIn⟩ := h.bulkIn
    obtain ⟨bulkOut, hout, hbulkOut⟩ := h.bulkOut
    refine ⟨?_, ?_, ?_⟩
    · rw [DeviceContext.pipe, hbulkIn]
      exact Option.some_ne_none bulkIn
    · rw [DeviceContext.pipe, hbulkOut]
      exact Option.some_ne_none bulkOut
    · intro kind pipe hpipe
      cases kind with
      | bulkIn => exact Option.some.inj (hbulkIn.symm.trans hpipe) ▸ hin
      | bulkOut => exact Option.some.inj (hbulkOut.symm.trans hpipe) ▸ hout
      | interruptIn => exact h.interruptIn pipe hpipe
  · intro h
    obtain ⟨hin, hout, hall⟩ := h
    obtain ⟨bulkIn, hbulkIn⟩ := Option.ne_none_iff_exists'.mp hin
    obtain ⟨bulkOut, hbulkOut⟩ := Option.ne_none_iff_exists'.mp hout
    exact ⟨⟨bulkIn, hall _ _ hbulkIn, hbulkIn⟩, ⟨bulkOut, hall _ _ hbulkOut, hbulkOut⟩,
      fun pipe hpipe => hall .interruptIn pipe hpipe⟩

/-- What makes a preparation do what it is to do: if it fails, the device was not
ready before it; and if nothing stops it, it finds a new pipe of every kind that the
context has. -/
structure Replaces (context : DeviceContext) (a : PrepareAnswers) : Prop where
  failed : ¬ Serves context a → context.deviceReady = false
  replaced : Serves context a → ∀ kind, (context.pipe kind).isSome → Lists a.pipes kind

/-- The scan leaves only pipes of the list exactly if it replaces all there were. -/
theorem scan_pipesOf_iff (htyped : context.Typed) (hserves : Serves context a) :
    (a.pipes.foldl configurePipe context).PipesOf a.pipes ↔
      ∀ kind, (context.pipe kind).isSome → Lists a.pipes kind := by
  rw [pipesOf_iff]
  constructor
  · intro h kind hstored
    obtain ⟨_, _, hall⟩ := h
    obtain ⟨pipe, hpipe⟩ := Option.ne_none_iff_exists'.mp
      ((kept_iff context a kind).mp (.inr hstored))
    exact ⟨pipe, hall kind pipe hpipe, htyped.scan a.pipes kind pipe hpipe⟩
  · intro hreplaced
    refine ⟨(kept_iff context a _).mp hserves.bulkIn, (kept_iff context a _).mp hserves.bulkOut, ?_⟩
    intro kind pipe hpipe
    rcases scan_cases context a.pipes kind with ⟨found, hmem, _, hscan⟩ | ⟨hnone, hscan⟩
    · rw [hscan] at hpipe
      exact Option.some.inj hpipe ▸ hmem
    · rw [hscan] at hpipe
      refine absurd (hreplaced kind ?_) hnone
      rw [hpipe]
      rfl

/-- **When a preparation does what it is to do.** -/
theorem prepares_iff (htyped : context.Typed) : Prepares context a ↔ Replaces context a := by
  rcases prepareHardware_cases context a with ⟨hserves, hend, hreader⟩ | ⟨hstopped, hfails, hready⟩
  · have hpipes := scan_pipesOf_iff htyped hserves
    constructor
    · intro h
      have hof : (usbDevicePrepareHardware context a).2.PipesOf a.pipes := by
        apply h.pipes
        rw [hend]
        rfl
      rw [hend] at hof
      refine ⟨fun hnot => absurd hserves hnot, fun _ => hpipes.mp ?_⟩
      exact ⟨hof.bulkIn, hof.bulkOut, hof.interruptIn⟩
    · intro h
      have hof := hpipes.mpr (h.replaced hserves)
      constructor
      · intro _
        rw [hend]
        exact ⟨hof.bulkIn, hof.bulkOut, hof.interruptIn⟩
      · intro _
        rw [hend, hreader]
      · intro hfails
        rw [hend] at hfails
        cases hfails
  · constructor
    · intro h
      refine ⟨fun _ => ?_, fun hserves => absurd hserves hstopped⟩
      rw [← hready]
      exact h.failed hfails
    · intro h
      constructor
      · intro hsucceeds
        rw [hfails] at hsucceeds
        cases hsucceeds
      · intro hsucceeds
        rw [hfails] at hsucceeds
        cases hsucceeds
      · intro _
        rw [hready]
        exact h.failed hstopped

end Preparation

section Runs

/-! ## Runs -/

/-- The device object over its life, with the configuration that the last preparation
selected that succeeded, and whether that was the last of all. -/
structure Hardware where
  context : DeviceContext
  selected : List Pipe
  prepared : Bool

/-- A new device object. -/
def Hardware.created : Hardware := ⟨.created, [], false⟩

def Hardware.next (h : Hardware) : TransportEvent → Hardware
  | .prepareHardware a =>
      let r := usbDevicePrepareHardware h.context a
      { context := r.2
        selected := if NT_SUCCESS r.1 then a.pipes else h.selected
        prepared := NT_SUCCESS r.1 }
  | event => { h with context := step h.context event }

/-- Every event can happen at any time. -/
def Hardware.step (h : Hardware) (event : TransportEvent) : Option Hardware := some (h.next event)

/-- The framework powers up only what has been prepared with success. -/
def PoweredUpPrepared (h : Hardware) : TransportEvent → Prop
  | .d0Entry _ => h.prepared = true
  | _ => True

/-- **Only current pipes are used**: a preparation does what it is to do, and while the
device is ready, its pipes are of the last configuration selected with success. -/
structure PipesCurrent (h : Hardware) (event : TransportEvent) : Prop where
  prepares : ∀ a, event = .prepareHardware a → Prepares h.context a
  ready : (h.next event).context.deviceReady = true →
    (h.next event).context.PipesOf (h.next event).selected

/-- Every preparation replaces the pipes that it finds. -/
def ReplacesPipes (h : Hardware) : TransportEvent → Prop
  | .prepareHardware a => Replaces h.context a
  | _ => True

/-- What holds between two events. -/
structure Hardware.Sound (h : Hardware) : Prop where
  typed : h.context.Typed
  prepared : h.prepared = true → h.context.PipesOf h.selected
  ready : h.context.deviceReady = true → h.context.PipesOf h.selected

/-- A request changes nothing but the statistics. -/
theorem ioctl_frame (context : DeviceContext) (r : Request) (a : IoctlAnswers) :
    ∃ statistics, (usbDeviceIoDeviceControl context r a).context =
      { context with statistics := statistics } := by
  by_cases hpushes : r.Pushes a
  · rw [ioctl_pushes_eq context hpushes]
    exact ⟨_, rfl⟩
  · exact ⟨context.statistics, (ioctl_harmless context hpushes).context_eq⟩

/-- What an event that is no preparation does to the pipes and to `DeviceReady`. -/
theorem step_keeps (context : DeviceContext) {event : TransportEvent}
    (hevent : ∀ a, event ≠ .prepareHardware a) :
    (step context event).pipe = context.pipe ∧
      ((step context event).deviceReady = true →
        context.deviceReady = true ∨ ∃ previousState, event = .d0Entry previousState) := by
  cases event with
  | prepareHardware a => exact absurd rfl (hevent a)
  | releaseHardware =>
      refine ⟨rfl, ?_⟩
      intro hready
      cases hready
  | d0Entry previousState =>
      refine ⟨?_, fun _ => .inr ⟨previousState, rfl⟩⟩
      rw [step, usbDeviceD0Entry]
      split <;> rfl
  | d0Exit targetState =>
      rw [step, usbDeviceD0Exit]
      split
      · refine ⟨rfl, ?_⟩
        intro hready
        cases hready
      · exact ⟨rfl, .inl⟩
  | interrupt packet =>
      rw [step]
      cases packet with
      | touch contact =>
          rw [usbInterruptCompletion]
          split <;> exact ⟨rfl, .inl⟩
      | status lastFrameAcked errorCode => exact ⟨rfl, .inl⟩
      | unknown packetType => exact ⟨rfl, .inl⟩
  | request r a =>
      obtain ⟨statistics, hframe⟩ := ioctl_frame context r a
      rw [step, hframe]
      exact ⟨rfl, .inl⟩

theorem DeviceContext.Typed.prepareHardware {context : DeviceContext} (h : context.Typed)
    (a : PrepareAnswers) : (usbDevicePrepareHardware context a).2.Typed := by
  by_cases hconfigures : a.Configures
  · have hscan := h.scan a.pipes
    rw [(prepareHardware_configured context hconfigures).1]
    dsimp only
    split
    · exact hscan
    split
    · exact hscan
    · exact hscan
  · rw [(prepareHardware_unconfigured context hconfigures).2]
    exact h

theorem pipesOf_congr {context context' : DeviceContext} (h : context'.pipe = context.pipe)
    (pipes : List Pipe) : context'.PipesOf pipes ↔ context.PipesOf pipes := by
  rw [pipesOf_iff, pipesOf_iff, h]

/-- **One preparation in a run.** -/
theorem pipesCurrent_prepare {h : Hardware} (hsound : h.Sound) (a : PrepareAnswers) :
    PipesCurrent h (.prepareHardware a) ↔ ReplacesPipes h (.prepareHardware a) := by
  constructor
  · intro hcurrent
    exact (prepares_iff hsound.typed).mp (hcurrent.prepares a rfl)
  · intro hreplaces
    have hprepares := (prepares_iff hsound.typed).mpr hreplaces
    constructor
    · intro b hb
      cases hb
      exact hprepares
    · intro hready
      cases hstatus : NT_SUCCESS (usbDevicePrepareHardware h.context a).1 with
      | true =>
          rw [Hardware.next, hstatus]
          exact hprepares.pipes hstatus
      | false =>
          have hnot := hprepares.failed hstatus
          rw [Hardware.next, hnot] at hready
          cases hready

/-- **Every other event** uses the pipes that are there. -/
theorem pipesCurrent_other {h : Hardware} (hsound : h.Sound) {event : TransportEvent}
    (hevent : ∀ a, event ≠ .prepareHardware a) (horder : PoweredUpPrepared h event) :
    PipesCurrent h event ∧ (h.next event).Sound := by
  have hnext : h.next event = { h with context := Windows.step h.context event } := by
    cases event with
    | prepareHardware a => exact absurd rfl (hevent a)
    | _ => rfl
  obtain ⟨hpipe, hready⟩ := step_keeps h.context hevent
  have hof := pipesOf_congr hpipe h.selected
  have hcurrent : (h.next event).context.deviceReady = true →
      (h.next event).context.PipesOf (h.next event).selected := by
    rw [hnext]
    intro hnow
    rcases hready hnow with hbefore | ⟨previousState, hentry⟩
    · exact hof.mpr (hsound.ready hbefore)
    · rw [hentry] at horder
      exact hof.mpr (hsound.prepared horder)
  refine ⟨⟨fun a ha => absurd ha (hevent a), hcurrent⟩, ⟨?_, ?_, hcurrent⟩⟩
  · rw [hnext, DeviceContext.Typed, hpipe]
    exact hsound.typed
  · rw [hnext]
    exact fun hprepared => hof.mpr (hsound.prepared hprepared)

/-- **The step**: what an event is to do, and what holds after it. -/
theorem pipesCurrent_iff {h : Hardware} (hsound : h.Sound) {event : TransportEvent}
    (horder : PoweredUpPrepared h event) :
    (PipesCurrent h event ↔ ReplacesPipes h event) ∧
      (ReplacesPipes h event → (h.next event).Sound) := by
  by_cases hprepare : ∃ a, event = .prepareHardware a
  · obtain ⟨a, rfl⟩ := hprepare
    have hiff := pipesCurrent_prepare hsound a
    refine ⟨hiff, fun hreplaces => ?_⟩
    have hcurrent := hiff.mpr hreplaces
    refine ⟨hsound.typed.prepareHardware a, ?_, hcurrent.ready⟩
    intro hprepared
    have hstatus : NT_SUCCESS (usbDevicePrepareHardware h.context a).1 = true := hprepared
    rw [Hardware.next, hstatus]
    exact (hcurrent.prepares a rfl).pipes hstatus
  · have hevent : ∀ a, event ≠ .prepareHardware a := fun a ha => hprepare ⟨a, ha⟩
    obtain ⟨hcurrent, hnext⟩ := pipesCurrent_other hsound hevent horder
    refine ⟨iff_of_true hcurrent ?_, fun _ => hnext⟩
    cases event with
    | prepareHardware a => exact absurd rfl (hevent a)
    | _ => trivial

theorem Hardware.created_sound : Hardware.created.Sound := by
  constructor
  · intro kind pipe hpipe
    cases kind <;> cases hpipe
  · intro hprepared
    cases hprepared
  · intro hready
    cases hready

/-- **When only current pipes are used.**  In every run of preparations, releases, power
changes, interrupts and requests, each of any outcome, in which the framework powers up
only what has been prepared: every event uses current pipes exactly if every
preparation replaces the pipes that it finds. -/
theorem preparations_current_iff (events : List TransportEvent)
    (horder : Runs.AllowedThrough Hardware.step PoweredUpPrepared .created events) :
    Runs.AllowedThrough Hardware.step PipesCurrent .created events ↔
      Runs.AllowedThrough Hardware.step ReplacesPipes .created events := by
  have hiff : ∀ h event, h.Sound → PoweredUpPrepared h event →
      (PipesCurrent h event ↔ ReplacesPipes h event) :=
    fun h event hsound hnow => (pipesCurrent_iff hsound hnow).1
  have hkeep : ∀ h h' event, h.Sound → PoweredUpPrepared h event → ReplacesPipes h event →
      h.step event = some h' → h'.Sound := by
    intro h h' event hsound hnow hreplaces hstep
    rw [← Option.some.inj hstep]
    exact (pipesCurrent_iff hsound hnow).2 hreplaces
  exact Runs.allowedThrough_iff hiff hkeep Hardware.created_sound horder

theorem pluggedIn_lists (kind : PipeKind) : Lists pluggedIn.pipes kind := by
  cases kind with
  | bulkIn => exact ⟨⟨1, .bulk, true⟩, List.mem_cons_self, rfl⟩
  | bulkOut => exact ⟨⟨2, .bulk, false⟩, List.mem_cons_of_mem _ List.mem_cons_self, rfl⟩
  | interruptIn =>
      exact ⟨⟨3, .interrupt, true⟩,
        List.mem_cons_of_mem _ (List.mem_cons_of_mem _ List.mem_cons_self), rfl⟩

/-- The device is started, stopped and started again. -/
theorem preparations_current_restarted :
    Runs.AllowedThrough Hardware.step PipesCurrent .created
      [.prepareHardware pluggedIn, .d0Entry .d3Final, .releaseHardware,
        .prepareHardware pluggedIn] := by
  have hreplaces : ∀ context : DeviceContext, context.deviceReady = false →
      Replaces context pluggedIn :=
    fun _ hnot => ⟨fun _ => hnot, fun _ kind _ => pluggedIn_lists kind⟩
  refine (preparations_current_iff _ ?_).mpr ?_
  · refine (Runs.allowedThrough_cons rfl).mpr ⟨trivial, ?_⟩
    refine (Runs.allowedThrough_cons rfl).mpr ⟨rfl, ?_⟩
    refine (Runs.allowedThrough_cons rfl).mpr ⟨trivial, ?_⟩
    exact (Runs.allowedThrough_cons rfl).mpr ⟨trivial, trivial⟩
  · refine (Runs.allowedThrough_cons rfl).mpr ⟨hreplaces _ rfl, ?_⟩
    refine (Runs.allowedThrough_cons rfl).mpr ⟨trivial, ?_⟩
    refine (Runs.allowedThrough_cons rfl).mpr ⟨trivial, ?_⟩
    exact (Runs.allowedThrough_cons rfl).mpr ⟨hreplaces _ rfl, trivial⟩

/-- The device comes back without its interrupt pipe. -/
def withoutTouch : PrepareAnswers :=
  { pluggedIn with pipes := [⟨4, .bulk, true⟩, ⟨5, .bulk, false⟩] }

/-- The second preparation succeeds with the interrupt pipe of the first. -/
theorem stale_interrupt_pipe :
    ¬ Runs.AllowedThrough Hardware.step PipesCurrent .created
      [.prepareHardware pluggedIn, .releaseHardware, .prepareHardware withoutTouch] := by
  intro hcurrent
  have hlast := (((hcurrent.2 _ rfl).2 _ rfl).1).prepares withoutTouch rfl
  have hmem := (hlast.pipes rfl).interruptIn ⟨3, .interrupt, true⟩ rfl
  revert hmem
  decide

end Runs

end Windows

end RpUsbDisp
