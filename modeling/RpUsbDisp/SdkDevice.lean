import RpUsbDisp.Interleaving
import RpUsbDisp.Runs
import RpUsbDisp.SdkCommands
import RpUsbDisp.StatusPackets

/-!
# A display of the SDK

`RoboPeakUsbDisplayDeviceImpl` as a program of many threads.  Application threads call it, a
status thread of its own fetches status packets from the time it is enabled, and the thread of
the `Pipeline` has libusb complete the transfers.  They share `statusLock_` and what it guards, the
once flag of `enable`, the atomic `working_`, and the transfers.

What a call does between two of these is of no concern to anybody else, so it is the `run` of
`SdkCommands`; the status that a command is marked with is read under the lock in the middle of
it.  The status thread is a round of its loop at a time.  A callback runs in the status thread,
with `statusLock_` held, and may call the display itself.

An exception that nobody catches ends the process: `std::terminate`.
-/

namespace RpUsbDisp.SdkDevice

open Programs Sdk StatusPackets Hotplug

/-! ## Data -/

/-- `TransferStatus`. -/
inductive TransferStatus where
  | completed
  | cancelled
  | error
  | timeout
  | stall
  | deviceError
  | overflow
  | unknown
  deriving DecidableEq

/-- The calls of the class.  A callback is known by a number, and a command comes with what
the allocations and libusb answer to it. -/
inductive ApiCall where
  | getStatus
  | setStatusUpdatedCallback (callback : Option Nat)
  | isAlive
  | draw (call : DisplayCall) (env : Environment)
  | enable (first second : Environment)

/-- What does not change: the machine, the device, the application's callbacks, which make some
calls themselves, and what memory holds that nobody has written. -/
structure Config where
  host : HostOrder
  maxPacketSize : CInt
  firmwareVersion : UInt16
  reactions : Nat → StatusNormalPacket → List ApiCall
  garbage : StatusBuffer

/-- What is submitted to the display endpoint, and the call it belongs to. -/
structure Sent (cfg : Config) where
  caller : Nat
  env : Environment
  call : DisplayCall
  submission : Submission
  run_eq : call.run env cfg.host cfg.maxPacketSize cfg.firmwareVersion = .ok submission

/-- `once_flag`. -/
inductive OnceFlag where
  | fresh
  | running
  | done
  deriving DecidableEq

/-- `statusFetchingThread_`. -/
inductive StatusThread where
  | none
  | created
  | running
  | ended
  | joined
  deriving DecidableEq

/-- `TransferImpl`, and whether libusb has the transfer. -/
structure TransferImpl where
  inFlight : Bool
  completion : Bool
  status : TransferStatus
  buffer : StatusBuffer

/-- How a thread comes to an end, or the status thread to the end of a round. -/
inductive Outcome where
  | done
  | status (status : StatusNormalPacket)
  | alive (working : Bool)
  | threw
  | again (t : Nat)
  | ended
  | disposed

/-- A call that is over. -/
structure Finished where
  number : Nat
  call : ApiCall
  outcome : Outcome

/-- What the threads share.  `otherPipelines` is whether another display of the process keeps a
pipeline running.  The last five fields are not in the code: how many threads there were, what
was submitted to the display endpoint, which status packets were published, which callbacks were
called, and which calls are over. -/
structure State (cfg : Config) where
  statusLock : Bool
  status : StatusNormalPacket
  callback : Option Nat
  once : OnceFlag
  working : Bool
  statusThread : StatusThread
  pipeline : Bool
  otherPipelines : Bool
  transfers : Nat → Option TransferImpl
  nextTransfer : Nat
  disposing : Bool
  nextNumber : Nat
  wire : List (Sent cfg)
  published : List StatusNormalPacket
  invoked : List (Nat × StatusNormalPacket)
  finished : List Finished

/-! ## Operations -/

/-- What the threads do atomically.  `summonPipeline` also starts it, and `testWorking` is the
condition of the loop of the status thread. -/
inductive SdkOp (cfg : Config) where
  | lockStatus
  | unlockStatus
  | loadStatus
  | storeStatus (status : StatusNormalPacket)
  | loadCallback
  | storeCallback (callback : Option Nat)
  | invokeCallback (callback : Nat) (status : StatusNormalPacket)
  | onceBegin
  | onceEnd (returned : Bool)
  | summonPipeline
  | loadWorking
  | testWorking
  | storeWorking (working : Bool)
  | createThread
  | allocTransfer
  | setTransferBuffer (t : Nat)
  | submitStatus (t : Nat)
  | submitDisplay (t : Nat) (sent : Sent cfg)
  | waitForCompletion (t : Nat)
  | transferStatus (t : Nat)
  | decodeStatus (t : Nat)
  | freeTransfer (t : Nat)
  | clearEndpointHalt
  | sleepFor
  | joinable
  | join
  | releasePipeline
  | releaseInterface

@[reducible] def SdkOp.Res {cfg : Config} : SdkOp cfg → Type
  | .loadStatus => StatusNormalPacket
  | .loadCallback => Option Nat
  | .onceBegin => Bool
  | .summonPipeline => Bool
  | .loadWorking => Bool
  | .testWorking => Bool
  | .createThread => Bool
  | .allocTransfer => Option Nat
  | .setTransferBuffer _ => Bool
  | .submitStatus _ => Int
  | .submitDisplay _ _ => Int
  | .transferStatus _ => TransferStatus
  | .decodeStatus _ => Option StatusNormalPacket
  | .clearEndpointHalt => Int
  | .joinable => Bool
  | .releaseInterface => Bool
  | _ => Unit

abbrev SdkProg (cfg : Config) (α : Type) := Prog (SdkOp cfg) SdkOp.Res α

/-- One operation. -/
abbrev ask {cfg : Config} (o : SdkOp cfg) : SdkProg cfg o.Res := Prog.ask o

/-- `std::terminate`. -/
def terminate {cfg : Config} {α : Type} : SdkProg cfg α := .fault .oops

section Programs

variable (cfg : Config)

/-! ## Calls -/

/-- `getStatus`. -/
def getStatus : SdkProg cfg Outcome := do
  ask .lockStatus
  let status ← ask .loadStatus
  ask .unlockStatus
  return .status status

/-- `setStatusUpdatedCallback`. -/
def setStatusUpdatedCallback (callback : Option Nat) : SdkProg cfg Outcome := do
  ask .lockStatus
  ask (.storeCallback callback)
  ask .unlockStatus
  return .done

/-- `isAlive`. -/
def isAlive : SdkProg cfg Outcome := do
  let working ← ask .loadWorking
  return .alive working

/-- The end of `sendCommandToDisplayEndpoint`.  The transfer is freed when it goes out of scope. -/
def sendTransfer (sent : Sent cfg) : SdkProg cfg Outcome := do
  match ← ask .allocTransfer with
  | none => return .threw
  | some t =>
      let result ← ask (.submitDisplay t sent)
      if result ≠ 0 then
        ask (.freeTransfer t)
        return .threw
      else
        ask (.waitForCompletion t)
        let status ← ask (.transferStatus t)
        ask (.freeTransfer t)
        if status = .completed then return .done else return .threw

/-- `packetCount` of a command whose payload is prepared. -/
def packetCount (call : DisplayCall) (env : Environment) : Nat :=
  match call.prepare env cfg.host cfg.firmwareVersion with
  | .ok payload =>
      let totalSize := sizeAdd (call.struct cfg.host cfg.firmwareVersion).toBytes.length
        (payloadBytes payload).length
      sizeSub (sizeAdd (sizeSub totalSize 1) (sizeOfInt cfg.maxPacketSize.val)) 1 /
        sizeOfInt (cfg.maxPacketSize.val - 1)
  | .error _ => 0

/-- The status the first packet is marked with, if there is one. -/
def markedStatus (call : DisplayCall) (env : Environment) : SdkProg cfg UInt8 :=
  if packetCount cfg call env = 0 then return 0
  else do
    ask .lockStatus
    let status ← ask .loadStatus
    ask .unlockStatus
    return status.displayStatus

/-- What a command comes to as long as libusb has not been asked. -/
def prepared (call : DisplayCall) (env : Environment) (displayStatus : UInt8) :
    Except Stop Submission :=
  call.run { env with displayStatus := displayStatus, transferAllocated := true, submitAccepted := true }
    cfg.host cfg.maxPacketSize cfg.firmwareVersion

/-- The four display commands: everything is allocated before the status is looked at. -/
def draw (number : Nat) (call : DisplayCall) (env : Environment) : SdkProg cfg Outcome :=
  match prepared cfg call env 0 with
  | .error .throws => return .threw
  | .error _ => .fault .oops
  | .ok _ => do
      let displayStatus ← markedStatus cfg call env
      match h : prepared cfg call env displayStatus with
      | .error _ => .fault .oops
      | .ok submission => sendTransfer cfg ⟨number, _, call, submission, h⟩

/-- `doEnable_`, with the lock held. -/
def doEnable : SdkProg cfg Bool := do
  if ← ask .summonPipeline then
    ask (.storeWorking true)
    ask .createThread
  else return false

/-- The two fills of `enable`. -/
def fillTwice (number : Nat) (first second : Environment) : SdkProg cfg Outcome := do
  match ← draw cfg number (.fill 0xcb20) first with
  | .done =>
      ask .sleepFor
      draw cfg number (.fill 0xcb20) second
  | outcome => return outcome

/-- `enable`.  An exception out of `call_once` leaves its flag as it was. -/
def enable (number : Nat) (first second : Environment) : SdkProg cfg Outcome := do
  if ← ask .onceBegin then
    ask .lockStatus
    let returned ← doEnable cfg
    ask .unlockStatus
    ask (.onceEnd returned)
    if returned then fillTwice cfg number first second else return .threw
  else fillTwice cfg number first second

/-- A call as a program. -/
def ApiCall.prog (number : Nat) : ApiCall → SdkProg cfg Outcome
  | .getStatus => SdkDevice.getStatus cfg
  | .setStatusUpdatedCallback callback => SdkDevice.setStatusUpdatedCallback cfg callback
  | .isAlive => SdkDevice.isAlive cfg
  | .draw call env => SdkDevice.draw cfg number call env
  | .enable first second => SdkDevice.enable cfg number first second

/-! ## The status thread -/

/-- The calls of a callback: whether it returns, or throws what one of them throws. -/
def react (number : Nat) : List ApiCall → SdkProg cfg Bool
  | [] => return true
  | call :: calls => do
      match ← call.prog cfg number with
      | .threw => return false
      | _ => react number calls

/-- The beginning of `statusFetchingWorker_`. -/
def statusFetchingWorker : SdkProg cfg Outcome := do
  match ← ask .allocTransfer with
  | none => terminate
  | some t =>
      if ← ask (.setTransferBuffer t) then return .again t
      else terminate

/-- What is done about a packet, with the lock held until the callback is back. -/
def publish (number : Nat) (t : Nat) (status : StatusNormalPacket) : SdkProg cfg Outcome := do
  ask .lockStatus
  ask (.storeStatus status)
  match ← ask .loadCallback with
  | none =>
      ask .unlockStatus
      return .again t
  | some callback =>
      ask (.invokeCallback callback status)
      if ← react cfg number (cfg.reactions callback status) then
        ask .unlockStatus
        return .again t
      else terminate

/-- A round of the loop of `statusFetchingWorker_`. -/
def workerRound (number : Nat) (t : Nat) : SdkProg cfg Outcome := do
  if ← ask .testWorking then
    let result ← ask (.submitStatus t)
    if result ≠ 0 then
      ask (.storeWorking false)
      ask (.freeTransfer t)
      return .ended
    else
      ask (.waitForCompletion t)
      match ← ask (.transferStatus t) with
      | .completed =>
          match ← ask (.decodeStatus t) with
          | none => terminate
          | some status => publish cfg number t status
      | .stall =>
          let result ← ask .clearEndpointHalt
          if result ≠ 0 then terminate else return .again t
      | _ => return .again t
  else
    ask (.freeTransfer t)
    return .ended

/-! ## The end -/

/-- The members of the class: the pipeline goes before the interface. -/
def release : SdkProg cfg Outcome := do
  ask .releasePipeline
  if ← ask .releaseInterface then return .disposed else terminate

/-- `~RoboPeakUsbDisplayDeviceImpl`, and its members. -/
def destroy : SdkProg cfg Outcome := do
  ask (.storeWorking false)
  if ← ask .joinable then
    ask .join
    release cfg
  else release cfg

end Programs

section Threads

/-! ## Threads -/

/-- Who runs. -/
inductive Role where
  | call (c : ApiCall)
  | worker
  | destructor

/-- How far a thread has got with `doEnable_`, or with the destructor. -/
inductive Stage where
  | plain
  | begun
  | summoned
  | alive
  | created
  | stopping
  | joining
  | alone
  | released
  deriving DecidableEq

/-- How far the status thread has got with a round, or that it has seen the end. -/
inductive Round where
  | fresh
  | looked
  | published
  | called
  | stopped
  deriving DecidableEq

/-- What is known of a thread: who it is, whether it has `statusLock_`, how far it has got, whether
the once flag has let it pass, its transfers, those of them that it has submitted, and the commands
it has submitted. -/
structure Task where
  role : Role
  number : Nat
  holds : Bool
  stage : Stage
  round : Round
  passed : Bool
  idle : List Nat
  flying : List Nat
  submitted : List DisplayCall

/-- A thread at its beginning. -/
def Task.start (role : Role) (number : Nat) : Task :=
  ⟨role, number, false, .plain, .fresh, false, [], [], []⟩

/-- The status thread at the beginning of a round. -/
def Task.again (g : Task) : Task := { g with round := .fresh }

/-- The thread is an application's call. -/
def Task.isCall (g : Task) : Bool :=
  match g.role with
  | .call _ => true
  | _ => false

/-- The thread is the status thread. -/
def Task.isWorker (g : Task) : Bool :=
  match g.role with
  | .worker => true
  | _ => false

/-- The thread is the destructor. -/
def Task.isDestructor (g : Task) : Bool :=
  match g.role with
  | .destructor => true
  | _ => false

/-- The thread is in the function of `call_once`. -/
def Task.enabling (g : Task) : Bool :=
  match g.stage with
  | .begun | .summoned | .alive | .created => true
  | _ => false

variable {cfg : Config}

/-- How an answer changes what is known. -/
def Task.track (g : Task) : (o : SdkOp cfg) → o.Res → Task
  | .lockStatus, _ => { g with holds := true }
  | .unlockStatus, _ => { g with holds := false }
  | .storeStatus _, _ => { g with round := .published }
  | .invokeCallback _ _, _ => { g with round := .called }
  | .onceBegin, true => { g with stage := .begun }
  | .onceBegin, false => { g with passed := true }
  | .onceEnd returned, _ => { g with stage := .plain, passed := g.passed || returned }
  | .summonPipeline, true => { g with stage := .summoned }
  | .testWorking, working => { g with round := if working then .looked else .stopped }
  | .storeWorking true, _ => { g with stage := .alive }
  | .storeWorking false, _ =>
      match g.role with
      | .destructor => { g with stage := .stopping }
      | _ => { g with round := .stopped }
  | .createThread, true => { g with stage := .created }
  | .allocTransfer, some t => { g with idle := t :: g.idle }
  | .submitStatus t, result =>
      if result = 0 then { g with idle := g.idle.erase t, flying := t :: g.flying } else g
  | .submitDisplay t sent, result =>
      if result = 0 then
        { g with
          idle := g.idle.erase t
          flying := t :: g.flying
          submitted := g.submitted ++ [sent.call] }
      else g
  | .waitForCompletion t, _ => { g with idle := t :: g.idle, flying := g.flying.erase t }
  | .freeTransfer t, _ => { g with idle := g.idle.erase t }
  | .joinable, joinable => { g with stage := if joinable then .joining else .alone }
  | .join, _ => { g with stage := .alone }
  | .releasePipeline, _ => { g with stage := .released }
  | _, _ => g

theorem Task.track_submitStatus (g : Task) (t : Nat) (result : Int) :
    g.track (SdkOp.submitStatus t : SdkOp cfg) result =
      if result = 0 then { g with idle := g.idle.erase t, flying := t :: g.flying } else g := rfl

theorem Task.track_submitDisplay (g : Task) (t : Nat) (sent : Sent cfg) (result : Int) :
    g.track (.submitDisplay t sent) result =
      if result = 0 then
        { g with
          idle := g.idle.erase t
          flying := t :: g.flying
          submitted := g.submitted ++ [sent.call] }
      else g := rfl

/-- Change a transfer. -/
def State.setTransfer (s : State cfg) (t : Nat) (transfer : Option TransferImpl) : State cfg :=
  { s with transfers := Function.update s.transfers t transfer }

/-- `libusb_submit_transfer`, which takes the transfer or answers with an error. -/
def State.submit (s : State cfg) (t : Nat) (result : Int) : Option (Int × State cfg) :=
  match s.transfers t with
  | some transfer =>
      if result = 0 then some (0, s.setTransfer t (some { transfer with inFlight := true }))
      else some (result, s)
  | none => none

/-- What an operation does; `result` is what is not decided here, and 0 is good.  A lock that is
taken, a flag that is being set, a transfer that is not complete and a thread that has not ended
have to be waited for. -/
def State.exec (s : State cfg) (o : SdkOp cfg) (result : Int) : Option (o.Res × State cfg) :=
  match o with
  | .lockStatus => if s.statusLock then none else some ((), { s with statusLock := true })
  | .unlockStatus => some ((), { s with statusLock := false })
  | .loadStatus => some (s.status, s)
  | .storeStatus status =>
      some ((), { s with status := status, published := s.published ++ [status] })
  | .loadCallback => some (s.callback, s)
  | .storeCallback callback => some ((), { s with callback := callback })
  | .invokeCallback callback status =>
      some ((), { s with invoked := s.invoked ++ [(callback, status)] })
  | .onceBegin =>
      match s.once with
      | .fresh => some (true, { s with once := .running })
      | .running => none
      | .done => some (false, s)
  | .onceEnd returned => some ((), { s with once := if returned then .done else .fresh })
  | .summonPipeline =>
      if result = 0 then some (true, { s with pipeline := true }) else some (false, s)
  | .loadWorking => some (s.working, s)
  | .testWorking => some (s.working, s)
  | .storeWorking working => some ((), { s with working := working })
  | .createThread =>
      if result = 0 then some (true, { s with statusThread := .created }) else some (false, s)
  | .allocTransfer =>
      if result = 0 then
        some (some s.nextTransfer, { s.setTransfer s.nextTransfer
          (some ⟨false, false, .unknown, cfg.garbage⟩) with nextTransfer := s.nextTransfer + 1 })
      else some (none, s)
  | .setTransferBuffer _ => some (decide (result = 0), s)
  | .submitStatus t => s.submit t result
  | .submitDisplay t sent =>
      (s.submit t result).map fun (result, s) =>
        (result, if result = 0 then { s with wire := s.wire ++ [sent] } else s)
  | .waitForCompletion t =>
      match s.transfers t with
      | some transfer =>
          if transfer.completion then
            some ((), s.setTransfer t (some { transfer with completion := false }))
          else none
      | none => none
  | .transferStatus t => (s.transfers t).map fun transfer => (transfer.status, s)
  | .decodeStatus t =>
      (s.transfers t).map fun transfer =>
        (if result = 0 then some (decodeAsStatus cfg.host transfer.buffer) else none, s)
  | .freeTransfer t => some ((), s.setTransfer t none)
  | .clearEndpointHalt => some (result, s)
  | .sleepFor => some ((), s)
  | .joinable => some (decide (s.statusThread ≠ .none ∧ s.statusThread ≠ .joined), s)
  | .join =>
      if s.statusThread = .ended then some ((), { s with statusThread := .joined }) else none
  | .releasePipeline => some ((), { s with pipeline := false })
  | .releaseInterface => some (decide (result = 0), s)

/-- Everything an operation can do. -/
inductive Effect (s : State cfg) : (o : SdkOp cfg) → o.Res → State cfg → Prop
  | lockStatus (hfree : s.statusLock = false) :
      Effect s .lockStatus () { s with statusLock := true }
  | unlockStatus : Effect s .unlockStatus () { s with statusLock := false }
  | loadStatus : Effect s .loadStatus s.status s
  | storeStatus (status : StatusNormalPacket) :
      Effect s (.storeStatus status) ()
        { s with status := status, published := s.published ++ [status] }
  | loadCallback : Effect s .loadCallback s.callback s
  | storeCallback (callback : Option Nat) :
      Effect s (.storeCallback callback) () { s with callback := callback }
  | invokeCallback (callback : Nat) (status : StatusNormalPacket) :
      Effect s (.invokeCallback callback status) ()
        { s with invoked := s.invoked ++ [(callback, status)] }
  | onceFirst (hfresh : s.once = .fresh) : Effect s .onceBegin true { s with once := .running }
  | onceAgain (hdone : s.once = .done) : Effect s .onceBegin false s
  | onceEnd (returned : Bool) :
      Effect s (.onceEnd returned) () { s with once := if returned then .done else .fresh }
  | summonPipeline : Effect s .summonPipeline true { s with pipeline := true }
  | noPipeline : Effect s .summonPipeline false s
  | loadWorking : Effect s .loadWorking s.working s
  | testWorking : Effect s .testWorking s.working s
  | storeWorking (working : Bool) : Effect s (.storeWorking working) () { s with working := working }
  | createThread : Effect s .createThread true { s with statusThread := .created }
  | noThread : Effect s .createThread false s
  | allocTransfer :
      Effect s .allocTransfer (some s.nextTransfer) { s.setTransfer s.nextTransfer
        (some ⟨false, false, .unknown, cfg.garbage⟩) with nextTransfer := s.nextTransfer + 1 }
  | noTransfer : Effect s .allocTransfer none s
  | setTransferBuffer (t : Nat) (granted : Bool) : Effect s (.setTransferBuffer t) granted s
  | submitStatus {t : Nat} {transfer : TransferImpl} (ht : s.transfers t = some transfer) :
      Effect s (.submitStatus t) 0 (s.setTransfer t (some { transfer with inFlight := true }))
  | refuseStatus {t : Nat} {result : Int} (hresult : result ≠ 0) :
      Effect s (.submitStatus t) result s
  | submitDisplay {t : Nat} {sent : Sent cfg} {transfer : TransferImpl}
      (ht : s.transfers t = some transfer) :
      Effect s (.submitDisplay t sent) 0
        { s.setTransfer t (some { transfer with inFlight := true }) with wire := s.wire ++ [sent] }
  | refuseDisplay {t : Nat} {sent : Sent cfg} {result : Int} (hresult : result ≠ 0) :
      Effect s (.submitDisplay t sent) result s
  | waitForCompletion {t : Nat} {transfer : TransferImpl} (ht : s.transfers t = some transfer)
      (hcompletion : transfer.completion = true) :
      Effect s (.waitForCompletion t) () (s.setTransfer t (some { transfer with completion := false }))
  | transferStatus {t : Nat} {transfer : TransferImpl} (ht : s.transfers t = some transfer) :
      Effect s (.transferStatus t) transfer.status s
  | decodeStatus {t : Nat} {transfer : TransferImpl} (ht : s.transfers t = some transfer) :
      Effect s (.decodeStatus t) (some (decodeAsStatus cfg.host transfer.buffer)) s
  | noBuffer (t : Nat) : Effect s (.decodeStatus t) none s
  | freeTransfer (t : Nat) : Effect s (.freeTransfer t) () (s.setTransfer t none)
  | clearEndpointHalt (result : Int) : Effect s .clearEndpointHalt result s
  | sleepFor : Effect s .sleepFor () s
  | joinable : Effect s .joinable (decide (s.statusThread ≠ .none ∧ s.statusThread ≠ .joined)) s
  | join (hended : s.statusThread = .ended) : Effect s .join () { s with statusThread := .joined }
  | releasePipeline : Effect s .releasePipeline () { s with pipeline := false }
  | releaseInterface (released : Bool) : Effect s .releaseInterface released s

/-- What `libusb_submit_transfer` can do. -/
theorem submit_some {s s' : State cfg} {t : Nat} {result result' : Int}
    (h : s.submit t result = some (result', s')) :
    (∃ transfer, s.transfers t = some transfer ∧ result' = 0 ∧
      s' = s.setTransfer t (some { transfer with inFlight := true })) ∨ (result' ≠ 0 ∧ s' = s) := by
  unfold State.submit at h
  split at h
  · rename_i transfer ht
    split at h
    · cases h
      exact Or.inl ⟨transfer, ht, rfl, rfl⟩
    · rename_i hresult
      cases h
      exact Or.inr ⟨hresult, rfl⟩
  · cases h

/-- **What an operation does** is one of these. -/
theorem exec_some {s s' : State cfg} {o : SdkOp cfg} {result : Int} {r : o.Res}
    (h : s.exec o result = some (r, s')) : Effect s o r s' := by
  cases o with
  | lockStatus =>
      simp only [State.exec] at h
      split at h
      · cases h
      · rename_i hfree
        cases h
        exact .lockStatus (Bool.eq_false_iff.mpr hfree)
  | onceBegin =>
      simp only [State.exec] at h
      split at h
      · rename_i hfresh
        cases h
        exact .onceFirst hfresh
      · cases h
      · rename_i hdone
        cases h
        exact .onceAgain hdone
  | summonPipeline =>
      simp only [State.exec] at h
      split at h
      · cases h
        exact .summonPipeline
      · cases h
        exact .noPipeline
  | createThread =>
      simp only [State.exec] at h
      split at h
      · cases h
        exact .createThread
      · cases h
        exact .noThread
  | allocTransfer =>
      simp only [State.exec] at h
      split at h
      · cases h
        exact .allocTransfer
      · cases h
        exact .noTransfer
  | submitStatus t =>
      rcases submit_some h with ⟨transfer, ht, rfl, rfl⟩ | ⟨hresult, rfl⟩
      · exact .submitStatus ht
      · exact .refuseStatus hresult
  | submitDisplay t sent =>
      obtain ⟨⟨answer, s₁⟩, hsubmit, hs⟩ := Option.map_eq_some_iff.mp h
      cases hs
      rcases submit_some hsubmit with ⟨transfer, ht, rfl, rfl⟩ | ⟨hresult, rfl⟩
      · exact .submitDisplay ht
      · rw [if_neg hresult]
        exact .refuseDisplay hresult
  | waitForCompletion t =>
      simp only [State.exec] at h
      split at h
      · rename_i transfer ht
        split at h
        · rename_i hcompletion
          cases h
          exact .waitForCompletion ht hcompletion
        · cases h
      · cases h
  | transferStatus t =>
      obtain ⟨transfer, ht, hs⟩ := Option.map_eq_some_iff.mp h
      cases hs
      exact .transferStatus ht
  | decodeStatus t =>
      obtain ⟨transfer, ht, hs⟩ := Option.map_eq_some_iff.mp h
      cases hs
      split
      · exact .decodeStatus ht
      · exact .noBuffer t
  | join =>
      simp only [State.exec] at h
      split at h
      · rename_i hended
        cases h
        exact .join hended
      · cases h
  | _ =>
      cases h
      constructor

end Threads

section Worlds

/-! ## Runs -/

variable {cfg : Config}

abbrev SdkWorld (cfg : Config) := World (State cfg) (SdkOp cfg) SdkOp.Res Outcome Task

/-- The process has come to its end: a thread went wrong. -/
def Terminated (w : SdkWorld cfg) : Bool :=
  w.threads.any fun t => match t.prog with
    | .fault _ => true
    | _ => false

/-- An application thread makes a call or drops the last reference; the status thread
starts, or goes round; thread `i` does its next operation or has come to its end; libusb completes a
transfer; the pipeline of another display starts or stops. -/
inductive Event where
  | call (c : ApiCall)
  | dispose
  | startWorker
  | again (i : Nat)
  | run (i : Nat) (result : Int)
  | finish (i : Nat)
  | complete (t : Nat) (status : TransferStatus) (received : Received)
  | others (running : Bool)

/-- What a thread leaves behind. -/
def State.retire (s : State cfg) (g : Task) (outcome : Outcome) : State cfg :=
  match g.role with
  | .call c => { s with finished := s.finished ++ [⟨g.number, c, outcome⟩] }
  | .worker => { s with statusThread := .ended }
  | .destructor => s

/-- The transfer after `transferCallback_`. -/
def TransferImpl.complete (transfer : TransferImpl) (status : TransferStatus) (received : Received) :
    TransferImpl :=
  ⟨false, true, status, transfer.buffer.receive received⟩

/-- A new thread has the next number. -/
def enter (w : SdkWorld cfg) (role : Role) (prog : Nat → SdkProg cfg Outcome) : SdkWorld cfg :=
  w.spawn { w.shared with nextNumber := w.shared.nextNumber + 1 } (prog w.shared.nextNumber)
    (Task.start role w.shared.nextNumber)

/-- The world after an event, if the event can happen.  Nothing happens in a process that has
come to its end, and the destructor runs when nobody calls any more. -/
def nextWorld (w : SdkWorld cfg) (e : Event) : Option (SdkWorld cfg) :=
  if Terminated w then none
  else
    match e with
    | .call c =>
        if w.shared.disposing then none else some (enter w (.call c) fun number => c.prog cfg number)
    | .dispose =>
        if w.shared.disposing || w.ghosts.any Task.isCall then none
        else
          some (enter { w with shared := { w.shared with disposing := true } } .destructor
            fun _ => destroy cfg)
    | .startWorker =>
        if w.shared.statusThread = .created then
          some (enter { w with shared := { w.shared with statusThread := .running } } .worker
            fun _ => statusFetchingWorker cfg)
        else none
    | .again i =>
        match w.threads[i]? with
        | some ⟨.ret (.again t), g⟩ =>
            some { w with threads := w.threads.set i ⟨workerRound cfg g.number t, g.again⟩ }
        | _ => none
    | .run i result => w.step State.exec Task.track i result
    | .finish i =>
        match w.threads[i]? with
        | some ⟨.ret (.again _), _⟩ => none
        | some ⟨.ret outcome, g⟩ =>
            some ⟨w.shared.retire g outcome, w.threads.eraseIdx i⟩
        | _ => none
    | .complete t status received =>
        match w.shared.transfers t with
        | some transfer =>
            if transfer.inFlight && (w.shared.pipeline || w.shared.otherPipelines) then
              some { w with shared :=
                w.shared.setTransfer t (some (transfer.complete status received)) }
            else none
        | none => none
    | .others running => some { w with shared := { w.shared with otherPipelines := running } }

/-- A thread that enters, and what it changes by that. -/
inductive Enters (w : SdkWorld cfg) :
    Event → Role → (Nat → SdkProg cfg Outcome) → State cfg → Prop
  | call (c : ApiCall) (hopen : w.shared.disposing = false) :
      Enters w (.call c) (.call c) (fun number => c.prog cfg number) w.shared
  | destructor (hopen : w.shared.disposing = false) (hnone : ∀ g ∈ w.ghosts, g.isCall = false) :
      Enters w .dispose .destructor (fun _ => destroy cfg) { w.shared with disposing := true }
  | worker (hcreated : w.shared.statusThread = .created) :
      Enters w .startWorker .worker (fun _ => statusFetchingWorker cfg)
        { w.shared with statusThread := .running }

/-- Everything an event can do. -/
inductive Step (w : SdkWorld cfg) : Event → SdkWorld cfg → Prop
  | enter {e : Event} {role : Role} {prog : Nat → SdkProg cfg Outcome} {s : State cfg}
      (h : Enters w e role prog s) : Step w e (enter { w with shared := s } role prog)
  | again {i t : Nat} {g : Task} (hi : w.threads[i]? = some ⟨.ret (.again t), g⟩) :
      Step w (.again i) { w with threads := w.threads.set i ⟨workerRound cfg g.number t, g.again⟩ }
  | run {i : Nat} {result : Int} {o : SdkOp cfg} {k : o.Res → SdkProg cfg Outcome} {g : Task}
      {r : o.Res} {s : State cfg} (hi : w.threads[i]? = some ⟨.op o k, g⟩)
      (heffect : Effect w.shared o r s) :
      Step w (.run i result) ⟨s, w.threads.set i ⟨k r, g.track o r⟩⟩
  | finish {i : Nat} {outcome : Outcome} {g : Task} (hi : w.threads[i]? = some ⟨.ret outcome, g⟩)
      (hlast : ∀ t, outcome ≠ .again t) :
      Step w (.finish i) ⟨w.shared.retire g outcome, w.threads.eraseIdx i⟩
  | complete {t : Nat} {transfer : TransferImpl} (ht : w.shared.transfers t = some transfer)
      (hflight : transfer.inFlight = true)
      (hpolled : w.shared.pipeline = true ∨ w.shared.otherPipelines = true)
      (status : TransferStatus) (received : Received) :
      Step w (.complete t status received) { w with
        shared := w.shared.setTransfer t (some (transfer.complete status received)) }
  | others (running : Bool) :
      Step w (.others running) { w with shared := { w.shared with otherPipelines := running } }

/-- **What an event does** is one of these. -/
theorem nextWorld_some {w w' : SdkWorld cfg} {e : Event} (h : nextWorld w e = some w') :
    Terminated w = false ∧ Step w e w' := by
  unfold nextWorld at h
  split at h
  · cases h
  rename_i hgoes
  refine ⟨Bool.eq_false_iff.mpr hgoes, ?_⟩
  cases e with
  | call c =>
      simp only [] at h
      split at h
      · cases h
      · rename_i hopen
        cases h
        exact .enter (.call c (Bool.eq_false_iff.mpr hopen))
  | dispose =>
      simp only [] at h
      split at h
      · cases h
      · rename_i hboth
        cases h
        rw [Bool.or_eq_true, not_or] at hboth
        refine .enter (.destructor (Bool.eq_false_iff.mpr hboth.1) fun g hg => ?_)
        rw [Bool.eq_false_iff]
        exact fun hcall => hboth.2 (List.any_eq_true.mpr ⟨g, hg, hcall⟩)
  | startWorker =>
      simp only [] at h
      split at h
      · rename_i hcreated
        cases h
        exact .enter (.worker hcreated)
      · cases h
  | again i =>
      simp only [] at h
      split at h
      · rename_i t g hi
        cases h
        exact .again hi
      · cases h
  | run i result =>
      obtain ⟨o, k, g, r, s, hi, hexec, rfl⟩ := World.step_some h
      exact .run hi (exec_some hexec)
  | finish i =>
      simp only [] at h
      split at h
      · cases h
      · rename_i outcome g hagain hi
        cases h
        exact .finish hi hagain
      · cases h
  | complete t status received =>
      simp only [] at h
      split at h
      · rename_i transfer ht
        split at h
        · rename_i hboth
          obtain ⟨hflight, hpolled⟩ := Bool.and_eq_true_iff.mp hboth
          cases h
          exact .complete ht hflight (Bool.or_eq_true_iff.mp hpolled) status received
        · cases h
      · cases h
  | others running =>
      cases h
      exact .others running

/-- The object after its constructor; `packet_type` of its status is not initialised. -/
def constructed (cfg : Config) (packetType : UInt8) : SdkWorld cfg where
  shared :=
    { statusLock := false
      status := ⟨packetType, 0x80, 0, 0, 0⟩
      callback := none
      once := .fresh
      working := false
      statusThread := .none
      pipeline := false
      otherPipelines := false
      transfers := fun _ => none
      nextTransfer := 0
      disposing := false
      nextNumber := 0
      wire := []
      published := []
      invoked := []
      finished := [] }
  threads := []

/-- The worlds that a display gets to. -/
abbrev Reachable (w : SdkWorld cfg) : Prop :=
  ∃ packetType, Runs.Run nextWorld (fun _ _ => True) (constructed cfg packetType) w

/-- The worlds that come after one. -/
abbrev Later (w w' : SdkWorld cfg) : Prop := Runs.Run nextWorld (fun _ _ => True) w w'

/-- What every event keeps holds of what comes later. -/
theorem Later.invariant {I : SdkWorld cfg → Prop} {w w' : SdkWorld cfg} (hnow : I w)
    (hkeep : ∀ w w' e, I w → Terminated w = false → Step w e w' → I w') (h : Later w w') : I w' :=
  Runs.Run.invariant hnow (fun w w' e hw _ hstep =>
    hkeep w w' e hw (nextWorld_some hstep).1 (nextWorld_some hstep).2) h

/-- **The rule of invariants** for a display. -/
theorem Reachable.invariant {I : SdkWorld cfg → Prop}
    (hstart : ∀ packetType, I (constructed cfg packetType))
    (hkeep : ∀ w w' e, I w → Terminated w = false → Step w e w' → I w') {w : SdkWorld cfg}
    (h : Reachable w) : I w := by
  obtain ⟨packetType, hrun⟩ := h
  exact Later.invariant (hstart packetType) hkeep hrun

/-- What comes later can be reached, too. -/
theorem Reachable.later {w w' : SdkWorld cfg} (h : Reachable w) (hlater : Later w w') :
    Reachable w' := by
  obtain ⟨packetType, hrun⟩ := h
  exact ⟨packetType, hrun.trans hlater⟩

end Worlds

end RpUsbDisp.SdkDevice
