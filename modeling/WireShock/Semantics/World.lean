import WireShock.Driver.Bulkrwr
import WireShock.Driver.Device
import WireShock.Driver.Interrupt
import WireShock.Semantics.ChildList

namespace WireShock
open Interaction

structure Pool where
  live : List Pointer
  next : Pointer
  bytes : Pointer → List BYTE

inductive Output where
  | control (packet : List BYTE) (status : NTSTATUS)
  | bulk (packet : List BYTE) (status : NTSTATUS)
  | timerStart (timer : Option Handle)
  | free (pointer : Pointer) (valid : Bool)
  | complete (request : Request) (status : NTSTATUS) (information : Nat) (output : List BYTE)
deriving DecidableEq, Repr

-- what the driver's environment answers next: the status of each send, the status of each other
-- framework call, and whatever the stack holds where a local is read before it is written
structure Environment where
  controlStatus : Nat → NTSTATUS
  bulkStatus : Nat → NTSTATUS
  frameworkStatus : Nat → NTSTATUS
  stack : Nat → BYTE
  unwritten : BthDevice

structure World where
  context : DeviceContext
  children : ChildList
  globalCid : USHORT
  signallingId : BYTE
  pool : Pool
  nextHandle : Handle
  queues : Handle → List Request
  outputBuffers : Request → List BYTE
  environment : Environment
  log : List Output

namespace World

def uninitialised (w : World) (size : Nat) : { bytes : List BYTE // bytes.length = size } :=
  ⟨(List.range size).map w.environment.stack, by simp⟩

def emit (w : World) (o : Output) : World := { w with log := w.log ++ [o] }

def free (w : World) (p : Pointer) : World :=
  { w with
    pool := { w.pool with live := w.pool.live.erase p }
    log := w.log ++ [.free p (p ∈ w.pool.live)] }

def allocate (w : World) : World :=
  { w with pool := { w.pool with live := w.pool.next :: w.pool.live, next := w.pool.next + 1 } }

def copy (w : World) (p : Pointer) (data : List BYTE) : World :=
  { w with pool := { w.pool with bytes := Function.update w.pool.bytes p data } }

def cleanup (w : World) (device : BthDevice) : World :=
  let w := device.remoteName.elim w w.free
  device.outputReportBuffer.elim w w.free

def remove (w : World) (a : BdAddr) : World :=
  match w.children.lookup a with
  | none => w
  | some device => { w with children := w.children.remove a }.cleanup device

theorem free_invariant {I : World → Prop} (hfree : ∀ v p, I v → I (free v p)) {w : World} (hw : I w)
    (p : Option Pointer) : I (p.elim w w.free) := by
  cases p with
  | none => exact hw
  | some p => exact hfree w p hw

theorem cleanup_invariant {I : World → Prop} (hfree : ∀ v p, I v → I (free v p)) {w : World}
    (hw : I w) (device : BthDevice) : I (w.cleanup device) :=
  free_invariant hfree (free_invariant hfree hw _) _

theorem remove_invariant {I : World → Prop} (hfree : ∀ v p, I v → I (free v p))
    (hchildren : ∀ (v : World) list, I v → I { v with children := list }) {w : World} (hw : I w)
    (a : BdAddr) : I (w.remove a) := by
  unfold remove
  cases w.children.lookup a with
  | none => exact hw
  | some device => exact cleanup_invariant hfree (hchildren w _ hw) device

def removeAll (w : World) : World := (w.children.entries.map Child.address).foldl remove w

theorem removeAll_invariant {I : World → Prop} (h : ∀ v a, I v → I (v.remove a)) {w : World}
    (hw : I w) : I w.removeAll := by
  rw [removeAll]
  generalize w.children.entries.map Child.address = addresses
  induction addresses generalizing w with
  | nil => exact hw
  | cons a rest ih => exact ih (h w a hw)

def updateContext (w : World) (update : DeviceContext → DeviceContext) : World :=
  { w with context := update w.context }

section

variable (w : World) (f g : DeviceContext → DeviceContext)

@[simp] theorem context_updateContext : (w.updateContext f).context = f w.context := rfl
@[simp] theorem environment_updateContext : (w.updateContext f).environment = w.environment := rfl
@[simp] theorem updateContext_updateContext :
    (w.updateContext f).updateContext g = w.updateContext fun c => g (f c) := rfl

end

def addOrUpdate (w : World) (a : BdAddr) (device : BthDevice) : World :=
  { w with children := w.children.addOrUpdate a device }

def update (w : World) (a : BdAddr) (device : BthDevice) : World :=
  { w with children := w.children.update a device }

def setGlobalCid (w : World) (value : USHORT) : World := { w with globalCid := value }

def setSignallingId (w : World) (value : BYTE) : World := { w with signallingId := value }

def sendControl (w : World) (packet : List BYTE) : World :=
  { w with
    environment :=
      { w.environment with controlStatus := fun n => w.environment.controlStatus (n + 1) }
    log := w.log ++ [.control packet (w.environment.controlStatus 0)] }

def sendBulk (w : World) (packet : List BYTE) : World :=
  { w with
    environment :=
      { w.environment with bulkStatus := fun n => w.environment.bulkStatus (n + 1) }
    log := w.log ++ [.bulk packet (w.environment.bulkStatus 0)] }

def nextFramework (w : World) : World :=
  { w with environment :=
    { w.environment with frameworkStatus := fun n => w.environment.frameworkStatus (n + 1) } }

def createHandle (w : World) : Except NTSTATUS Handle × World :=
  if ntSuccess (w.environment.frameworkStatus 0) then
    (.ok w.nextHandle, { w.nextFramework with nextHandle := w.nextHandle + 1 })
  else
    (.error (w.environment.frameworkStatus 0), w.nextFramework)

def retrieve (w : World) (a : BdAddr) : Except NTSTATUS BthDevice :=
  match w.children.lookup a with
  | none => .error statusNoSuchDevice
  | some device => .ok device

def retrieveNextRequest (w : World) (queue : Option Handle) : Except NTSTATUS Request × World :=
  match queue with
  | none => (.error statusNoMoreEntries, w)
  | some q =>
    match w.queues q with
    | [] => (.error statusNoMoreEntries, w)
    | r :: rest => (.ok r, { w with queues := Function.update w.queues q rest })

theorem retrieveNextRequest_world (w : World) (queue : Option Handle) :
    ∃ queues, (w.retrieveNextRequest queue).2 = { w with queues := queues } := by
  unfold retrieveNextRequest
  cases queue with
  | none => exact ⟨w.queues, rfl⟩
  | some q =>
    cases hq : w.queues q with
    | nil => exact ⟨w.queues, by simp [hq]⟩
    | cons r rest => exact ⟨Function.update w.queues q rest, by simp [hq]⟩

end World

def respond : Semantics framework World
  | .getContext, w => (w.context, w)
  | .updateContext update, w => ((), w.updateContext update)
  | .getGlobalCid, w => (w.globalCid, w)
  | .setGlobalCid value, w => ((), w.setGlobalCid value)
  | .getSignallingId, w => (w.signallingId, w)
  | .setSignallingId value, w => ((), w.setSignallingId value)
  | .localArray size, w => (w.uninitialised size, w)
  | .localAddressDescription, w => (w.environment.unwritten, w)
  | .assign _, w => ((), w)
  | .childListRetrieveAddressDescription a, w => (w.retrieve a, w)
  | .childListAddOrUpdateAsPresent a device, w =>
    (if w.children.Present a then statusObjectNameExists else statusSuccess, w.addOrUpdate a device)
  | .childListUpdateAsMissing a, w =>
    (if w.children.Present a then statusSuccess else statusNoSuchDevice, w.remove a)
  | .childListScan, w => ((), w.removeAll)
  | .childListIterate, w => (w.children.entries.map fun c => (c.address, c.created), w)
  | .pdoRetrieveAddressDescription a, w => (w.retrieve a, w)
  | .pdoUpdateAddressDescription a device, w =>
    (if w.children.Present a then statusSuccess else statusNoSuchDevice, w.update a device)
  | .ioQueueCreate, w => w.createHandle
  | .timerCreate, w => w.createHandle
  | .timerStart timer, w => ((), w.emit (.timerStart timer))
  | .exAllocatePoolWithTag _, w => (w.pool.next, w.allocate)
  | .rtlCopyMemory p data, w => ((), w.copy p data)
  | .readPool source size, w =>
    ((source.elim [] w.pool.bytes ++ List.replicate size 0).take size, w)
  | .exFreePoolWithTag p, w => ((), w.free p)
  | .sendControlRequest packet, w => (w.environment.controlStatus 0, w.sendControl packet)
  | .writeBulkPipe packet, w => (w.environment.bulkStatus 0, w.sendBulk packet)
  | .ioTargetStart _, w => (w.environment.frameworkStatus 0, w.nextFramework)
  | .ioTargetStop _, w => ((), w)
  | .ioQueueRetrieveNextRequest queue, w => w.retrieveNextRequest queue
  | .requestRetrieveOutputBuffer request minimum, w =>
    (if (w.outputBuffers request).length < minimum then .error statusBufferTooSmall
      else .ok (w.outputBuffers request), w)
  | .requestComplete request status, w => ((), w.emit (.complete request status 0 []))
  | .requestCompleteWithInformation request status information output, w =>
    ((), w.emit (.complete request status information output))

def exec {α : Type} (p : Driver α) (w : World) : α × World := p.run respond w

def BthDevice.zero : BthDevice where
  hciConnectionHandle := ⟨0, 0⟩
  l2capCommandHandle := ⟨⟨0, 0⟩, ⟨0, 0⟩⟩
  l2capInterruptHandle := ⟨⟨0, 0⟩, ⟨0, 0⟩⟩
  isHidCommandEstablished := false
  isHidCommandConfigured := false
  isHidInterruptEstablished := false
  isHidInterruptConfigured := false
  remoteName := none
  deviceType := .unknown
  hidInputReportQueue := none
  outputReportTimer := none
  outputReportBuffer := none
  configuration := ⟨.single, false⟩

def Environment.succeeding : Environment where
  controlStatus := fun _ => statusSuccess
  bulkStatus := fun _ => statusSuccess
  frameworkStatus := fun _ => statusSuccess
  stack := fun _ => 0
  unwritten := .zero

def World.initial (environment : Environment) : World where
  context := ⟨false, false, ⟨List.replicate 6 0, rfl⟩, false, 0, 0⟩
  children := .empty
  globalCid := 0x40
  signallingId := 0x01
  pool := ⟨[], 1, fun _ => []⟩
  nextHandle := 1
  queues := fun _ => []
  outputBuffers := fun _ => []
  environment := environment
  log := []

def someAddress : BdAddr := ⟨[0x01, 0x02, 0x03, 0x04, 0x05, 0x06], rfl⟩

inductive Event where
  | hci (buffer : Buffer) (numBytesTransferred : Nat)
  | acl (buffer : Buffer) (numBytesTransferred : Nat)
  | createDevice (address : BdAddr)
  | timer (address : BdAddr)
  | d0Entry
  | d0Exit

namespace World

def clearLog (w : World) : World := { w with log := [] }

def markCreated (w : World) (a : BdAddr) : World := { w with children := w.children.markCreated a }

def react (w : World) : Event → World
  | .hci buffer n => (exec (wireShockEvtUsbInterruptPipeReadComplete buffer n) w).2
  | .acl buffer n => (exec (wireShockEvtUsbBulkReadPipeReadComplete buffer n) w).2
  | .createDevice a =>
    let (status, w) := exec (wireShockEvtWdfChildListCreateDevice a) w
    if ntSuccess status then w.markCreated a else w
  | .timer a => (exec (wireChildOutputReportEvtTimerFunc a) w).2
  | .d0Entry => (exec wireShockEvtDeviceD0Entry w).2
  | .d0Exit => (exec wireShockEvtDeviceD0Exit w).2

def step (w : World) (e : Event) : World := w.clearLog.react e

end World
end WireShock
