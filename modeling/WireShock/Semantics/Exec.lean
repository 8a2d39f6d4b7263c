import WireShock.Semantics.World

namespace WireShock
open Interaction

section

variable {α β : Type} (w : World)

@[simp] theorem exec_pure (a : α) : exec (pure a) w = (a, w) := (rfl)

@[simp] theorem exec_bind (p : Driver α) (f : α → Driver β) :
    exec (p >>= f) w = exec (f (exec p w).1) (exec p w).2 := Program.run_bind respond p f w

@[simp] theorem exec_ite (c : Prop) [Decidable c] (p q : Driver α) :
    exec (if c then p else q) w = if c then exec p w else exec q w :=
  Program.run_ite respond c p q w

@[simp] theorem exec_getContext : exec getContext w = (w.context, w) := (rfl)
@[simp] theorem exec_updateContext (update : DeviceContext → DeviceContext) :
    exec (updateContext update) w = ((), w.updateContext update) := (rfl)
@[simp] theorem exec_getGlobalCid : exec getGlobalCid w = (w.globalCid, w) := (rfl)
@[simp] theorem exec_setGlobalCid (value : USHORT) :
    exec (setGlobalCid value) w = ((), w.setGlobalCid value) := (rfl)
@[simp] theorem exec_getSignallingId : exec getSignallingId w = (w.signallingId, w) := (rfl)
@[simp] theorem exec_setSignallingId (value : BYTE) :
    exec (setSignallingId value) w = ((), w.setSignallingId value) := (rfl)
@[simp] theorem exec_localArray (size : Nat) :
    exec (localArray size) w = (w.uninitialised size, w) := (rfl)
@[simp] theorem exec_localAddressDescription :
    exec localAddressDescription w = (w.environment.unwritten, w) := (rfl)
@[simp] theorem exec_childListRetrieveAddressDescription (a : BdAddr) :
    exec (childListRetrieveAddressDescription a) w = (w.retrieve a, w) := (rfl)
@[simp] theorem exec_childListAddOrUpdateAsPresent (a : BdAddr) (device : BthDevice) :
    exec (childListAddOrUpdateAsPresent a device) w =
      (if w.children.Present a then statusObjectNameExists else statusSuccess,
        w.addOrUpdate a device) := (rfl)
@[simp] theorem exec_childListUpdateAsMissing (a : BdAddr) :
    exec (childListUpdateAsMissing a) w =
      (if w.children.Present a then statusSuccess else statusNoSuchDevice, w.remove a) := (rfl)
@[simp] theorem exec_childListScan : exec childListScan w = ((), w.removeAll) := (rfl)
@[simp] theorem exec_childListIterate :
    exec childListIterate w = (w.children.entries.map fun c => (c.address, c.created), w) := (rfl)
@[simp] theorem exec_pdoRetrieveAddressDescription (a : BdAddr) :
    exec (pdoRetrieveAddressDescription a) w = (w.retrieve a, w) := (rfl)
@[simp] theorem exec_pdoUpdateAddressDescription (a : BdAddr) (device : BthDevice) :
    exec (pdoUpdateAddressDescription a device) w =
      (if w.children.Present a then statusSuccess else statusNoSuchDevice, w.update a device) := (rfl)
@[simp] theorem exec_ioQueueCreate : exec ioQueueCreate w = w.createHandle := (rfl)
@[simp] theorem exec_timerCreate : exec timerCreate w = w.createHandle := (rfl)
@[simp] theorem exec_timerStart (timer : Option Handle) :
    exec (timerStart timer) w = ((), w.emit (.timerStart timer)) := (rfl)
@[simp] theorem exec_exAllocatePoolWithTag (size : Nat) :
    exec (exAllocatePoolWithTag size) w = (w.pool.next, w.allocate) := (rfl)
@[simp] theorem exec_rtlCopyMemory (p : Pointer) (data : List BYTE) :
    exec (rtlCopyMemory p data) w = ((), w.copy p data) := (rfl)
@[simp] theorem exec_exFreePoolWithTag (p : Pointer) :
    exec (exFreePoolWithTag p) w = ((), w.free p) := (rfl)
@[simp] theorem exec_sendControlRequest (packet : List BYTE) :
    exec (sendControlRequest packet) w =
      (w.environment.controlStatus 0, w.sendControl packet) := (rfl)
@[simp] theorem exec_writeBulkPipe (packet : List BYTE) :
    exec (writeBulkPipe packet) w = (w.environment.bulkStatus 0, w.sendBulk packet) := (rfl)
@[simp] theorem exec_ioTargetStart (pipe : Pipe) :
    exec (ioTargetStart pipe) w = (w.environment.frameworkStatus 0, w.nextFramework) := (rfl)
@[simp] theorem exec_ioTargetStop (pipe : Pipe) : exec (ioTargetStop pipe) w = ((), w) := (rfl)
@[simp] theorem exec_readPool (source : Option Pointer) (size : Nat) :
    exec (readPool source size) w =
      ((source.elim [] w.pool.bytes ++ List.replicate size 0).take size, w) := (rfl)
@[simp] theorem exec_ioQueueRetrieveNextRequest (queue : Option Handle) :
    exec (ioQueueRetrieveNextRequest queue) w = w.retrieveNextRequest queue := (rfl)
@[simp] theorem exec_requestRetrieveOutputBuffer (request : Request) (minimum : Nat) :
    exec (requestRetrieveOutputBuffer request minimum) w =
      (if (w.outputBuffers request).length < minimum then .error statusBufferTooSmall
        else .ok (w.outputBuffers request), w) := (rfl)
@[simp] theorem exec_requestComplete (request : Request) (status : NTSTATUS) :
    exec (requestComplete request status) w = ((), w.emit (.complete request status 0 [])) := (rfl)
@[simp] theorem exec_requestCompleteWithInformation (request : Request) (status : NTSTATUS)
    (information : Nat) (output : List BYTE) :
    exec (requestCompleteWithInformation request status information output) w =
      ((), w.emit (.complete request status information output)) := (rfl)
@[simp] theorem exec_assign (device : BthDevice) (value : Assignment) :
    exec (device.assign value) w = (value.apply device, w) := (rfl)

@[simp] theorem exec_hciCommandWith (c : HciCommand) (size : Nat) (payload : List BYTE) :
    exec (hciCommandWith c size payload) w = (w.environment.controlStatus 0,
      w.sendControl (hciPacket c (overlay (w.uninitialised size).val 3 payload))) := (rfl)

theorem commandOfPacket_overlay (c : HciCommand) {size : Nat} {payload : List BYTE}
    (h : 3 + payload.length ≤ size) :
    commandOfPacket (hciPacket c (overlay (w.uninitialised size).val 3 payload)) = some c := by
  have hs : (w.uninitialised size).val.length = size := (w.uninitialised size).property
  refine commandOfPacket_hciPacket c ?_
  rw [length_overlay] <;> omega

theorem exec_invariant {P : Call → Prop} {I : World → Prop}
    (hstep : ∀ c w, P c → I w → I (respond c w).2) {p : Driver α} (hp : p.Uses P) {w : World}
    (hw : I w) : I (exec p w).2 :=
  Program.run_invariant hstep hp hw

theorem step_createDevice_invariant {I : World → Prop} {a : BdAddr}
    (hmark : ∀ v, I v → I (World.markCreated v a))
    (h : I (exec (wireShockEvtWdfChildListCreateDevice a) w.clearLog).2) :
    I (w.step (.createDevice a)) := by
  rw [World.step, World.react]
  dsimp only
  split
  · exact hmark _ h
  · exact h

theorem step_invariant {I : World → Prop} (hexec : ∀ (p : Driver Unit) v, I v → I (exec p v).2)
    (hstatus : ∀ (p : Driver NTSTATUS) v, I v → I (exec p v).2)
    (hmark : ∀ v a, I v → I (World.markCreated v a)) (hw : I w.clearLog) (e : Event) :
    I (w.step e) := by
  cases e with
  | createDevice a =>
    exact step_createDevice_invariant w (fun v hv => hmark v a hv) (hstatus _ _ hw)
  | d0Entry => exact hstatus _ _ hw
  | d0Exit => exact hstatus _ _ hw
  | _ => exact hexec _ _ hw

def receivedEvent (buffer : Buffer) (n : Nat) : Option HciEvent :=
  if n = 0 then none else HciEvent.ofCode (buffer 0)

theorem step_hci (buffer : Buffer) (n : Nat) :
    w.step (.hci buffer n) = (receivedEvent buffer n).elim w.clearLog fun event =>
      (exec (dispatchEvent event buffer n) w.clearLog).2 := by
  by_cases hn : n = 0
  · simp [World.step, World.react, wireShockEvtUsbInterruptPipeReadComplete, receivedEvent, hn]
  · cases he : HciEvent.ofCode (buffer 0) <;>
      simp [World.step, World.react, wireShockEvtUsbInterruptPipeReadComplete, receivedEvent, hn, he]

end

end WireShock
