import WireShock.Interaction.Cost
import WireShock.Semantics.Bus
import WireShock.Semantics.OwnCalls
import WireShock.Semantics.Views

namespace WireShock
open Interaction

def World.transferCount (w : World) : Nat := w.log.countP Output.isTransfer

def Sends {α : Type} (n : Nat) (p : Driver α) : Prop := p.Costs respond World.transferCount n

def HciEvent.transferBound : HciEvent → Nat
  | .connectionRequest => 2
  | .connectionComplete => 1
  | .commandComplete => 1
  | .commandStatus => 1
  | _ => 0

def L2capSignallingCommandCode.transferBound : L2capSignallingCommandCode → Nat
  | .connectionRequest => 3
  | .configurationRequest => 1
  | .configurationResponse => 2
  | .disconnectionRequest => 2
  | _ => 0

-- a HID input report is answered on the queue of its child and never on the air
def packetTransferBound (buffer : Buffer) : Nat :=
  if l2capIsControlChannel buffer then
    (L2capSignallingCommandCode.ofCode (buffer 8)).elim 0 L2capSignallingCommandCode.transferBound
  else
    0

def Event.transferBound : Event → Nat
  | .hci buffer n => (receivedEvent buffer n).elim 0 HciEvent.transferBound
  | .acl buffer n => if n = 0 then 0 else packetTransferBound buffer
  | .createDevice .. => 0
  | .timer .. => 1
  | .d0Entry => 1
  | .d0Exit => 1

section

variable {w : World} {α β : Type} {p : Driver α}

theorem transferCount_emit {o : Output} (ho : o.isTransfer = false) :
    (w.emit o).transferCount = w.transferCount := by
  simp [World.transferCount, World.emit, ho]

theorem transferCount_free (p : Pointer) : (w.free p).transferCount = w.transferCount :=
  transferCount_emit (w := { w with pool := _ }) rfl

theorem transferCount_remove {a : BdAddr} : (w.remove a).transferCount = w.transferCount :=
  World.remove_invariant (I := fun v => v.transferCount = w.transferCount)
    (fun _ p hv => (transferCount_free p).trans hv) (fun _ _ hv => hv) rfl a

theorem transferCount_removeAll : w.removeAll.transferCount = w.transferCount :=
  World.removeAll_invariant (I := fun v => v.transferCount = w.transferCount)
    (fun _ _ hv => transferCount_remove.trans hv) rfl

theorem transferCount_silent (c : Call) (w : World) (hc : c.Silent) :
    (respond c w).2.transferCount = w.transferCount := by
  cases c with
  | childListUpdateAsMissing a => exact transferCount_remove
  | childListScan => exact transferCount_removeAll
  | ioQueueCreate | timerCreate =>
    rw [respond, World.createHandle]
    split <;> rfl
  | timerStart timer => exact transferCount_emit rfl
  | exFreePoolWithTag p => exact transferCount_free p
  | sendControlRequest packet => exact hc.elim
  | writeBulkPipe packet => exact hc.elim
  | ioQueueRetrieveNextRequest queue => exact absurd trivial hc
  | requestRetrieveOutputBuffer request minimum => exact absurd trivial hc
  | requestComplete request status => exact absurd trivial hc
  | requestCompleteWithInformation request status information output => exact absurd trivial hc
  | _ => rfl

theorem transferCount_onRequests (c : Call) (w : World) (hc : c.OnRequests) :
    (respond c w).2.transferCount = w.transferCount := by
  cases c with
  | ioQueueRetrieveNextRequest queue =>
    obtain ⟨queues, hq⟩ := w.retrieveNextRequest_world queue
    rw [respond, hq]
    rfl
  | requestRetrieveOutputBuffer request minimum => rfl
  | requestComplete request status => exact transferCount_emit rfl
  | requestCompleteWithInformation request status information output => exact transferCount_emit rfl
  | _ => exact hc.elim

theorem sends_none (hp : p.Uses Call.Silent) : Sends 0 p :=
  Program.costs_of_uses transferCount_silent hp

theorem sends_records (hp : p.Uses Call.Records) : Sends 0 p := sends_none (silent_of_records hp)

theorem sends_call {c : Call} (hc : c.Silent) : Sends 0 (call c) := sends_none (silent_call hc)

theorem sends_localArray {size : Nat} : Sends 0 (localArray size) :=
  Program.costs_perform fun w => Nat.le_refl w.transferCount

theorem sends_localCid : Sends 0 localCid :=
  Program.costs_then sends_localArray (Nat.le_refl 0) fun _ => Program.costs_pure _

theorem sends_sendControlRequest {packet : List BYTE} : Sends 1 (sendControlRequest packet) :=
  Program.costs_perform fun w => by
    simp [respond, World.sendControl, World.transferCount, Output.isTransfer]

theorem sends_writeBulkPipe {packet : List BYTE} : Sends 1 (writeBulkPipe packet) :=
  Program.costs_perform fun w => by
    simp [respond, World.sendBulk, World.transferCount, Output.isTransfer]

end

section

variable {device : BthDevice} {buffer : Buffer} {handle : BthHandle} {channel scid dcid : L2capCid}
  {data : List BYTE} {address : BdAddr}

theorem sends_hciCommandWith {c : HciCommand} {size : Nat} {payload : List BYTE} :
    Sends 1 (hciCommandWith c size payload) :=
  Program.costs_then sends_localArray (Nat.zero_le 1) fun _ =>
    sends_sendControlRequest

theorem sends_hidCommand : Sends 1 (hidCommand handle channel data) := by
  refine Program.costs_then (sends_call id) (Nat.zero_le 1) fun _ => ?_
  refine Program.costs_then (sends_call id) (Nat.zero_le 1) fun _ => ?_
  refine Program.costs_then sends_writeBulkPipe (Nat.le_refl 1) fun _ => ?_
  exact Program.costs_then (sends_call id) (Nat.le_refl 0) fun _ => Program.costs_pure _

theorem sends_enableHid : Sends 2 (enableHid device) := by
  refine Program.costs_then sends_hidCommand (by decide) fun _ => ?_
  refine Program.costs_ite (fun _ => Program.costs_pure _) fun _ => ?_
  refine Program.costs_then sends_hidCommand (by decide) fun _ => ?_
  refine Program.costs_ite (fun _ => Program.costs_pure _) fun _ => ?_
  exact Program.costs_then (sends_call id) (by decide) fun _ => Program.costs_pure _

theorem sends_acceptConnection {identifier : BYTE} :
    Sends 3 (acceptConnection handle identifier scid dcid) := by
  refine Program.costs_then sends_writeBulkPipe (by decide) fun _ => ?_
  refine Program.costs_ite (fun _ => Program.costs_pure _) fun _ => ?_
  refine Program.costs_then sends_writeBulkPipe (by decide) fun _ => ?_
  refine Program.costs_ite (fun _ => Program.costs_pure _) fun _ => ?_
  refine Program.costs_then (sends_call id) (by decide) fun _ => ?_
  exact Program.costs_then (sends_call id) (by decide) fun _ => sends_writeBulkPipe

theorem sends_ds3ConnectionRequest : Sends 3 (ds3ConnectionRequest device buffer) := by
  refine Program.costs_then sends_localCid (by decide) fun _ => ?_
  refine Program.costs_then (sends_records records_l2capSetConnectionType) (by decide) fun _ => ?_
  exact Program.costs_then sends_acceptConnection (by decide) fun _ => Program.costs_pure _

theorem sends_ds3ConfigurationRequest : Sends 1 (ds3ConfigurationRequest device buffer) := by
  refine Program.costs_then sends_localCid (by decide) fun _ => ?_
  refine Program.costs_then (sends_records records_assignIf) (by decide) fun _ => ?_
  refine Program.costs_then (sends_records records_assignIf) (by decide) fun _ => ?_
  exact Program.costs_then sends_writeBulkPipe (by decide) fun _ => Program.costs_pure _

theorem sends_ds3ConfigurationResponse : Sends 2 (ds3ConfigurationResponse device buffer) := by
  refine Program.costs_then (sends_records records_assignIf) (by decide) fun _ => ?_
  refine Program.costs_then (sends_records records_assignIf) (by decide) fun _ => ?_
  refine Program.costs_ite (fun _ => ?_) fun _ => Program.costs_pure _
  exact Program.costs_then sends_enableHid (by decide) fun _ => Program.costs_pure _

theorem sends_ds3DisconnectionRequest : Sends 2 (ds3DisconnectionRequest device buffer) := by
  refine Program.costs_ite (fun _ => ?_) fun _ => Program.costs_mono sends_writeBulkPipe (by decide)
  exact Program.costs_then sends_hciCommandWith (by decide) fun _ => sends_writeBulkPipe

theorem sends_dispatchSignalling : Sends
    ((L2capSignallingCommandCode.ofCode (buffer 8)).elim 0
      L2capSignallingCommandCode.transferBound) (dispatchSignalling device buffer) := by
  unfold dispatchSignalling
  cases L2capSignallingCommandCode.ofCode (buffer 8) with
  | none => exact Program.costs_pure _
  | some code =>
    cases code with
    | connectionRequest =>
      exact Program.costs_then sends_ds3ConnectionRequest (Nat.le_refl 3) fun _ =>
        Program.costs_pure _
    | configurationRequest =>
      exact Program.costs_then sends_ds3ConfigurationRequest (Nat.le_refl 1) fun _ =>
        Program.costs_pure _
    | configurationResponse =>
      exact Program.costs_then sends_ds3ConfigurationResponse (Nat.le_refl 2) fun _ =>
        Program.costs_pure _
    | disconnectionRequest =>
      exact Program.costs_then sends_ds3DisconnectionRequest (Nat.le_refl 2) fun _ =>
        Program.costs_pure _
    | _ => exact Program.costs_pure _

theorem sends_dispatchPacket : Sends (packetTransferBound buffer) (dispatchPacket device buffer) := by
  unfold dispatchPacket packetTransferBound
  split
  · exact sends_dispatchSignalling
  refine Program.costs_ite (fun _ => ?_) fun _ => Program.costs_pure _
  cases device.deviceType with
  | ps3Dualshock =>
    have hs : Sends 0 (ds3ProcessHidInputReport device buffer) :=
      Program.costs_of_uses transferCount_onRequests onRequests_ds3ProcessHidInputReport
    exact Program.costs_then hs (Nat.le_refl 0) fun _ => Program.costs_pure _
  | _ => exact Program.costs_pure _

theorem sends_hciConnectionRequestEv : Sends 2 (hciConnectionRequestEv buffer) := by
  refine Program.costs_then (sends_call id) (Nat.zero_le 2) fun _ => ?_
  refine Program.costs_then (sends_call id) (Nat.zero_le 2) fun _ => ?_
  refine Program.costs_then (sends_call id) (Nat.zero_le 2) fun _ => ?_
  refine Program.costs_ite (fun _ => Program.costs_pure _) fun _ => ?_
  refine Program.costs_then sends_hciCommandWith (by decide) fun _ => ?_
  refine Program.costs_ite (fun _ => Program.costs_pure _) fun _ => ?_
  exact Program.costs_then sends_hciCommandWith (by decide) fun _ => Program.costs_pure _

theorem sends_hciConnectionCompleteEv : Sends 1 (hciConnectionCompleteEv buffer) := by
  refine Program.costs_ite (fun _ => ?_) fun _ => Program.costs_pure _
  refine Program.costs_then (sends_records records_wireBusSetChildHandle) (Nat.zero_le 1) fun _ => ?_
  exact Program.costs_then sends_hciCommandWith (by decide) fun _ => Program.costs_pure _

end

section

variable (buffer : Buffer)

theorem sends_sendNext {c : HciCommand} (hc : c ∈ startupCommands) : Sends 1 (sendNext c) := by
  obtain ⟨size, payload, -, he⟩ := startupBuilder_eq hc
  rw [sendNext, he]
  exact Program.costs_then sends_hciCommandWith (Nat.le_refl 1) fun _ => Program.costs_pure _

theorem sends_withoutPairing : Sends 1 withoutPairing :=
  Program.costs_then (sends_call id) (Nat.zero_le 1) fun _ => sends_sendNext (by decide)

theorem sends_versionsRead : Sends 1 (versionsRead buffer) := by
  refine Program.costs_then (sends_call id) (Nat.zero_le 1) fun _ => ?_
  refine Program.costs_then (sends_call id) (Nat.zero_le 1) fun _ => ?_
  refine Program.costs_then (sends_call id) (Nat.zero_le 1) fun context => ?_
  refine Program.costs_ite (fun _ => ?_) fun _ => Program.costs_ite (fun _ => ?_) fun _ => ?_
  · refine Program.costs_then sends_hciCommandWith (Nat.le_refl 1) fun status => ?_
    refine Program.costs_ite (fun _ => ?_) fun _ => Program.costs_pure _
    exact Program.costs_then (sends_call id) (Nat.zero_le _) fun _ => Program.costs_pure _
  · exact sends_sendNext (by decide)
  · exact sends_sendNext (by decide)

theorem sends_commandDone {context : DeviceContext} (c : HciCommand) :
    Sends 1 (commandDone buffer context c) := by
  cases c with
  | reset =>
    refine Program.costs_ite (fun _ => ?_) fun _ => Program.costs_pure _
    refine Program.costs_then (sends_call id) (Nat.zero_le 1) fun _ => ?_
    exact Program.costs_then (sends_call id) (Nat.zero_le 1) fun _ => sends_sendNext (by decide)
  | readBdAddr =>
    refine Program.costs_ite (fun _ => ?_) fun _ => Program.costs_pure _
    exact Program.costs_then (sends_call id) (Nat.zero_le 1) fun _ => sends_sendNext (by decide)
  | readLocalVersionInfo =>
    exact Program.costs_ite (fun _ => sends_versionsRead buffer) fun _ => Program.costs_pure _
  | writeSimplePairingDebugMode => exact sends_sendNext (by decide)
  | writeScanEnable =>
    exact Program.costs_ite (fun _ => Program.costs_mono (sends_call id) (Nat.zero_le 1))
      fun _ => Program.costs_pure _
  | _ =>
    refine Program.costs_ite (fun _ => ?_) fun _ =>
      Program.costs_ite (fun _ => sends_withoutPairing) fun _ => Program.costs_pure _
    first
      | exact sends_sendNext (by decide)
      | exact Program.costs_pure _

theorem sends_hciCommandCompleteEv (command : Option HciCommand) :
    Sends 1 (hciCommandCompleteEv buffer command) := by
  rw [hciCommandCompleteEv_eq]
  refine Program.costs_then (sends_call id) (Nat.zero_le 1) fun context => ?_
  cases command with
  | none => exact Program.costs_pure _
  | some c => exact sends_commandDone buffer c

theorem sends_hciCommandStatusEv (command : Option HciCommand) :
    Sends 1 (hciCommandStatusEv buffer command) := by
  rw [hciCommandStatusEv_eq]
  exact Program.costs_ite (fun _ => sends_withoutPairing) fun _ => Program.costs_pure _

theorem sends_dispatchEvent (event : HciEvent) (n : Nat) :
    Sends event.transferBound (dispatchEvent event buffer n) := by
  cases event with
  | commandComplete => exact sends_hciCommandCompleteEv buffer _
  | commandStatus => exact sends_hciCommandStatusEv buffer _
  | connectionRequest => exact sends_hciConnectionRequestEv
  | connectionComplete => exact sends_hciConnectionCompleteEv
  | disconnectionComplete => exact sends_records records_hciDisconnectionCompleteEv
  | remoteNameRequestComplete => exact sends_records records_hciRemoteNameRequestCompleteEv
  | _ => exact Program.costs_pure _

end

section

variable {address : BdAddr}

theorem sends_wireShockEvtUsbBulkReadPipeReadComplete (buffer : Buffer) (n : Nat) :
    Sends (if n = 0 then 0 else packetTransferBound buffer)
      (wireShockEvtUsbBulkReadPipeReadComplete buffer n) := by
  unfold wireShockEvtUsbBulkReadPipeReadComplete
  split
  · exact Program.costs_pure _
  refine Program.costs_then (sends_records records_wireBusGetPdoAddressDescriptionByHandle)
    (Nat.zero_le _) fun r => ?_
  cases r with
  | none => exact Program.costs_pure _
  | some entry =>
    refine Program.costs_then sends_dispatchPacket (Nat.le_refl _) fun device => ?_
    exact Program.costs_mono (sends_records records_writtenBack) (Nat.zero_le _)

theorem sends_wireChildOutputReportEvtTimerFunc :
    Sends 1 (wireChildOutputReportEvtTimerFunc address) := by
  refine Program.costs_then (sends_call id) (Nat.zero_le 1) fun r => ?_
  cases r with
  | error => exact Program.costs_pure _
  | ok device =>
    dsimp only
    cases device.deviceType with
    | ps3Dualshock =>
      refine Program.costs_then (sends_call id) (Nat.zero_le 1) fun _ => ?_
      exact Program.costs_then sends_hidCommand (by decide) fun _ => Program.costs_pure _
    | _ => exact Program.costs_pure _

theorem sends_wireShockEvtDeviceD0Entry : Sends 1 wireShockEvtDeviceD0Entry := by
  refine Program.costs_then (sends_none silent_startTargets) (Nat.zero_le 1) fun _ => ?_
  exact Program.costs_then sends_hciCommandWith (by decide) fun _ => Program.costs_pure _

theorem sends_wireShockEvtDeviceD0Exit : Sends 1 wireShockEvtDeviceD0Exit := by
  refine Program.costs_then (sends_call id) (Nat.zero_le 1) fun _ => ?_
  refine Program.costs_then sends_hciCommandWith (by decide) fun _ => ?_
  refine Program.costs_then (sends_call id) (Nat.le_refl 0) fun _ => ?_
  refine Program.costs_then (sends_call id) (Nat.le_refl 0) fun _ => ?_
  exact Program.costs_then (sends_call id) (Nat.le_refl 0) fun _ => Program.costs_pure _

end

theorem transferCount_of_sends {α : Type} {n : Nat} {p : Driver α} (hp : Sends n p) (w : World) :
    (exec p w.clearLog).2.transferCount ≤ n := by
  have hw := hp w.clearLog
  have hc : w.clearLog.transferCount = 0 := rfl
  rwa [hc, Nat.zero_add] at hw

theorem transferCount_step (w : World) (e : Event) : (w.step e).transferCount ≤ e.transferBound := by
  cases e with
  | hci buffer n =>
    rw [step_hci, Event.transferBound]
    cases receivedEvent buffer n with
    | none => exact Nat.le_refl 0
    | some event => exact transferCount_of_sends (sends_dispatchEvent buffer event n) w
  | acl buffer n =>
    exact transferCount_of_sends (sends_wireShockEvtUsbBulkReadPipeReadComplete buffer n) w
  | createDevice a =>
    exact step_createDevice_invariant w (I := fun v => v.transferCount ≤ 0) (fun _ hv => hv)
      (transferCount_of_sends (sends_records records_wireShockEvtWdfChildListCreateDevice) w)
  | timer a => exact transferCount_of_sends sends_wireChildOutputReportEvtTimerFunc w
  | d0Entry => exact transferCount_of_sends sends_wireShockEvtDeviceD0Entry w
  | d0Exit => exact transferCount_of_sends sends_wireShockEvtDeviceD0Exit w

theorem transfers_bounded (w : World) (es : List Event) :
    total World.step World.transferCount w es ≤ (es.map Event.transferBound).sum :=
  total_le transferCount_step w es

end WireShock
