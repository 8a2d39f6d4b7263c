import WireShock.Semantics.Footprint

namespace WireShock
open Interaction

-- the calls that serve the requests of applications
def Call.OnRequests : Call → Prop
  | .ioQueueRetrieveNextRequest _ => True
  | .requestRetrieveOutputBuffer _ _ => True
  | .requestComplete _ _ => True
  | .requestCompleteWithInformation _ _ _ _ => True
  | _ => False

def Call.Own (c : Call) : Prop := ¬ c.OnRequests

def Call.Silent : Call → Prop
  | .localArray _ => False
  | .sendControlRequest _ => False
  | .writeBulkPipe _ => False
  | c => c.Own

-- the calls that neither send nor set anything going
def Call.Records : Call → Prop
  | .timerStart _ => False
  | .ioTargetStart _ => False
  | .ioTargetStop _ => False
  | c => c.Silent

-- the calls that handling an HCI event makes
def Call.Commands : Call → Prop
  | .localArray _ => True
  | .sendControlRequest _ => True
  | c => c.Records

section

variable {α : Type} {p : Driver α} {c : Call}

theorem own_of_silent (h : c.Silent) : c.Own := by
  cases c <;> first | exact h | exact id

theorem silent_of_record (h : c.Records) : c.Silent := by
  cases c <;> first | exact h | exact h.elim

theorem own_of_command (h : c.Commands) : c.Own := by
  cases c <;> first | exact id | exact own_of_silent (silent_of_record h)

theorem own_of_setup (h : c.Setup) : c.Own := by
  cases c <;> first | exact id | exact h.elim

theorem owns_of_silent (hp : p.Uses Call.Silent) : p.Uses Call.Own :=
  Program.uses_mono (fun _ => own_of_silent) hp

theorem silent_of_records (hp : p.Uses Call.Records) : p.Uses Call.Silent :=
  Program.uses_mono (fun _ => silent_of_record) hp

theorem owns_of_records (hp : p.Uses Call.Records) : p.Uses Call.Own :=
  owns_of_silent (silent_of_records hp)

theorem owns_of_commands (hp : p.Uses Call.Commands) : p.Uses Call.Own :=
  Program.uses_mono (fun _ => own_of_command) hp

theorem owns_of_setup (hp : p.Uses Call.Setup) : p.Uses Call.Own :=
  Program.uses_mono (fun _ => own_of_setup) hp

theorem commands_of_record (h : c.Records) : c.Commands := by
  cases c <;> first | exact h | exact h.elim

theorem commands_of_records (hp : p.Uses Call.Records) : p.Uses Call.Commands :=
  Program.uses_mono (fun _ => commands_of_record) hp

theorem records_call (hc : c.Records) : (call c).Uses Call.Records := uses_call hc

theorem silent_call (hc : c.Silent) : (call c).Uses Call.Silent := uses_call hc

theorem owns_call (hc : c.Silent) : (call c).Uses Call.Own := owns_of_silent (silent_call hc)

end

section

variable {device : BthDevice} {handle : BthHandle} {address : BdAddr} {channel scid dcid : L2capCid}
  {buffer : Buffer} {data : List BYTE} {value : Assignment}

theorem records_assign : (device.assign value).Uses Call.Records :=
  Program.uses_bind (records_call id) fun _ => trivial

theorem records_assignIf {c : Prop} [Decidable c] : (device.assignIf c value).Uses Call.Records :=
  Program.uses_ite (fun _ => records_assign) fun _ => trivial

theorem records_l2capGetNewCid : l2capGetNewCid.Uses Call.Records :=
  Program.uses_bind (records_call id) fun _ => Program.uses_bind (records_call id) fun _ => trivial

theorem records_l2capSetConnectionType {type : Option L2capPsm} :
    (l2capSetConnectionType device type scid dcid).Uses Call.Records := by
  cases type with
  | none => trivial
  | some psm =>
    cases psm <;>
      exact Program.uses_bind records_l2capGetNewCid fun _ =>
        Program.uses_bind records_assign fun _ => Program.uses_bind records_assign fun _ => trivial

theorem records_freeIfPresent {pointer : Option Pointer} :
    (freeIfPresent pointer).Uses Call.Records := by
  cases pointer with
  | none => trivial
  | some p => exact records_call id

theorem records_wireBusGetPdoAddressDescription :
    (wireBusGetPdoAddressDescription address).Uses Call.Records := by
  refine Program.uses_bind (records_call id) fun r => ?_
  cases r <;> trivial

theorem records_retrieveNextDevice {list : List (BdAddr × Bool)} :
    (retrieveNextDevice handle list).Uses Call.Records := by
  induction list with
  | nil => trivial
  | cons entry rest ih =>
    refine Program.uses_ite (fun _ => trivial) fun _ => ?_
    refine Program.uses_bind records_wireBusGetPdoAddressDescription fun r => ?_
    cases r with
    | none => trivial
    | some device => exact Program.uses_ite (fun _ => trivial) fun _ => ih

theorem records_wireBusGetPdoAddressDescriptionByHandle :
    (wireBusGetPdoAddressDescriptionByHandle handle).Uses Call.Records :=
  Program.uses_bind (records_call id) fun _ => records_retrieveNextDevice

theorem records_wireBusSetPdoAddressDescription :
    (wireBusSetPdoAddressDescription address device).Uses Call.Records :=
  Program.uses_bind (records_call id) fun _ => trivial

theorem records_withDevice {f : BthDevice → Driver Unit} (h : ∀ device, (f device).Uses Call.Records) :
    (do match ← wireBusGetPdoAddressDescription address with
        | none => return
        | some device => f device : Driver Unit).Uses Call.Records := by
  refine Program.uses_bind records_wireBusGetPdoAddressDescription fun r => ?_
  cases r with
  | none => trivial
  | some device => exact h device

theorem records_writtenBack : (do
    let _ ← wireBusSetPdoAddressDescription address device : Driver Unit).Uses Call.Records :=
  Program.uses_bind records_wireBusSetPdoAddressDescription fun _ => trivial

theorem records_wireBusSetChildHandle : (wireBusSetChildHandle address handle).Uses Call.Records :=
  records_withDevice fun _ => Program.uses_bind records_assign fun _ => records_writtenBack

theorem records_wireBusSetChildDeviceType {deviceType : DsDeviceType} :
    (wireBusSetChildDeviceType address deviceType).Uses Call.Records :=
  records_withDevice fun _ => Program.uses_bind records_assign fun _ => records_writtenBack

theorem records_wireBusSetChildRemoteName : (wireBusSetChildRemoteName address data).Uses Call.Records :=
  records_withDevice fun _ => Program.uses_bind records_freeIfPresent fun _ =>
    Program.uses_bind (records_call id) fun _ => Program.uses_bind records_assign fun _ =>
      Program.uses_bind (records_call id) fun _ => records_writtenBack

theorem records_initOutputReport : (initOutputReport device).Uses Call.Records := by
  refine Program.uses_bind records_freeIfPresent fun _ => ?_
  cases device.deviceType with
  | ps3Dualshock =>
    exact Program.uses_bind (records_call id) fun _ => Program.uses_bind records_assign fun _ =>
      Program.uses_bind (records_call id) fun _ => trivial
  | _ => trivial

theorem records_wireBusInitChildOutputReport :
    (wireBusInitChildOutputReport address).Uses Call.Records :=
  records_withDevice fun _ => Program.uses_bind records_initOutputReport fun _ => records_writtenBack

theorem records_hciDisconnectionCompleteEv : (hciDisconnectionCompleteEv buffer).Uses Call.Records := by
  refine Program.uses_ite (fun _ => ?_) fun _ => trivial
  refine Program.uses_bind records_wireBusGetPdoAddressDescriptionByHandle fun r => ?_
  cases r with
  | none => trivial
  | some entry => exact Program.uses_bind (records_call id) fun _ => trivial

theorem records_hciRemoteNameRequestCompleteEv {n : Nat} :
    (hciRemoteNameRequestCompleteEv buffer n).Uses Call.Records := by
  refine Program.uses_ite (fun _ => ?_) fun _ => trivial
  refine Program.uses_bind records_wireBusSetChildRemoteName fun _ => ?_
  refine Program.uses_bind ?_ fun _ => records_wireBusInitChildOutputReport
  unfold setDeviceTypeOfRemoteName
  cases deviceTypeOfRemoteName (buffer 9) with
  | none => trivial
  | some deviceType => exact records_wireBusSetChildDeviceType

theorem records_wireShockEvtWdfChildListCreateDevice :
    (wireShockEvtWdfChildListCreateDevice address).Uses Call.Records := by
  refine Program.uses_bind (records_call id) fun r => ?_
  cases r with
  | error => trivial
  | ok device =>
    refine Program.uses_bind (records_call id) fun r => ?_
    cases r with
    | error => trivial
    | ok queue =>
      refine Program.uses_bind records_assign fun device => ?_
      refine Program.uses_bind (records_call id) fun r => ?_
      cases r with
      | error => trivial
      | ok timer => exact Program.uses_bind records_assign fun _ => records_call id

theorem silent_startTargets : startTargets.Uses Call.Silent := by
  refine Program.uses_bind (silent_call id) fun _ => ?_
  refine Program.uses_ite (fun _ => trivial) fun _ => Program.uses_bind (silent_call id) fun _ => ?_
  exact Program.uses_ite (fun _ => trivial) fun _ => silent_call id

theorem onRequests_completeHidInputReport {queue : Option Handle} {f : List BYTE → List BYTE} :
    (completeHidInputReport queue f).Uses Call.OnRequests := by
  refine Program.uses_bind (uses_call trivial) fun r => ?_
  cases r with
  | error => trivial
  | ok request =>
    refine Program.uses_bind (uses_call trivial) fun r => ?_
    cases r with
    | error => exact Program.uses_bind (uses_call trivial) fun _ => trivial
    | ok output => exact Program.uses_bind (uses_call trivial) fun _ => trivial

theorem onRequests_completeSecondReport {result : Except NTSTATUS NTSTATUS} :
    (completeSecondReport device buffer result).Uses Call.OnRequests := by
  cases result with
  | error => trivial
  | ok status =>
    refine Program.uses_ite (fun _ => ?_) fun _ => trivial
    refine Program.uses_bind onRequests_completeHidInputReport fun r => ?_
    cases r <;> trivial

theorem onRequests_ds3ProcessHidInputReport :
    (ds3ProcessHidInputReport device buffer).Uses Call.OnRequests :=
  Program.uses_ite (fun _ => trivial) fun _ =>
    Program.uses_bind onRequests_completeHidInputReport fun _ => onRequests_completeSecondReport

end

section

variable {buffer : Buffer} {data : List BYTE}

theorem commands_call (hc : c.Commands) : (call c).Uses Call.Commands := uses_call hc

theorem commands_hciCommandWith {command : HciCommand} {size : Nat} :
    (hciCommandWith command size data).Uses Call.Commands :=
  Program.uses_bind (uses_call trivial) fun _ => uses_call trivial

theorem commands_thenCommand {command : HciCommand} {size : Nat} :
    (do
      let _ ← hciCommandWith command size data : Driver Unit).Uses Call.Commands :=
  Program.uses_bind commands_hciCommandWith fun _ => trivial

theorem commands_startupBuilder {command : HciCommand} (hc : command ∈ startupCommands) :
    (startupBuilder command).Uses Call.Commands := by
  obtain ⟨size, payload, -, he⟩ := startupBuilder_eq hc
  rw [he]
  exact commands_hciCommandWith

theorem commands_hciCommandCompleteEv (command : Option HciCommand) :
    (hciCommandCompleteEv buffer command).Uses Call.Commands :=
  uses_hciCommandCompleteEv (fun _ => commands_startupBuilder) (fun _ => id) id id

theorem commands_hciCommandStatusEv (command : Option HciCommand) :
    (hciCommandStatusEv buffer command).Uses Call.Commands :=
  uses_hciCommandStatusEv (fun _ => commands_startupBuilder) fun _ => id

theorem commands_hciConnectionRequestEv : (hciConnectionRequestEv buffer).Uses Call.Commands := by
  refine Program.uses_bind (commands_call id) fun _ => ?_
  refine Program.uses_bind (commands_call id) fun _ => ?_
  refine Program.uses_bind (commands_call id) fun _ => ?_
  refine Program.uses_ite (fun _ => trivial) fun _ => ?_
  refine Program.uses_bind commands_hciCommandWith fun _ => ?_
  exact Program.uses_ite (fun _ => trivial) fun _ => commands_thenCommand

theorem commands_hciConnectionCompleteEv : (hciConnectionCompleteEv buffer).Uses Call.Commands := by
  refine Program.uses_ite (fun _ => ?_) fun _ => trivial
  exact Program.uses_bind (commands_of_records records_wireBusSetChildHandle) fun _ =>
    commands_thenCommand

theorem commands_dispatchEvent {event : HciEvent} {n : Nat} :
    (dispatchEvent event buffer n).Uses Call.Commands := by
  cases event with
  | commandComplete => exact commands_hciCommandCompleteEv _
  | commandStatus => exact commands_hciCommandStatusEv _
  | connectionRequest => exact commands_hciConnectionRequestEv
  | connectionComplete => exact commands_hciConnectionCompleteEv
  | disconnectionComplete => exact commands_of_records records_hciDisconnectionCompleteEv
  | remoteNameRequestComplete => exact commands_of_records records_hciRemoteNameRequestCompleteEv
  | _ => trivial

theorem commands_wireShockEvtUsbInterruptPipeReadComplete {n : Nat} :
    (wireShockEvtUsbInterruptPipeReadComplete buffer n).Uses Call.Commands := by
  refine Program.uses_ite (fun _ => trivial) fun _ => ?_
  cases HciEvent.ofCode (buffer 0) with
  | none => trivial
  | some event => exact commands_dispatchEvent

end

section

variable {device : BthDevice} {handle : BthHandle} {address : BdAddr} {channel scid dcid : L2capCid}
  {buffer : Buffer} {data : List BYTE}

theorem owns_localCid : localCid.Uses Call.Own := Program.uses_bind (uses_call id) fun _ => trivial

theorem owns_hciCommandWith {c : HciCommand} {size : Nat} :
    (hciCommandWith c size data).Uses Call.Own :=
  Program.uses_bind (uses_call id) fun _ => uses_call id

theorem owns_l2capCommand : (l2capCommand handle data).Uses Call.Own := uses_call id

theorem owns_hidCommand : (hidCommand handle channel data).Uses Call.Own := by
  refine Program.uses_bind (owns_call id) fun _ => Program.uses_bind (owns_call id) fun _ => ?_
  exact Program.uses_bind (uses_call id) fun _ => Program.uses_bind (owns_call id) fun _ => trivial

theorem owns_enableHid : (enableHid device).Uses Call.Own := by
  refine Program.uses_bind owns_hidCommand fun _ => Program.uses_ite (fun _ => trivial) fun _ => ?_
  refine Program.uses_bind owns_hidCommand fun _ => Program.uses_ite (fun _ => trivial) fun _ => ?_
  exact Program.uses_bind (owns_call id) fun _ => trivial

theorem owns_acceptConnection {identifier : BYTE} :
    (acceptConnection handle identifier scid dcid).Uses Call.Own := by
  refine Program.uses_bind owns_l2capCommand fun _ => Program.uses_ite (fun _ => trivial) fun _ => ?_
  refine Program.uses_bind owns_l2capCommand fun _ => Program.uses_ite (fun _ => trivial) fun _ => ?_
  exact Program.uses_bind (owns_call id) fun _ => Program.uses_bind (owns_call id) fun _ =>
    owns_l2capCommand

theorem owns_ds3ConnectionRequest : (ds3ConnectionRequest device buffer).Uses Call.Own :=
  Program.uses_bind owns_localCid fun _ =>
    Program.uses_bind (owns_of_records records_l2capSetConnectionType) fun _ =>
      Program.uses_bind owns_acceptConnection fun _ => trivial

theorem owns_ds3ConfigurationRequest : (ds3ConfigurationRequest device buffer).Uses Call.Own :=
  Program.uses_bind owns_localCid fun _ =>
    Program.uses_bind (owns_of_records records_assignIf) fun _ =>
      Program.uses_bind (owns_of_records records_assignIf) fun _ =>
        Program.uses_bind owns_l2capCommand fun _ => trivial

theorem owns_ds3ConfigurationResponse : (ds3ConfigurationResponse device buffer).Uses Call.Own :=
  Program.uses_bind (owns_of_records records_assignIf) fun _ =>
    Program.uses_bind (owns_of_records records_assignIf) fun _ =>
      Program.uses_ite (fun _ => Program.uses_bind owns_enableHid fun _ => trivial) fun _ => trivial

theorem owns_ds3DisconnectionRequest : (ds3DisconnectionRequest device buffer).Uses Call.Own :=
  Program.uses_ite (fun _ => Program.uses_bind owns_hciCommandWith fun _ => owns_l2capCommand)
    fun _ => owns_l2capCommand

theorem owns_dispatchSignalling : (dispatchSignalling device buffer).Uses Call.Own := by
  unfold dispatchSignalling
  cases L2capSignallingCommandCode.ofCode (buffer 8) with
  | none => trivial
  | some code =>
    cases code with
    | connectionRequest => exact Program.uses_bind owns_ds3ConnectionRequest fun _ => trivial
    | configurationRequest => exact Program.uses_bind owns_ds3ConfigurationRequest fun _ => trivial
    | configurationResponse => exact Program.uses_bind owns_ds3ConfigurationResponse fun _ => trivial
    | disconnectionRequest => exact Program.uses_bind owns_ds3DisconnectionRequest fun _ => trivial
    | _ => trivial

theorem owns_wireChildOutputReportEvtTimerFunc :
    (wireChildOutputReportEvtTimerFunc address).Uses Call.Own := by
  refine Program.uses_bind (owns_call id) fun r => ?_
  cases r with
  | error => trivial
  | ok device =>
    dsimp only
    cases device.deviceType with
    | ps3Dualshock =>
      exact Program.uses_bind (owns_call id) fun _ =>
        Program.uses_bind owns_hidCommand fun _ => trivial
    | _ => trivial

end
end WireShock
