import WireShock.Interaction.Monitor
import WireShock.Interaction.WriteBack
import WireShock.Semantics.Footprint

namespace WireShock
open Interaction

abbrev DeviceCopy := Copy BdAddr BthDevice

def Idle (m : Option DeviceCopy) : Prop := ∀ c ∈ m, c.dirty = false

def Holding (a : BdAddr) (device : BthDevice) (m : Option DeviceCopy) : Prop :=
  ∃ dirty, m = some ⟨a, some device, dirty⟩

def MayStore (a : BdAddr) (device : BthDevice) (m : Option DeviceCopy) : Prop :=
  ∃ c ∈ m, c.key = a ∧ ∀ e ∈ c.value, e = device

def copyMonitor : Monitor framework (Option DeviceCopy) where
  allowed
    | .childListRetrieveAddressDescription _, m => Idle m
    | .pdoRetrieveAddressDescription _, m => Idle m
    | .assign _, m => ∃ c ∈ m, c.value.isSome
    | .childListAddOrUpdateAsPresent a device, m => MayStore a device m
    | .pdoUpdateAddressDescription a device, m => MayStore a device m
    | _, _ => True
  admits
    | .timerCreate, r => r.isOk = true
    | _, _ => True
  observe
    | .childListRetrieveAddressDescription a, r, _ => some ⟨a, r.toOption, false⟩
    | .pdoRetrieveAddressDescription a, r, _ => some ⟨a, r.toOption, false⟩
    | .assign value, _, m => m.map fun c => c.change value.apply
    | .childListAddOrUpdateAsPresent _ _, _, _ => none
    | .pdoUpdateAddressDescription _ _, _, _ => none
    | _, _, m => m

section

variable {m : Option DeviceCopy} {a : BdAddr} {device : BthDevice}

theorem idle_none : Idle none := fun _ h => nomatch h

theorem mayStore_of_holding (h : Holding a device m) : MayStore a device m := by
  obtain ⟨dirty, rfl⟩ := h
  exact ⟨_, rfl, rfl, fun _ he => (Option.some.inj he).symm⟩

theorem neutral_of_transmit {handle : BthHandle} {c : Call} (h : c.Transmit handle) :
    copyMonitor.Neutral c := by
  cases c <;> first | exact fun _ => ⟨trivial, fun _ => rfl⟩ | exact h.elim

theorem neutral_of_setup {c : Call} (h : c.Setup) : copyMonitor.Neutral c := by
  cases c <;> first | exact fun _ => ⟨trivial, fun _ => rfl⟩ | exact h.elim

theorem follows_frame {P : Call → Prop} {I : Option DeviceCopy → Prop} {α : Type} {p : Driver α}
    (hP : ∀ c, P c → copyMonitor.Neutral c) (hp : p.Uses P) (hm : I m) :
    copyMonitor.Follows p (fun _ n => I n) m :=
  Monitor.follows_mono (Q := fun _ n => n = m) (fun _ _ hn => hn ▸ hm)
    (Monitor.follows_of_uses hP hp)

theorem follows_neutral {I : Option DeviceCopy → Prop} {c : Call} (hc : copyMonitor.Neutral c)
    (hm : I m) : copyMonitor.Follows (call c) (fun _ n => I n) m :=
  follows_frame (P := copyMonitor.Neutral) (fun _ h => h) (uses_call hc) hm

theorem follows_transmit {handle : BthHandle} {α : Type} {p : Driver α}
    (hp : p.Uses (Call.Transmit handle)) (hm : Holding a device m) :
    copyMonitor.Follows p (fun _ n => Holding a device n) m :=
  follows_frame (fun _ => neutral_of_transmit) hp hm

theorem follows_signal {handle : BthHandle} {α : Type} {p : Driver α}
    (hp : p.Uses (Call.Signal handle)) (hm : Holding a device m) :
    copyMonitor.Follows p (fun _ n => Holding a device n) m :=
  follows_transmit (transmit_of_signal hp) hm

theorem follows_assign {value : Assignment} (hm : Holding a device m) :
    copyMonitor.Follows (device.assign value) (fun other n => Holding a other n) m := by
  obtain ⟨dirty, rfl⟩ := hm
  refine Monitor.follows_bind (Monitor.follows_perform ⟨_, rfl, rfl⟩ fun _ _ => ?_)
    fun _ n hn => Monitor.follows_pure hn
  exact ⟨true, rfl⟩

theorem follows_assignIf {value : Assignment} {c : Prop} [Decidable c] (hm : Holding a device m) :
    copyMonitor.Follows (device.assignIf c value) (fun other n => Holding a other n) m :=
  Monitor.follows_ite (fun _ => follows_assign hm) fun _ => Monitor.follows_pure hm

def Fetched (a : BdAddr) (r : Except NTSTATUS BthDevice) (m : Option DeviceCopy) : Prop :=
  Idle m ∧ ∀ device ∈ r.toOption, Holding a device m

theorem fetched_observe (a : BdAddr) (r : Except NTSTATUS BthDevice) :
    Fetched a r (some ⟨a, r.toOption, false⟩) := by
  refine ⟨fun c hc => ?_, fun device hd => ?_⟩
  · cases hc
    rfl
  · exact ⟨false, congrArg (fun o => some (Copy.mk a o false)) hd⟩

theorem follows_wireBusGetPdoAddressDescription (hm : Idle m) :
    copyMonitor.Follows (wireBusGetPdoAddressDescription a)
      (fun r n => Idle n ∧ ∀ device ∈ r, Holding a device n) m := by
  refine Monitor.follows_bind (Q := Fetched a)
    (Monitor.follows_perform hm fun r _ => fetched_observe a r) fun r n hn => ?_
  cases r with
  | error status => exact Monitor.follows_pure ⟨hn.1, fun _ hd => nomatch hd⟩
  | ok device => exact Monitor.follows_pure hn

theorem follows_wireBusSetPdoAddressDescription (hm : MayStore a device m) :
    copyMonitor.Follows (wireBusSetPdoAddressDescription a device) (fun _ n => Idle n) m :=
  Monitor.follows_bind (Q := fun _ n => Idle n)
    (Monitor.follows_perform hm fun _ _ => idle_none) fun _ _ hn => Monitor.follows_pure hn

theorem follows_retrieveNextDevice {handle : BthHandle} {list : List (BdAddr × Bool)}
    (hm : Idle m) : copyMonitor.Follows (retrieveNextDevice handle list)
      (fun r n => Idle n ∧ ∀ entry ∈ r, Holding entry.1 entry.2 n) m := by
  induction list generalizing m with
  | nil => exact Monitor.follows_pure ⟨hm, fun _ h => nomatch h⟩
  | cons entry rest ih =>
    obtain ⟨address, created⟩ := entry
    refine Monitor.follows_ite (fun _ => Monitor.follows_pure ⟨hm, fun _ h => nomatch h⟩) fun _ => ?_
    refine Monitor.follows_bind (follows_wireBusGetPdoAddressDescription hm) fun r n hn => ?_
    cases r with
    | none => exact Monitor.follows_pure ⟨hn.1, fun _ h => nomatch h⟩
    | some device =>
      refine Monitor.follows_ite (fun _ => Monitor.follows_pure ⟨hn.1, ?_⟩) fun _ => ih hn.1
      rintro entry he
      cases he
      exact hn.2 device rfl

theorem follows_wireBusGetPdoAddressDescriptionByHandle {handle : BthHandle} (hm : Idle m) :
    copyMonitor.Follows (wireBusGetPdoAddressDescriptionByHandle handle)
      (fun r n => Idle n ∧ ∀ entry ∈ r, Holding entry.1 entry.2 n) m :=
  Monitor.follows_bind (follows_neutral (fun _ => ⟨trivial, fun _ => rfl⟩) hm)
    fun _ _ hn => follows_retrieveNextDevice hn

end

section

variable {m : Option DeviceCopy} {a : BdAddr} {device : BthDevice} {buffer : Buffer}

theorem follows_l2capSetConnectionType {type : Option L2capPsm} {scid dcid : L2capCid}
    (hm : Holding a device m) : copyMonitor.Follows (l2capSetConnectionType device type scid dcid)
      (fun r n => Holding a r.1 n) m := by
  cases type with
  | none => exact Monitor.follows_pure hm
  | some psm =>
    have hu : l2capGetNewCid.Uses (Call.Transmit device.hciConnectionHandle) :=
      transmit_of_signal signal_l2capGetNewCid
    cases psm <;>
      exact Monitor.follows_bind (follows_transmit hu hm) fun _ _ hn =>
        Monitor.follows_bind (follows_assign hn) fun _ _ hn =>
          Monitor.follows_bind (follows_assign hn) fun _ _ hn => Monitor.follows_pure hn

theorem follows_localCid (hm : Holding a device m) :
    copyMonitor.Follows localCid (fun _ n => Holding a device n) m := by
  have hu : localCid.Uses (Call.Transmit device.hciConnectionHandle) :=
    transmit_of_signal signal_localCid
  exact follows_transmit hu hm

theorem follows_ds3ConnectionRequest (hm : Holding a device m) :
    copyMonitor.Follows (ds3ConnectionRequest device buffer) (fun r n => Holding a r.2 n) m := by
  refine Monitor.follows_bind (follows_localCid hm) fun _ _ hn => ?_
  refine Monitor.follows_bind (follows_l2capSetConnectionType hn) fun _ _ hn => ?_
  exact Monitor.follows_bind (follows_signal signal_acceptConnection hn) fun _ _ hn =>
    Monitor.follows_pure hn

theorem follows_ds3ConfigurationRequest (hm : Holding a device m) :
    copyMonitor.Follows (ds3ConfigurationRequest device buffer) (fun r n => Holding a r.2 n) m := by
  refine Monitor.follows_bind (follows_localCid hm) fun _ _ hn => ?_
  refine Monitor.follows_bind (follows_assignIf hn) fun _ _ hn => ?_
  refine Monitor.follows_bind (follows_assignIf hn) fun _ _ hn => ?_
  exact Monitor.follows_bind (follows_signal signal_l2capCommand hn) fun _ _ hn =>
    Monitor.follows_pure hn

theorem follows_ds3ConfigurationResponse (hm : Holding a device m) :
    copyMonitor.Follows (ds3ConfigurationResponse device buffer) (fun r n => Holding a r.2 n) m := by
  refine Monitor.follows_bind (follows_assignIf hm) fun _ _ hn => ?_
  refine Monitor.follows_bind (follows_assignIf hn) fun _ _ hn => ?_
  refine Monitor.follows_ite (fun _ => ?_) fun _ => Monitor.follows_pure hn
  exact Monitor.follows_bind (follows_signal signal_enableHid hn) fun _ _ hn =>
    Monitor.follows_pure hn

theorem follows_dispatchSignalling (hm : Holding a device m) :
    copyMonitor.Follows (dispatchSignalling device buffer) (fun other n => Holding a other n) m := by
  unfold dispatchSignalling
  cases L2capSignallingCommandCode.ofCode (buffer 8) with
  | none => exact Monitor.follows_pure hm
  | some code =>
    cases code with
    | connectionRequest =>
      exact Monitor.follows_bind (follows_ds3ConnectionRequest hm) fun _ _ hn =>
        Monitor.follows_pure hn
    | configurationRequest =>
      exact Monitor.follows_bind (follows_ds3ConfigurationRequest hm) fun _ _ hn =>
        Monitor.follows_pure hn
    | configurationResponse =>
      exact Monitor.follows_bind (follows_ds3ConfigurationResponse hm) fun _ _ hn =>
        Monitor.follows_pure hn
    | disconnectionRequest =>
      exact Monitor.follows_bind (follows_signal signal_ds3DisconnectionRequest hm)
        fun _ _ hn => Monitor.follows_pure hn
    | _ => exact Monitor.follows_pure hm

theorem follows_dispatchPacket (hm : Holding a device m) :
    copyMonitor.Follows (dispatchPacket device buffer) (fun other n => Holding a other n) m := by
  refine Monitor.follows_ite (fun _ => follows_dispatchSignalling hm) fun _ => ?_
  refine Monitor.follows_ite (fun _ => ?_) fun _ => Monitor.follows_pure hm
  cases device.deviceType with
  | ps3Dualshock =>
    have hu : (ds3ProcessHidInputReport device buffer).Uses
        (Call.Transmit device.hciConnectionHandle) := transmit_ds3ProcessHidInputReport
    exact Monitor.follows_bind (follows_transmit hu hm) fun _ _ hn => Monitor.follows_pure hn
  | _ => exact Monitor.follows_pure hm

theorem follows_wireShockEvtUsbBulkReadPipeReadComplete {n : Nat} (hm : Idle m) :
    copyMonitor.Follows (wireShockEvtUsbBulkReadPipeReadComplete buffer n) (fun _ => Idle) m := by
  refine Monitor.follows_ite (fun _ => Monitor.follows_pure hm) fun _ => ?_
  refine Monitor.follows_bind (follows_wireBusGetPdoAddressDescriptionByHandle hm) fun r _ hn => ?_
  cases r with
  | none => exact Monitor.follows_pure hn.1
  | some entry =>
    refine Monitor.follows_bind (follows_dispatchPacket (hn.2 entry rfl)) fun _ _ hn => ?_
    exact Monitor.follows_bind (follows_wireBusSetPdoAddressDescription (mayStore_of_holding hn))
      fun _ _ hn => Monitor.follows_pure hn

theorem follows_withDevice {f : BthDevice → Driver Unit} (hm : Idle m)
    (hf : ∀ device n, Holding a device n → copyMonitor.Follows (f device) (fun _ => Idle) n) :
    copyMonitor.Follows (do match ← wireBusGetPdoAddressDescription a with
        | none => return
        | some device => f device : Driver Unit) (fun _ => Idle) m := by
  refine Monitor.follows_bind (follows_wireBusGetPdoAddressDescription hm) fun r n hn => ?_
  cases r with
  | none => exact Monitor.follows_pure hn.1
  | some device => exact hf device n (hn.2 device rfl)

theorem follows_setAndReturn (hm : Holding a device m) :
    copyMonitor.Follows (do let _ ← wireBusSetPdoAddressDescription a device : Driver Unit)
      (fun _ => Idle) m :=
  Monitor.follows_bind (follows_wireBusSetPdoAddressDescription (mayStore_of_holding hm))
    fun _ _ hn => Monitor.follows_pure hn

theorem follows_wireBusSetChildHandle {handle : BthHandle} (hm : Idle m) :
    copyMonitor.Follows (wireBusSetChildHandle a handle) (fun _ => Idle) m :=
  follows_withDevice hm fun _ _ hn =>
    Monitor.follows_bind (follows_assign hn) fun _ _ hn => follows_setAndReturn hn

theorem follows_wireBusSetChildDeviceType {deviceType : DsDeviceType} (hm : Idle m) :
    copyMonitor.Follows (wireBusSetChildDeviceType a deviceType) (fun _ => Idle) m :=
  follows_withDevice hm fun _ _ hn =>
    Monitor.follows_bind (follows_assign hn) fun _ _ hn => follows_setAndReturn hn

theorem neutral_exAllocatePoolWithTag {size : Nat} :
    copyMonitor.Neutral (.exAllocatePoolWithTag size) := fun _ => ⟨trivial, fun _ => rfl⟩

theorem neutral_rtlCopyMemory {p : Pointer} {data : List BYTE} :
    copyMonitor.Neutral (.rtlCopyMemory p data) := fun _ => ⟨trivial, fun _ => rfl⟩

theorem follows_freeIfPresent {p : Option Pointer} (hm : Holding a device m) :
    copyMonitor.Follows (freeIfPresent p) (fun _ n => Holding a device n) m := by
  cases p with
  | none => exact Monitor.follows_pure hm
  | some p => exact follows_neutral (fun _ => ⟨trivial, fun _ => rfl⟩) hm

theorem follows_wireBusSetChildRemoteName {name : List BYTE} (hm : Idle m) :
    copyMonitor.Follows (wireBusSetChildRemoteName a name) (fun _ => Idle) m := by
  refine follows_withDevice hm fun device n hn => ?_
  refine Monitor.follows_bind (follows_freeIfPresent hn) fun _ _ hn => ?_
  refine Monitor.follows_bind (follows_neutral neutral_exAllocatePoolWithTag hn) fun p _ hn => ?_
  refine Monitor.follows_bind (follows_assign hn) fun _ _ hn => ?_
  exact Monitor.follows_bind (follows_neutral neutral_rtlCopyMemory hn) fun _ _ hn =>
    follows_setAndReturn hn

theorem follows_initOutputReport (hm : Holding a device m) :
    copyMonitor.Follows (initOutputReport device) (fun other n => Holding a other n) m := by
  refine Monitor.follows_bind (follows_freeIfPresent hm) fun _ _ hn => ?_
  cases device.deviceType with
  | ps3Dualshock =>
    refine Monitor.follows_bind (follows_neutral neutral_exAllocatePoolWithTag hn) fun p _ hn => ?_
    refine Monitor.follows_bind (follows_assign hn) fun _ _ hn => ?_
    exact Monitor.follows_bind (follows_neutral neutral_rtlCopyMemory hn) fun _ _ hn =>
      Monitor.follows_pure hn
  | _ => exact Monitor.follows_pure hn

theorem follows_wireBusInitChildOutputReport (hm : Idle m) :
    copyMonitor.Follows (wireBusInitChildOutputReport a) (fun _ => Idle) m :=
  follows_withDevice hm fun _ _ hn =>
    Monitor.follows_bind (follows_initOutputReport hn) fun _ _ hn => follows_setAndReturn hn

end

section

variable {m : Option DeviceCopy} {buffer : Buffer}

def Call.Send : Call → Prop
  | .localArray _ => True
  | .sendControlRequest _ => True
  | _ => False

theorem send_hciCommandWith {c : HciCommand} {size : Nat} {payload : List BYTE} :
    (hciCommandWith c size payload).Uses Call.Send :=
  Program.uses_bind (uses_call trivial) fun _ => uses_call trivial

theorem neutral_of_send {c : Call} (h : c.Send) : copyMonitor.Neutral c := by
  cases c <;> first | exact fun _ => ⟨trivial, fun _ => rfl⟩ | exact h.elim

theorem follows_hciCommandWith {c : HciCommand} {size : Nat} {payload : List BYTE} (hm : Idle m) :
    copyMonitor.Follows (hciCommandWith c size payload) (fun _ => Idle) m :=
  follows_frame (fun _ => neutral_of_send) send_hciCommandWith hm

theorem follows_hciConnectionRequestEv (hm : Idle m) :
    copyMonitor.Follows (hciConnectionRequestEv buffer) (fun _ => Idle) m := by
  refine Monitor.follows_bind (follows_neutral (fun _ => ⟨trivial, fun _ => rfl⟩) hm)
    fun unwritten n hn => ?_
  refine Monitor.follows_bind
    (Q := fun r n => n = some ⟨BdAddr.fromBuffer buffer 2, r.toOption, false⟩)
    (Monitor.follows_perform hn fun _ _ => rfl) fun r n hn => ?_
  have hstore : ∀ device, (∀ e ∈ r.toOption, e = device) →
      MayStore (BdAddr.fromBuffer buffer 2) device n := fun _ he => ⟨_, hn, rfl, he⟩
  refine Monitor.follows_bind (Q := fun _ n => Idle n)
    (Monitor.follows_perform (hstore _ fun e he => ?_) fun _ _ => idle_none) fun _ _ hn => ?_
  · cases r with
    | error status => cases he
    | ok device => exact (Option.some.inj he).symm
  refine Monitor.follows_ite (fun _ => Monitor.follows_pure hn) fun _ => ?_
  refine Monitor.follows_bind (follows_hciCommandWith hn) fun _ _ hn => ?_
  refine Monitor.follows_ite (fun _ => Monitor.follows_pure hn) fun _ => ?_
  exact Monitor.follows_bind (follows_hciCommandWith hn) fun _ _ hn => Monitor.follows_pure hn

theorem follows_hciConnectionCompleteEv (hm : Idle m) :
    copyMonitor.Follows (hciConnectionCompleteEv buffer) (fun _ => Idle) m := by
  refine Monitor.follows_ite (fun _ => ?_) fun _ => Monitor.follows_pure hm
  refine Monitor.follows_bind (follows_wireBusSetChildHandle hm) fun _ _ hn => ?_
  exact Monitor.follows_bind (follows_hciCommandWith hn) fun _ _ hn => Monitor.follows_pure hn

theorem follows_hciDisconnectionCompleteEv (hm : Idle m) :
    copyMonitor.Follows (hciDisconnectionCompleteEv buffer) (fun _ => Idle) m := by
  refine Monitor.follows_ite (fun _ => ?_) fun _ => Monitor.follows_pure hm
  refine Monitor.follows_bind (follows_wireBusGetPdoAddressDescriptionByHandle hm) fun r _ hn => ?_
  cases r with
  | none => exact Monitor.follows_pure hn.1
  | some entry =>
    exact Monitor.follows_bind (follows_neutral (fun _ => ⟨trivial, fun _ => rfl⟩) hn.1)
      fun _ _ hn => Monitor.follows_pure hn

theorem follows_hciRemoteNameRequestCompleteEv {n : Nat} (hm : Idle m) :
    copyMonitor.Follows (hciRemoteNameRequestCompleteEv buffer n) (fun _ => Idle) m := by
  refine Monitor.follows_ite (fun _ => ?_) fun _ => Monitor.follows_pure hm
  refine Monitor.follows_bind (follows_wireBusSetChildRemoteName hm) fun _ _ hn => ?_
  refine Monitor.follows_bind (Q := fun _ n => Idle n) ?_
    fun _ _ hn => follows_wireBusInitChildOutputReport hn
  unfold setDeviceTypeOfRemoteName
  cases deviceTypeOfRemoteName (buffer 9) with
  | none => exact Monitor.follows_pure hn
  | some type => exact follows_wireBusSetChildDeviceType hn

theorem follows_dispatchEvent {event : HciEvent} {n : Nat} (hm : Idle m) :
    copyMonitor.Follows (dispatchEvent event buffer n) (fun _ => Idle) m := by
  cases event with
  | commandComplete =>
    exact follows_frame (fun _ => neutral_of_setup) setup_hciCommandCompleteEv hm
  | commandStatus => exact follows_frame (fun _ => neutral_of_setup) setup_hciCommandStatusEv hm
  | connectionRequest => exact follows_hciConnectionRequestEv hm
  | connectionComplete => exact follows_hciConnectionCompleteEv hm
  | disconnectionComplete => exact follows_hciDisconnectionCompleteEv hm
  | remoteNameRequestComplete => exact follows_hciRemoteNameRequestCompleteEv hm
  | _ => exact Monitor.follows_pure hm

theorem follows_wireShockEvtUsbInterruptPipeReadComplete {n : Nat} (hm : Idle m) :
    copyMonitor.Follows (wireShockEvtUsbInterruptPipeReadComplete buffer n) (fun _ => Idle) m := by
  refine Monitor.follows_ite (fun _ => Monitor.follows_pure hm) fun _ => ?_
  cases HciEvent.ofCode (buffer 0) with
  | none => exact Monitor.follows_pure hm
  | some event => exact follows_dispatchEvent hm

theorem follows_wireShockEvtWdfChildListCreateDevice {a : BdAddr} (hm : Idle m) :
    copyMonitor.Follows (wireShockEvtWdfChildListCreateDevice a) (fun _ => Idle) m := by
  refine Monitor.follows_bind (Q := Fetched a)
    (Monitor.follows_perform hm fun r _ => fetched_observe a r) fun r n hn => ?_
  cases r with
  | error status => exact Monitor.follows_pure hn.1
  | ok device =>
    refine Monitor.follows_bind (follows_neutral (I := fun n => Idle n ∧ Holding a device n)
      (fun _ => ⟨trivial, fun _ => rfl⟩) ⟨hn.1, hn.2 device rfl⟩) fun queue n hn => ?_
    cases queue with
    | error status => exact Monitor.follows_pure hn.1
    | ok queue =>
      refine Monitor.follows_bind (follows_assign hn.2) fun device n hn => ?_
      refine Monitor.follows_bind
        (Q := fun (r : Except NTSTATUS Handle) n => r.isOk = true ∧ Holding a device n)
        (Monitor.follows_perform trivial fun r hr => ⟨hr, hn⟩) fun timer n hn => ?_
      cases timer with
      | error status => cases hn.1
      | ok timer =>
        refine Monitor.follows_bind (follows_assign hn.2) fun device n hn => ?_
        exact Monitor.follows_perform (mayStore_of_holding hn) fun _ _ => idle_none

end

end WireShock
