import WireShock.Semantics.CommandAnswers

namespace WireShock
open Interaction

def BthDevice.withoutChannels (device : BthDevice) : BthDevice :=
  { device with
    l2capCommandHandle := ⟨⟨0, 0⟩, ⟨0, 0⟩⟩
    l2capInterruptHandle := ⟨⟨0, 0⟩, ⟨0, 0⟩⟩
    isHidCommandEstablished := false
    isHidCommandConfigured := false
    isHidInterruptEstablished := false
    isHidInterruptConfigured := false }

def BthDevice.SameUpToChannels (device other : BthDevice) : Prop :=
  other.withoutChannels = device.withoutChannels

theorem BthDevice.SameUpToChannels.handle {device other : BthDevice}
    (h : device.SameUpToChannels other) : other.hciConnectionHandle = device.hciConnectionHandle :=
  (congrArg BthDevice.hciConnectionHandle h :)

def DisconnectsHandle (handle : BthHandle) (packet : List BYTE) : Prop :=
  commandOfPacket packet = some .disconnect ∧ packet.getD 3 0 = handle.lsb ∧
    packet.getD 4 0 = handle.msb ^^^ 0x20

def AddressesHandle (handle : BthHandle) (packet : List BYTE) : Prop :=
  packet.getD 0 0 = handle.lsb ∧
    (packet.getD 1 0 = handle.msb ∨ packet.getD 1 0 = handle.msb ||| 0x20)

def Call.Transmit (handle : BthHandle) : Call → Prop
  | .getGlobalCid => True
  | .setGlobalCid _ => True
  | .getSignallingId => True
  | .setSignallingId _ => True
  | .localArray _ => True
  | .timerStart _ => True
  | .exAllocatePoolWithTag _ => True
  | .rtlCopyMemory _ _ => True
  | .exFreePoolWithTag _ => True
  | .sendControlRequest packet => DisconnectsHandle handle packet
  | .writeBulkPipe packet => AddressesHandle handle packet
  | .ioQueueRetrieveNextRequest _ => True
  | .requestRetrieveOutputBuffer _ _ => True
  | .requestComplete _ _ => True
  | .requestCompleteWithInformation _ _ _ _ => True
  | _ => False

def Call.Traffic (handle : BthHandle) (c : Call) : Prop :=
  c.Transmit handle ∨ ∃ value, c = .assign value

def Call.Unqueued : Call → Prop
  | .ioQueueRetrieveNextRequest _ => False
  | .requestComplete _ _ => False
  | .requestCompleteWithInformation _ _ _ _ => False
  | _ => True

def Call.Signal (handle : BthHandle) (c : Call) : Prop := c.Transmit handle ∧ c.Unqueued

def Call.Exchange (handle : BthHandle) (c : Call) : Prop :=
  c.Signal handle ∨ ∃ value, c = .assign value

def connectionCommands : List HciCommand :=
  [.acceptConnectionRequest, .deleteStoredLinkKey, .remoteNameRequest]

def Call.Bus : Call → Prop
  | .updateContext _ => False
  | .writeBulkPipe _ => False
  | .sendControlRequest packet => ∃ c, commandOfPacket packet = some c ∧ c ∈ connectionCommands
  | _ => True

def CarriesAddress (a : BdAddr) (packet : List BYTE) : Prop := (packet.drop 3).take 6 = a.address

def Call.Link (P : BdAddr → Prop) : Call → Prop
  | .updateContext _ => False
  | .childListAddOrUpdateAsPresent a _ => P a
  | .childListUpdateAsMissing a => P a
  | .childListScan => False
  | .pdoUpdateAddressDescription a _ => P a
  | .sendControlRequest packet => ∃ c a, commandOfPacket packet = some c ∧
      c ∈ connectionCommands ∧ P a ∧ CarriesAddress a packet
  | .writeBulkPipe _ => False
  | c => c.Unqueued

def Call.Setup : Call → Prop
  | .getContext => True
  | .updateContext _ => True
  | .localArray _ => True
  | .childListScan => True
  | .sendControlRequest packet => commandOfPacket packet ≠ some .disconnect
  | .ioTargetStart _ => True
  | .ioTargetStop _ => True
  | _ => False

def Call.Steady : Call → Prop
  | .childListScan => False
  | c => c.Setup

theorem setup_of_steady {c : Call} (h : c.Steady) : c.Setup := by
  cases c <;> first | exact h | exact h.elim

theorem ensures_call {P : Call → Prop} {c : Call} (h : P c) :
    (call c).Ensures P fun _ => True := Program.ensures_perform h fun _ => trivial

theorem uses_call {P : Call → Prop} {c : Call} (h : P c) : (call c).Uses P := ensures_call h

section

variable {P : Call → Prop} {buffer : Buffer} {context : DeviceContext} {c : HciCommand}
  {command : Option HciCommand}

theorem uses_sendNext (hp : ∀ c ∈ startupCommands, (startupBuilder c).Uses P)
    (hc : c ∈ startupCommands) : (sendNext c).Uses P :=
  Program.uses_bind (hp c hc) fun _ => trivial

theorem uses_withoutPairing (hp : ∀ c ∈ startupCommands, (startupBuilder c).Uses P)
    (hu : ∀ update, P (.updateContext update)) : withoutPairing.Uses P :=
  Program.uses_bind (uses_call (hu _)) fun _ => uses_sendNext hp (by decide)

theorem uses_versionsRead (hp : ∀ c ∈ startupCommands, (startupBuilder c).Uses P)
    (hu : ∀ update, P (.updateContext update)) (hg : P .getContext) :
    (versionsRead buffer).Uses P := by
  refine Program.uses_bind (uses_call (hu _)) fun _ => ?_
  refine Program.uses_bind (uses_call (hu _)) fun _ => ?_
  refine Program.uses_bind (uses_call hg) fun context => ?_
  refine Program.uses_ite (fun _ => ?_) fun _ => Program.uses_ite (fun _ => ?_) fun _ => ?_
  · refine Program.uses_bind (hp .reset (by decide)) fun status => ?_
    exact Program.uses_ite (fun _ => Program.uses_bind (uses_call (hu _)) fun _ => trivial)
      fun _ => trivial
  · exact uses_sendNext hp (by decide)
  · exact uses_sendNext hp (by decide)

theorem uses_commandDone (hp : ∀ c ∈ startupCommands, (startupBuilder c).Uses P)
    (hu : ∀ update, P (.updateContext update)) (hg : P .getContext)
    (hs : c = .reset → P .childListScan) : (commandDone buffer context c).Uses P := by
  cases c with
  | reset =>
    refine Program.uses_ite (fun _ => ?_) fun _ => trivial
    refine Program.uses_bind (uses_call (hs rfl)) fun _ => ?_
    exact Program.uses_bind (uses_call (hu _)) fun _ => uses_sendNext hp (by decide)
  | readBdAddr =>
    refine Program.uses_ite (fun _ => ?_) fun _ => trivial
    exact Program.uses_bind (uses_call (hu _)) fun _ => uses_sendNext hp (by decide)
  | readLocalVersionInfo =>
    exact Program.uses_ite (fun _ => uses_versionsRead hp hu hg) fun _ => trivial
  | writeSimplePairingDebugMode => exact uses_sendNext hp (by decide)
  | writeScanEnable => exact Program.uses_ite (fun _ => uses_call (hu _)) fun _ => trivial
  | _ =>
    refine Program.uses_ite (fun _ => ?_) fun _ =>
      Program.uses_ite (fun _ => uses_withoutPairing hp hu) fun _ => trivial
    first
      | exact uses_sendNext hp (by decide)
      | trivial

theorem uses_hciCommandCompleteEv (hp : ∀ c ∈ startupCommands, (startupBuilder c).Uses P)
    (hu : ∀ update, P (.updateContext update)) (hg : P .getContext) (hs : P .childListScan) :
    (hciCommandCompleteEv buffer command).Uses P := by
  rw [hciCommandCompleteEv_eq]
  refine Program.uses_bind (uses_call hg) fun context => ?_
  cases command with
  | none => trivial
  | some c => exact uses_commandDone hp hu hg fun _ => hs

theorem uses_hciCommandStatusEv (hp : ∀ c ∈ startupCommands, (startupBuilder c).Uses P)
    (hu : ∀ update, P (.updateContext update)) : (hciCommandStatusEv buffer command).Uses P := by
  rw [hciCommandStatusEv_eq]
  exact Program.uses_ite (fun _ => uses_withoutPairing hp hu) fun _ => trivial

theorem steady_hciCommandWith {size : Nat} {payload : List BYTE}
    (hc : c ≠ .disconnect ∧ 3 + payload.length ≤ size) :
    (hciCommandWith c size payload).Uses Call.Steady := by
  refine Program.uses_bind (uses_call trivial) fun bytes => uses_call ?_
  have hl := bytes.property
  have hp : commandOfPacket (hciPacket c (overlay bytes.val 3 payload)) = some c :=
    commandOfPacket_hciPacket c (by rw [length_overlay] <;> omega)
  simpa [Call.Steady, Call.Setup, hp] using hc.1

theorem setup_hciCommandWith {size : Nat} {payload : List BYTE}
    (hc : c ≠ .disconnect ∧ 3 + payload.length ≤ size) :
    (hciCommandWith c size payload).Uses Call.Setup :=
  Program.uses_mono (fun _ => setup_of_steady) (steady_hciCommandWith hc)

theorem steady_startupBuilder (hc : c ∈ startupCommands) : (startupBuilder c).Uses Call.Steady := by
  obtain ⟨size, payload, hp, he⟩ := startupBuilder_eq hc
  have hne : ∀ c ∈ startupCommands, c ≠ .disconnect := by decide
  rw [he]
  exact steady_hciCommandWith ⟨hne c hc, hp⟩

theorem setup_hciCommandCompleteEv : (hciCommandCompleteEv buffer command).Uses Call.Setup :=
  uses_hciCommandCompleteEv
    (fun _ hc => Program.uses_mono (fun _ => setup_of_steady) (steady_startupBuilder hc))
    (fun _ => trivial) trivial trivial

theorem steady_hciCommandStatusEv : (hciCommandStatusEv buffer command).Uses Call.Steady :=
  uses_hciCommandStatusEv (fun _ => steady_startupBuilder) fun _ => trivial

theorem steady_wireShockEvtDeviceD0Entry : wireShockEvtDeviceD0Entry.Uses Call.Steady := by
  refine Program.uses_bind ?_ fun _ => Program.uses_bind (steady_hciCommandWith (by simp)) fun _ => trivial
  refine Program.uses_bind (uses_call trivial) fun _ => ?_
  refine Program.uses_ite (fun _ => trivial) fun _ => ?_
  exact Program.uses_bind (uses_call trivial) fun _ =>
    Program.uses_ite (fun _ => trivial) fun _ => uses_call trivial

theorem setup_hciCommandStatusEv : (hciCommandStatusEv buffer command).Uses Call.Setup :=
  Program.uses_mono (fun _ => setup_of_steady) steady_hciCommandStatusEv

theorem setup_wireShockEvtDeviceD0Entry : wireShockEvtDeviceD0Entry.Uses Call.Setup :=
  Program.uses_mono (fun _ => setup_of_steady) steady_wireShockEvtDeviceD0Entry

theorem setup_wireShockEvtDeviceD0Exit : wireShockEvtDeviceD0Exit.Uses Call.Setup := by
  refine Program.uses_bind (uses_call trivial) fun _ => ?_
  refine Program.uses_bind (setup_hciCommandWith (by simp)) fun _ => ?_
  refine Program.uses_bind (uses_call trivial) fun _ => ?_
  refine Program.uses_bind (uses_call trivial) fun _ => ?_
  exact Program.uses_bind (uses_call trivial) fun _ => trivial

end

theorem bus_of_link {P : BdAddr → Prop} {c : Call} (h : c.Link P) : c.Bus := by
  cases c with
  | sendControlRequest packet =>
    obtain ⟨command, a, hc, hm, -, -⟩ := h
    exact ⟨command, hc, hm⟩
  | _ => trivial

theorem unqueued_of_link {P : BdAddr → Prop} {c : Call} (h : c.Link P) : c.Unqueued := by
  cases c <;> trivial

theorem unqueued_of_setup {c : Call} (h : c.Setup) : c.Unqueued := by
  cases c <;> trivial

theorem drop_hciPacket {c : HciCommand} {buffer payload : List BYTE}
    (h : 3 + payload.length ≤ buffer.length) :
    (hciPacket c (overlay buffer 3 payload)).drop 3 =
      payload ++ buffer.drop (3 + payload.length) := by
  have hl : (buffer.take 3).length = 3 := List.length_take_of_le (by omega)
  have ho : (overlay buffer 3 payload).drop 3 = payload ++ buffer.drop (3 + payload.length) := by
    rw [overlay, List.append_assoc, List.drop_left' hl]
  simp [hciPacket, List.drop_set, ho]

section

variable {buffer : Buffer} {address : BdAddr} {P : BdAddr → Prop}

theorem link_hciCommandWith {c : HciCommand} {size : Nat} {rest : List BYTE} (ha : P address)
    (hc : c ∈ connectionCommands ∧ 9 + rest.length ≤ size) :
    (hciCommandWith c size (address.address ++ rest)).Uses (Call.Link P) := by
  have ha6 := address.size
  refine Program.uses_bind (uses_call trivial) fun bytes => uses_call ?_
  have hl : 3 + (address.address ++ rest).length ≤ bytes.val.length := by
    rw [bytes.property, List.length_append]
    omega
  refine ⟨c, address, commandOfPacket_hciPacket c ?_, hc.1, ha, ?_⟩
  · rw [length_overlay hl]
    omega
  · rw [CarriesAddress, drop_hciPacket hl, List.append_assoc, ← ha6, List.take_left]

theorem link_wireBusGetPdoAddressDescription :
    (wireBusGetPdoAddressDescription address).Uses (Call.Link P) := by
  refine Program.uses_bind (uses_call trivial) fun r => ?_
  cases r <;> exact trivial

theorem link_wireBusSetPdoAddressDescription {device : BthDevice} (ha : P address) :
    (wireBusSetPdoAddressDescription address device).Uses (Call.Link P) :=
  Program.uses_bind (uses_call ha) fun _ => trivial

theorem link_retrieveNextDevice {handle : BthHandle} {list : List (BdAddr × Bool)} :
    (retrieveNextDevice handle list).Uses (Call.Link P) := by
  induction list with
  | nil => trivial
  | cons entry rest ih =>
    obtain ⟨address, created⟩ := entry
    refine Program.uses_ite (fun _ => trivial) fun _ => ?_
    refine Program.uses_bind link_wireBusGetPdoAddressDescription fun r => ?_
    cases r with
    | none => trivial
    | some device => exact Program.uses_ite (fun _ => trivial) fun _ => ih

theorem link_wireBusGetPdoAddressDescriptionByHandle {handle : BthHandle} :
    (wireBusGetPdoAddressDescriptionByHandle handle).Uses (Call.Link P) :=
  Program.uses_bind (uses_call trivial) fun _ => link_retrieveNextDevice

theorem link_assign {device : BthDevice} {value : Assignment} :
    (device.assign value).Uses (Call.Link P) := Program.uses_bind (uses_call trivial) fun _ => trivial

theorem link_withDevice {f : BthDevice → Driver Unit} (h : ∀ device, (f device).Uses (Call.Link P)) :
    (do match ← wireBusGetPdoAddressDescription address with
        | none => return
        | some device => f device : Driver Unit).Uses (Call.Link P) := by
  refine Program.uses_bind link_wireBusGetPdoAddressDescription fun r => ?_
  cases r with
  | none => trivial
  | some device => exact h device

theorem link_wireBusSetChildHandle {handle : BthHandle} (ha : P address) :
    (wireBusSetChildHandle address handle).Uses (Call.Link P) :=
  link_withDevice fun _ => Program.uses_bind link_assign fun _ =>
    Program.uses_bind (link_wireBusSetPdoAddressDescription ha) fun _ => trivial

theorem link_wireBusSetChildDeviceType {deviceType : DsDeviceType} (ha : P address) :
    (wireBusSetChildDeviceType address deviceType).Uses (Call.Link P) :=
  link_withDevice fun _ => Program.uses_bind link_assign fun _ =>
    Program.uses_bind (link_wireBusSetPdoAddressDescription ha) fun _ => trivial

theorem link_freeIfPresent {pointer : Option Pointer} :
    (freeIfPresent pointer).Uses (Call.Link P) := by
  cases pointer with
  | none => trivial
  | some p => exact uses_call trivial

theorem link_wireBusSetChildRemoteName {name : List BYTE} (ha : P address) :
    (wireBusSetChildRemoteName address name).Uses (Call.Link P) := by
  refine link_withDevice fun device => ?_
  refine Program.uses_bind link_freeIfPresent fun _ => ?_
  refine Program.uses_bind (uses_call trivial) fun p => ?_
  refine Program.uses_bind link_assign fun device => ?_
  refine Program.uses_bind (uses_call trivial) fun _ => ?_
  exact Program.uses_bind (link_wireBusSetPdoAddressDescription ha) fun _ => trivial

theorem link_wireBusInitChildOutputReport (ha : P address) :
    (wireBusInitChildOutputReport address).Uses (Call.Link P) := by
  refine link_withDevice fun device => ?_
  refine Program.uses_bind (Program.uses_bind link_freeIfPresent fun _ => ?_) fun _ =>
    Program.uses_bind (link_wireBusSetPdoAddressDescription ha) fun _ => trivial
  cases device.deviceType with
  | ps3Dualshock =>
    exact Program.uses_bind (uses_call trivial) fun _ => Program.uses_bind link_assign fun _ =>
      Program.uses_bind (uses_call trivial) fun _ => trivial
  | _ => trivial

theorem link_hciConnectionRequestEv (ha : P (BdAddr.fromBuffer buffer 2)) :
    (hciConnectionRequestEv buffer).Uses (Call.Link P) := by
  refine Program.uses_bind (uses_call trivial) fun unwritten => ?_
  refine Program.uses_bind (uses_call trivial) fun r => ?_
  refine Program.uses_bind (uses_call ha) fun status => ?_
  refine Program.uses_ite (fun _ => trivial) fun _ => ?_
  refine Program.uses_bind (link_hciCommandWith ha (by decide)) fun status => ?_
  refine Program.uses_ite (fun _ => trivial) fun _ => ?_
  exact Program.uses_bind (link_hciCommandWith ha (by decide)) fun _ => trivial

theorem link_hciConnectionCompleteEv (ha : P (BdAddr.fromBuffer buffer 5)) :
    (hciConnectionCompleteEv buffer).Uses (Call.Link P) := by
  refine Program.uses_ite (fun _ => ?_) fun _ => trivial
  refine Program.uses_bind (link_wireBusSetChildHandle ha) fun _ => ?_
  exact Program.uses_bind (link_hciCommandWith ha (by decide)) fun _ => trivial

theorem link_hciDisconnectionCompleteEv (h : ∀ a, P a) :
    (hciDisconnectionCompleteEv buffer).Uses (Call.Link P) := by
  refine Program.uses_ite (fun _ => ?_) fun _ => trivial
  refine Program.uses_bind link_wireBusGetPdoAddressDescriptionByHandle fun r => ?_
  cases r with
  | none => trivial
  | some entry => exact Program.uses_bind (uses_call (h entry.1)) fun _ => trivial

theorem link_hciRemoteNameRequestCompleteEv {n : Nat} (ha : P (BdAddr.fromBuffer buffer 3)) :
    (hciRemoteNameRequestCompleteEv buffer n).Uses (Call.Link P) := by
  refine Program.uses_ite (fun _ => ?_) fun _ => trivial
  refine Program.uses_bind (link_wireBusSetChildRemoteName ha) fun _ => ?_
  refine Program.uses_bind ?_ fun _ => link_wireBusInitChildOutputReport ha
  unfold setDeviceTypeOfRemoteName
  cases deviceTypeOfRemoteName (buffer 9) with
  | none => trivial
  | some deviceType => exact link_wireBusSetChildDeviceType ha

theorem link_wireShockEvtWdfChildListCreateDevice (ha : P address) :
    (wireShockEvtWdfChildListCreateDevice address).Uses (Call.Link P) := by
  refine Program.uses_bind (uses_call trivial) fun r => ?_
  cases r with
  | error => trivial
  | ok device =>
    refine Program.uses_bind (uses_call trivial) fun r => ?_
    cases r with
    | error => trivial
    | ok queue =>
      refine Program.uses_bind link_assign fun device => ?_
      refine Program.uses_bind (uses_call trivial) fun r => ?_
      cases r with
      | error => trivial
      | ok timer => exact Program.uses_bind link_assign fun _ => uses_call ha

end

section

variable {buffer : Buffer} {handle : BthHandle} {device : BthDevice}

theorem transmit_of_signal {α : Type} {p : Driver α} (h : p.Uses (Call.Signal handle)) :
    p.Uses (Call.Transmit handle) := Program.uses_mono (fun _ => And.left) h

theorem traffic_of_transmit {α : Type} {p : Driver α} (h : p.Uses (Call.Transmit handle)) :
    p.Uses (Call.Traffic handle) := Program.uses_mono (fun _ => Or.inl) h

theorem traffic_of_exchange {c : Call} (h : c.Exchange handle) : c.Traffic handle :=
  h.imp_left And.left

theorem unqueued_of_exchange {c : Call} (h : c.Exchange handle) : c.Unqueued := by
  rcases h with h | ⟨value, rfl⟩
  · exact h.2
  · trivial

theorem signal_hciCommandDisconnect :
    (hciCommandDisconnect handle).Uses (Call.Signal handle) := by
  refine Program.uses_bind (uses_call ⟨trivial, trivial⟩) fun bytes => uses_call ⟨?_, trivial⟩
  obtain ⟨bytes, hs⟩ := bytes
  match bytes, hs with
  | [b₀, b₁, b₂, b₃, b₄, b₅], _ =>
    refine ⟨commandOfPacket_hciPacket .disconnect ?_, ?_, ?_⟩ <;> simp [overlay, hciPacket]

theorem exchange_of_signal {α : Type} {p : Driver α} (h : p.Uses (Call.Signal handle)) :
    p.Uses (Call.Exchange handle) := Program.uses_mono (fun _ => Or.inl) h

theorem exchange_assign {value : Assignment}
    (h : (value.apply device).withoutChannels = device.withoutChannels) :
    (device.assign value).Ensures (Call.Exchange handle) device.SameUpToChannels :=
  Program.ensures_bind (ensures_call (Or.inr ⟨value, rfl⟩)) fun _ _ => Program.ensures_pure h

theorem signal_l2capCommand {data : List BYTE} :
    (l2capCommand handle data).Uses (Call.Signal handle) := by
  refine uses_call ⟨⟨?_, Or.inr ?_⟩, trivial⟩ <;> simp [l2capFrame]

theorem signal_hidCommand {channel : L2capCid} {data : List BYTE} :
    (hidCommand handle channel data).Uses (Call.Signal handle) := by
  refine Program.uses_bind (uses_call ⟨trivial, trivial⟩) fun _ => ?_
  refine Program.uses_bind (uses_call ⟨trivial, trivial⟩) fun _ => ?_
  have h : AddressesHandle handle (hidFrame handle channel data) := by
    refine ⟨?_, Or.inl ?_⟩ <;> simp [hidFrame]
  refine Program.uses_bind (uses_call ⟨h, trivial⟩) fun _ => ?_
  exact Program.uses_bind (uses_call ⟨trivial, trivial⟩) fun _ => trivial

theorem signal_localCid : localCid.Uses (Call.Signal handle) :=
  Program.uses_bind (uses_call ⟨trivial, trivial⟩) fun _ => trivial

theorem signal_l2capGetNewCid : l2capGetNewCid.Uses (Call.Signal handle) :=
  Program.uses_bind (uses_call ⟨trivial, trivial⟩) fun _ => Program.uses_bind (uses_call ⟨trivial, trivial⟩) fun _ =>
    trivial

theorem exchange_l2capSetConnectionType {type : Option L2capPsm} {scid dcid : L2capCid} :
    (l2capSetConnectionType device type scid dcid).Ensures (Call.Exchange handle)
      fun r => device.SameUpToChannels r.1 := by
  cases type with
  | none => exact Program.ensures_pure rfl
  | some psm =>
    cases psm <;>
      exact Program.ensures_bind (exchange_of_signal signal_l2capGetNewCid) fun _ _ =>
        Program.ensures_bind (exchange_assign rfl) fun _ h₁ =>
          Program.ensures_bind (exchange_assign rfl) fun _ h₂ => Program.ensures_pure (h₂.trans h₁)

theorem signal_acceptConnection {id : BYTE} {scid dcid : L2capCid} :
    (acceptConnection handle id scid dcid).Uses (Call.Signal handle) := by
  refine Program.uses_bind signal_l2capCommand fun status => ?_
  refine Program.uses_ite (fun _ => trivial) fun _ => ?_
  refine Program.uses_bind signal_l2capCommand fun status => ?_
  refine Program.uses_ite (fun _ => trivial) fun _ => ?_
  refine Program.uses_bind (uses_call ⟨trivial, trivial⟩) fun id => ?_
  exact Program.uses_bind (uses_call ⟨trivial, trivial⟩) fun _ => signal_l2capCommand

theorem exchange_assignIf {c : Prop} [Decidable c] {value : Assignment}
    (h : (value.apply device).withoutChannels = device.withoutChannels) :
    (device.assignIf c value).Ensures (Call.Exchange handle) device.SameUpToChannels :=
  Program.ensures_ite (fun _ => exchange_assign h) fun _ => Program.ensures_pure rfl

theorem exchange_ds3ConnectionRequest :
    (ds3ConnectionRequest device buffer).Ensures (Call.Exchange device.hciConnectionHandle)
      fun r => device.SameUpToChannels r.2 := by
  refine Program.ensures_bind (exchange_of_signal signal_localCid) fun dcid _ => ?_
  refine Program.ensures_bind exchange_l2capSetConnectionType fun channel h => ?_
  rw [← h.handle]
  exact Program.ensures_bind (exchange_of_signal signal_acceptConnection) fun _ _ =>
    Program.ensures_pure h

theorem exchange_ds3ConfigurationRequest :
    (ds3ConfigurationRequest device buffer).Ensures (Call.Exchange device.hciConnectionHandle)
      fun r => device.SameUpToChannels r.2 := by
  refine Program.ensures_bind (exchange_of_signal signal_localCid) fun scid _ => ?_
  refine Program.ensures_bind (exchange_assignIf rfl) fun d₁ h₁ => ?_
  refine Program.ensures_bind (exchange_assignIf rfl) fun d₂ h₂ => ?_
  have h : device.SameUpToChannels d₂ := h₂.trans h₁
  rw [← h.handle]
  exact Program.ensures_bind (exchange_of_signal signal_l2capCommand) fun _ _ =>
    Program.ensures_pure h

theorem signal_enableHid :
    (enableHid device).Uses (Call.Signal device.hciConnectionHandle) := by
  refine Program.uses_bind signal_hidCommand fun status => ?_
  refine Program.uses_ite (fun _ => trivial) fun _ => ?_
  refine Program.uses_bind signal_hidCommand fun status => ?_
  refine Program.uses_ite (fun _ => trivial) fun _ => ?_
  exact Program.uses_bind (uses_call ⟨trivial, trivial⟩) fun _ => trivial

theorem exchange_ds3ConfigurationResponse :
    (ds3ConfigurationResponse device buffer).Ensures (Call.Exchange device.hciConnectionHandle)
      fun r => device.SameUpToChannels r.2 := by
  refine Program.ensures_bind (exchange_assignIf rfl) fun d₁ h₁ => ?_
  refine Program.ensures_bind (exchange_assignIf rfl) fun d₂ h₂ => ?_
  have h : device.SameUpToChannels d₂ := h₂.trans h₁
  rw [← h.handle]
  refine Program.ensures_ite (fun _ => ?_) fun _ => Program.ensures_pure h
  exact Program.ensures_bind (exchange_of_signal signal_enableHid) fun _ _ =>
    Program.ensures_pure h

theorem signal_ds3DisconnectionRequest :
    (ds3DisconnectionRequest device buffer).Uses (Call.Signal device.hciConnectionHandle) := by
  refine Program.uses_ite (fun _ => ?_) fun _ => signal_l2capCommand
  exact Program.uses_bind signal_hciCommandDisconnect fun _ => signal_l2capCommand

theorem exchange_dispatchSignalling :
    (dispatchSignalling device buffer).Ensures (Call.Exchange device.hciConnectionHandle)
      device.SameUpToChannels := by
  unfold dispatchSignalling
  cases L2capSignallingCommandCode.ofCode (buffer 8) with
  | none => exact Program.ensures_pure rfl
  | some code =>
    cases code with
    | connectionRequest =>
      exact Program.ensures_bind exchange_ds3ConnectionRequest fun _ h => Program.ensures_pure h
    | configurationRequest =>
      exact Program.ensures_bind exchange_ds3ConfigurationRequest fun _ h => Program.ensures_pure h
    | configurationResponse =>
      exact Program.ensures_bind exchange_ds3ConfigurationResponse fun _ h => Program.ensures_pure h
    | disconnectionRequest =>
      exact Program.ensures_bind (exchange_of_signal signal_ds3DisconnectionRequest) fun _ _ =>
        Program.ensures_pure rfl
    | _ => exact Program.ensures_pure rfl

theorem transmit_completeHidInputReport {queue : Option Handle} {f : List BYTE → List BYTE} :
    (completeHidInputReport queue f).Uses (Call.Transmit handle) := by
  refine Program.uses_bind (uses_call trivial) fun r => ?_
  cases r with
  | error => trivial
  | ok request =>
    refine Program.uses_bind (uses_call trivial) fun r => ?_
    cases r <;> exact Program.uses_bind (uses_call trivial) fun _ => trivial

theorem transmit_completeSecondReport {r : Except NTSTATUS NTSTATUS} :
    (completeSecondReport device buffer r).Uses (Call.Transmit handle) := by
  cases r with
  | error => trivial
  | ok status =>
    refine Program.uses_ite (fun _ => ?_) fun _ => trivial
    refine Program.uses_bind transmit_completeHidInputReport fun r => ?_
    cases r <;> trivial

theorem transmit_ds3ProcessHidInputReport :
    (ds3ProcessHidInputReport device buffer).Uses (Call.Transmit handle) := by
  refine Program.uses_ite (fun _ => trivial) fun _ => ?_
  exact Program.uses_bind transmit_completeHidInputReport fun _ => transmit_completeSecondReport

theorem traffic_dispatchPacket :
    (dispatchPacket device buffer).Ensures (Call.Traffic device.hciConnectionHandle)
      device.SameUpToChannels := by
  refine Program.ensures_ite (fun _ => ?_) fun _ => ?_
  · exact Program.ensures_mono (fun _ => traffic_of_exchange) exchange_dispatchSignalling
  refine Program.ensures_ite (fun _ => ?_) fun _ => Program.ensures_pure rfl
  cases device.deviceType with
  | ps3Dualshock =>
    exact Program.ensures_bind (traffic_of_transmit transmit_ds3ProcessHidInputReport) fun _ _ =>
      Program.ensures_pure rfl
  | _ => exact Program.ensures_pure rfl

end

section

variable {α : Type} {handle : BthHandle} {w : World}

theorem children_createHandle : w.createHandle.2.children = w.children := by
  unfold World.createHandle
  split <;> rfl

theorem children_retrieveNextRequest {queue : Option Handle} :
    (w.retrieveNextRequest queue).2.children = w.children := by
  obtain ⟨queues, hq⟩ := w.retrieveNextRequest_world queue
  rw [hq]

theorem children_respond {c : Call} (hc : c.Traffic handle) (w : World) :
    (respond c w).2.children = w.children := by
  rcases hc with hc | ⟨value, rfl⟩
  · cases c with
    | ioQueueRetrieveNextRequest queue => exact children_retrieveNextRequest
    | _ => first | rfl | exact hc.elim
  · rfl

theorem children_exec {p : Driver α} (hp : p.Uses (Call.Traffic handle)) (w : World) :
    (exec p w).2.children = w.children :=
  exec_invariant (I := fun v => v.children = w.children)
    (fun _ v hc hv => (children_respond hc v).trans hv) hp rfl

theorem children_steady {c : Call} (hc : c.Steady) (w : World) :
    (respond c w).2.children = w.children := by
  cases c <;> first | rfl | exact hc.elim

theorem children_exec_steady {p : Driver α} (hp : p.Uses Call.Steady) (w : World) :
    (exec p w).2.children = w.children :=
  exec_invariant (I := fun v => v.children = w.children)
    (fun _ v hc hv => (children_steady hc v).trans hv) hp rfl

theorem children_hciCommandCompleteEv {buffer : Buffer} {command : Option HciCommand} :
    (exec (hciCommandCompleteEv buffer command) w).2.children =
      if command = some .reset ∧ hciCommandSuccess buffer = true ∧ w.context.started = false then
        w.removeAll.children
      else w.children := by
  rw [hciCommandCompleteEv_eq, exec_bind, exec_getContext]
  by_cases hr : command = some .reset
  · have hsend : ∀ v, (exec (sendNext .readBdAddr) v).2.children = v.children :=
      children_exec_steady (uses_sendNext (fun _ => steady_startupBuilder) (by decide))
    by_cases hs : hciCommandSuccess buffer = true ∧ w.context.started = false
    · simp only [hr, Option.elim_some, commandDone, hs, Bool.not_false, Bool.and_true, if_true,
        exec_bind, exec_childListScan, exec_updateContext, hsend, and_self]
      rfl
    · have hb : (hciCommandSuccess buffer && !w.context.started) = false := by simpa using hs
      rw [if_neg fun h => hs h.2, hr, Option.elim_some, commandDone, hb]
      rfl
  · rw [if_neg fun h => hr h.1]
    cases command with
    | none => rfl
    | some c =>
      exact children_exec_steady (uses_commandDone (fun _ => steady_startupBuilder)
        (fun _ => trivial) trivial fun hc => absurd (congrArg some hc) hr) w

def Output.Carries (handle : BthHandle) : Output → Prop
  | .control packet _ => DisconnectsHandle handle packet
  | .bulk packet _ => AddressesHandle handle packet
  | _ => True

theorem forall_log_append {P : Output → Prop} {log : List Output} {o : Output}
    (hl : ∀ o ∈ log, P o) (ho : P o) : ∀ p ∈ log ++ [o], P p :=
  List.forall_mem_append.mpr ⟨hl, List.forall_mem_singleton.mpr ho⟩

theorem carries_respond {c : Call} (hc : c.Traffic handle) (hw : ∀ o ∈ w.log, o.Carries handle) :
    ∀ o ∈ (respond c w).2.log, o.Carries handle := by
  rcases hc with hc | ⟨value, rfl⟩
  · cases c with
    | timerStart timer => exact forall_log_append hw trivial
    | exFreePoolWithTag p => exact forall_log_append hw trivial
    | sendControlRequest packet => exact forall_log_append hw hc
    | writeBulkPipe packet => exact forall_log_append hw hc
    | ioQueueRetrieveNextRequest queue =>
      obtain ⟨queues, hq⟩ := w.retrieveNextRequest_world queue
      rwa [respond, hq]
    | requestComplete request status => exact forall_log_append hw trivial
    | requestCompleteWithInformation request status information output =>
      exact forall_log_append hw trivial
    | _ => first | exact hw | exact hc.elim
  · exact hw

theorem carries_exec {p : Driver α} (hp : p.Uses (Call.Traffic handle)) (hw : w.log = []) :
    ∀ o ∈ (exec p w).2.log, o.Carries handle := by
  refine exec_invariant (I := fun v => ∀ o ∈ v.log, o.Carries handle)
    (fun _ _ hc hv => carries_respond hc hv) hp ?_
  simp [hw]

end

end WireShock
