import WireShock.Channels.Traffic
import WireShock.Interaction.Run
import WireShock.Semantics.Footprint

namespace WireShock
open Interaction

inductive Packet where
  | connectionRequest (psm : Option L2capPsm) (scid : L2capCid)
  | configurationRequest (dcid : L2capCid)
  | configurationResponse (scid : L2capCid) (result : USHORT)
  | disconnectionRequest (dcid : L2capCid)
  | inputReport
  | other
deriving DecidableEq, Repr

def signallingPacket (buffer : Buffer) : L2capSignallingCommandCode → Packet
  | .connectionRequest =>
    let data := SignallingConnectionRequest.read (buffer.shift 8)
    .connectionRequest (L2capPsm.ofUshort data.psm) data.scid
  | .configurationRequest =>
    .configurationRequest (SignallingConfigurationRequest.read (buffer.shift 8)).dcid
  | .configurationResponse =>
    let data := SignallingConfigurationResponse.read (buffer.shift 8)
    .configurationResponse data.scid data.result
  | .disconnectionRequest =>
    .disconnectionRequest (SignallingDisconnectionRequest.read (buffer.shift 8)).dcid
  | _ => .other

def packetOf (buffer : Buffer) : Packet :=
  if l2capIsControlChannel buffer then
    (L2capSignallingCommandCode.ofCode (buffer 8)).elim .other (signallingPacket buffer)
  else if l2capIsHidInputReport buffer then .inputReport
  else .other

def BthDevice.after (device : BthDevice) (cid : L2capCid) : Packet → BthDevice
  | .connectionRequest psm scid => psm.elim device fun psm => device.setChannel psm ⟨scid, cid⟩
  | .configurationRequest dcid => device.configured dcid
  | .configurationResponse scid _ => device.established scid
  | _ => device

def Completes (w : World) (device : BthDevice) (buffer : Buffer) : Prop :=
  device.deviceType = .ps3Dualshock ∧ buffer 10 ≠ 0xFF ∧
    w.pendingRead device.hidInputReportQueue = true

instance (w : World) (device : BthDevice) (buffer : Buffer) :
    Decidable (Completes w device buffer) :=
  inferInstanceAs (Decidable (_ ∧ _ ∧ _))

def Produces (w : World) (device : BthDevice) (buffer : Buffer) (kinds : List Kind) : Packet → Prop
  | .connectionRequest _ _ => ∀ k ∈ kinds, k = .signalling
  | .configurationRequest _ => kinds = [.configurationResponse]
  | .configurationResponse scid _ =>
    if (device.established scid).bothEstablished then EnableKinds kinds else kinds = []
  | .disconnectionRequest dcid =>
    kinds = if device.isDestination dcid then [.disconnect, .signalling] else [.signalling]
  | .inputReport =>
    (∀ k ∈ kinds, k = .complete) ∧ (kinds ≠ [] ↔ Completes w device buffer)
  | .other => kinds = []

def enableKinds : List Kind := [.hidEnable, .hidReport, .timerStart]

section

variable {w : World} {device : BthDevice} {buffer : Buffer} {kinds : List Kind} {packet : Packet}

theorem enableKinds_of_produces (h : Produces w device buffer kinds packet) {k : Kind}
    (hk : k ∈ enableKinds) (hm : k ∈ kinds) : ∃ scid result,
      packet = .configurationResponse scid result ∧
        (device.established scid).bothEstablished = true := by
  cases packet with
  | connectionRequest psm scid =>
    rw [h k hm] at hk
    exact absurd hk (by decide)
  | configurationRequest dcid =>
    rw [show kinds = [.configurationResponse] from h, List.mem_singleton] at hm
    rw [hm] at hk
    exact absurd hk (by decide)
  | configurationResponse scid result =>
    refine ⟨scid, result, rfl, ?_⟩
    by_contra hb
    rw [Produces, if_neg hb] at h
    rw [h] at hm
    cases hm
  | disconnectionRequest dcid =>
    have hd : k ∈ [Kind.disconnect, .signalling] := by
      rw [Produces] at h
      rw [h] at hm
      split at hm
      · exact hm
      · exact List.mem_cons_of_mem _ hm
    have hne : ∀ k ∈ [Kind.disconnect, .signalling], k ∉ enableKinds := by decide
    exact absurd hk (hne k hd)
  | inputReport =>
    rw [h.1 k hm] at hk
    exact absurd hk (by decide)
  | other =>
    rw [show kinds = [] from h] at hm
    cases hm

theorem bothEstablished_established (scid : L2capCid) (h : device.bothEstablished = true) :
    (device.established scid).bothEstablished = true := by
  simp only [BthDevice.bothEstablished, Bool.and_eq_true] at h
  simp [BthDevice.bothEstablished, BthDevice.established, h.1, h.2]

theorem enableKinds_of_established {scid : L2capCid} {result : USHORT}
    (h : Produces w device buffer kinds (.configurationResponse scid result))
    (hb : (device.established scid).bothEstablished = true) : EnableKinds kinds := by
  rwa [Produces, if_pos hb] at h

theorem hidEnable_mem (h : EnableKinds kinds) : Kind.hidEnable ∈ kinds :=
  List.count_pos_iff.mp (by rw [h.enable]; decide)

end

section

variable (w : World) (device : BthDevice) (buffer : Buffer)

theorem exec_dispatchSignalling {code : L2capSignallingCommandCode}
    (hc : L2capSignallingCommandCode.ofCode (buffer 8) = some code) :
    (exec (dispatchSignalling device buffer) w).1 =
        device.after (newCid w.globalCid) (signallingPacket buffer code) ∧
      ∃ kinds, (exec (dispatchSignalling device buffer) w).2.kinds = w.kinds ++ kinds ∧
        Produces w device buffer kinds (signallingPacket buffer code) := by
  unfold dispatchSignalling
  rw [hc]
  cases code with
  | connectionRequest =>
    have h := exec_ds3ConnectionRequest w device buffer
    simp only [exec_bind, exec_pure]
    exact h
  | configurationRequest =>
    have h := exec_ds3ConfigurationRequest w device buffer
    simp only [exec_bind, exec_pure]
    exact ⟨h.1, _, h.2, rfl⟩
  | configurationResponse =>
    have h := exec_ds3ConfigurationResponse w device buffer
    simp only [exec_bind, exec_pure]
    exact h
  | disconnectionRequest =>
    have h := exec_ds3DisconnectionRequest w device buffer
    simp only [exec_bind, exec_pure]
    exact ⟨rfl, _, h, rfl⟩
  | _ => exact ⟨rfl, [], (List.append_nil _).symm, rfl⟩

theorem exec_dispatchPacket :
    (exec (dispatchPacket device buffer) w).1 = device.after (newCid w.globalCid) (packetOf buffer) ∧
      ∃ kinds, (exec (dispatchPacket device buffer) w).2.kinds = w.kinds ++ kinds ∧
        Produces w device buffer kinds (packetOf buffer) := by
  unfold dispatchPacket packetOf
  by_cases hs : l2capIsControlChannel buffer = true
  · rw [if_pos hs, if_pos hs]
    cases hc : L2capSignallingCommandCode.ofCode (buffer 8) with
    | none =>
      unfold dispatchSignalling
      rw [hc]
      exact ⟨rfl, [], (List.append_nil _).symm, rfl⟩
    | some code => exact exec_dispatchSignalling w device buffer hc
  · rw [if_neg hs, if_neg hs]
    by_cases hi : l2capIsHidInputReport buffer = true
    · rw [if_pos hi, if_pos hi]
      cases ht : device.deviceType with
      | ps3Dualshock =>
        obtain ⟨kinds, hk, hall, hne⟩ := exec_ds3ProcessHidInputReport w device buffer
        simp only [exec_bind, exec_pure]
        refine ⟨rfl, kinds, hk, hall, ?_⟩
        simpa [Completes, ht] using hne
      | _ => exact ⟨rfl, [], (List.append_nil _).symm, by simp, by simp [Completes, ht]⟩
    · rw [if_neg hi, if_neg hi]
      exact ⟨rfl, [], (List.append_nil _).symm, rfl⟩

end

namespace World

def stepAcl (w : World) (p : AclPacket) : World := w.step (.acl p.1 p.2)

def kindsFor (a : BdAddr) (w : World) (p : AclPacket) : List Kind :=
  if (w.received a p).isSome then (w.stepAcl p).kinds else []

section

variable {w : World} {a : BdAddr} {p : AclPacket} {device : BthDevice}

theorem stepAcl_of_received (h : w.received a p = some device) :
    w.stepAcl p = (exec (dispatchPacket device p.1) w.clearLog).2.addOrUpdate a
      (exec (dispatchPacket device p.1) w.clearLog).1 := step_acl_of_received h

theorem lookup_stepAcl_of_received (h : w.received a p = some device) :
    (w.stepAcl p).children.lookup a =
      some (device.after (newCid w.globalCid) (packetOf p.1)) := by
  rw [stepAcl_of_received h, (exec_dispatchPacket w.clearLog device p.1).1]
  simp [addOrUpdate, ChildList.lookup_addOrUpdate, clearLog]

theorem kindsFor_of_received (h : w.received a p = some device) :
    Produces w device p.1 (w.kindsFor a p) (packetOf p.1) := by
  obtain ⟨-, kinds, hk, hp⟩ := exec_dispatchPacket w.clearLog device p.1
  rw [kindsFor, h, Option.isSome_some, if_pos rfl, stepAcl_of_received h, kinds_addOrUpdate, hk]
  exact hp

theorem lookup_stepAcl_of_none (h : w.received a p = none) :
    (w.stepAcl p).children.lookup a = w.children.lookup a := by
  rw [stepAcl, step_acl]
  split
  · rfl
  · rename_i hn
    cases hf : w.children.findByHandle (BthHandle.fromBuffer p.1 0) with
    | none => rfl
    | some entry =>
      obtain ⟨b, d⟩ := entry
      have hb : b ≠ a := by
        intro hb
        simp [received, hn, hf, hb] at h
      have hc : (exec (dispatchPacket d p.1) w.clearLog).2.children = w.children :=
        children_exec (Program.ensures_uses traffic_dispatchPacket) w.clearLog
      simp [addOrUpdate, ChildList.lookup_addOrUpdate, hc, Ne.symm hb]

theorem kindsFor_of_none (h : w.received a p = none) : w.kindsFor a p = [] := by
  simp [kindsFor, h]

end

def connected (a : BdAddr) (device : BthDevice) : World :=
  { initial .succeeding with children := ⟨[⟨a, device, true⟩], List.nodup_singleton a⟩ }

end World

def freshDevice : BthDevice :=
  { BthDevice.zero with hciConnectionHandle := ⟨0x2A, 0x20⟩, deviceType := .ps3Dualshock }

def aclPacket (cid : L2capCid) (data : List BYTE) : AclPacket :=
  (Buffer.ofList ([0x2A, 0x20, byteOf (data.length + 4), 0x00, byteOf data.length, 0x00, cid.lsb,
    cid.msb] ++ data), data.length + 8)

def signalling (code : L2capSignallingCommandCode) (data : List BYTE) : AclPacket :=
  aclPacket ⟨0x01, 0x00⟩ ([code.code, 0x01, byteOf data.length, 0x00] ++ data)

def connectionRequestPacket (psm : BYTE) (scid : L2capCid) : AclPacket :=
  signalling .connectionRequest [psm, 0x00, scid.lsb, scid.msb]

def configurationResponsePacket (scid : L2capCid) (result : BYTE) : AclPacket :=
  signalling .configurationResponse [scid.lsb, scid.msb, 0x00, 0x00, result, 0x00]

def disconnectionRequestPacket (dcid scid : L2capCid) : AclPacket :=
  signalling .disconnectionRequest [dcid.lsb, dcid.msb, scid.lsb, scid.msb]

end WireShock
