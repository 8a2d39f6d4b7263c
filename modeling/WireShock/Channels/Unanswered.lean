import WireShock.Channels.Acceptance

namespace WireShock
open Interaction

def Packet.isRequest : Packet → Bool
  | .connectionRequest _ _ => true
  | .configurationRequest _ => true
  | _ => false

-- what a request would write is already in the record
def BthDevice.Settled (device : BthDevice) (cid : L2capCid) : Packet → Prop
  | .connectionRequest type scid => ∀ psm ∈ type, device.channel psm = ⟨scid, cid⟩
  | .configurationRequest dcid =>
    ∀ psm, (device.channel psm).destination = dcid → device.isConfigured psm = true
  | _ => True

def Output.refused : Output → Bool
  | .bulk _ status => !ntSuccess status
  | _ => true

namespace World

def Unanswered (w : World) (p : AclPacket) : Prop := ∀ o ∈ (w.stepAcl p).log, o.refused = true

def UnchangedIfUnanswered (w : World) (a : BdAddr) (p : AclPacket) : Prop :=
  w.Unanswered p → (w.stepAcl p).children.lookup a = w.children.lookup a

end World

section

variable {device : BthDevice}

theorem setChannel_eq_self_iff (psm : L2capPsm) (pair : BthHandlePair) :
    device.setChannel psm pair = device ↔ device.channel psm = pair := by
  constructor
  · intro h
    rw [← h, channel_setChannel, if_pos rfl]
  · rintro rfl
    cases psm <;> rfl

theorem configured_eq_self_iff (dcid : L2capCid) :
    device.configured dcid = device ↔
      ∀ psm, (device.channel psm).destination = dcid → device.isConfigured psm = true := by
  constructor
  · rintro h psm rfl
    rw [← h]
    cases psm <;> simp [BthDevice.configured, BthDevice.isConfigured, BthDevice.channel]
  · intro h
    have hflag (psm : L2capPsm) : (device.isConfigured psm ||
        decide (dcid = (device.channel psm).destination)) = device.isConfigured psm := by
      cases hc : device.isConfigured psm with
      | true => rfl
      | false =>
        have hne : dcid ≠ (device.channel psm).destination :=
          fun he => Bool.false_ne_true (hc.symm.trans (h psm he.symm))
        simp [hne]
    have hcommand := hflag .hidCommand
    have hinterrupt := hflag .hidInterrupt
    simp only [BthDevice.isConfigured] at hcommand hinterrupt
    rw [BthDevice.configured, hcommand, hinterrupt]

theorem after_eq_self_iff {cid : L2capCid} {packet : Packet} (h : packet.isRequest = true) :
    device.after cid packet = device ↔ device.Settled cid packet := by
  cases packet with
  | connectionRequest type scid =>
    cases type with
    | none => exact iff_of_true rfl fun _ h => nomatch h
    | some psm =>
      refine (setChannel_eq_self_iff psm ⟨scid, cid⟩).trans ⟨?_, fun hs => hs psm rfl⟩
      rintro hc other ho
      cases ho
      exact hc
  | configurationRequest dcid => exact configured_eq_self_iff dcid
  | _ => cases h

end

namespace World

section

variable {w : World} {a : BdAddr} {p : AclPacket} {device : BthDevice}

theorem log_configurationRequest {dcid : L2capCid} (hr : w.received a p = some device)
    (hp : packetOf p.1 = .configurationRequest dcid) :
    ∃ packet, (w.stepAcl p).log = [.bulk packet (w.environment.bulkStatus 0)] := by
  obtain ⟨hd, -⟩ := dispatchPacket_configurationRequest device hp
  have hstep : (w.stepAcl p).log =
      (exec (ds3ConfigurationRequest device p.1) w.clearLog).2.log := by
    rw [stepAcl_of_received hr, hd, exec_bind]
    rfl
  rw [hstep, exec_ds3ConfigurationRequest_eq]
  exact ⟨_, List.nil_append _⟩

-- every request is answered by at least one send, and after a failed one nothing more is sent
theorem unanswered_iff (hr : w.received a p = some device) (hp : (packetOf p.1).isRequest = true) :
    w.Unanswered p ↔ ntSuccess (w.environment.bulkStatus 0) = false := by
  rw [Unanswered]
  cases hpacket : packetOf p.1 with
  | connectionRequest type scid =>
    rw [log_connectionRequest hr hpacket, acceptance]
    cases hs : ntSuccess (w.environment.bulkStatus 0) <;> simp [Output.refused, hs]
  | configurationRequest dcid =>
    obtain ⟨packet, hlog⟩ := log_configurationRequest hr hpacket
    rw [hlog]
    simp [Output.refused]
  | _ => simp [hpacket, Packet.isRequest] at hp

end

theorem unchanged_if_unanswered_iff {w : World} {a : BdAddr} {p : AclPacket} {device : BthDevice}
    (hr : w.received a p = some device) (hp : (packetOf p.1).isRequest = true) :
    w.UnchangedIfUnanswered a p ↔ ntSuccess (w.environment.bulkStatus 0) = true ∨
      device.Settled (newCid w.globalCid) (packetOf p.1) := by
  rw [UnchangedIfUnanswered, unanswered_iff hr hp, lookup_stepAcl_of_received hr,
    lookup_of_received hr, Option.some_inj, after_eq_self_iff hp]
  cases ntSuccess (w.environment.bulkStatus 0) <;> simp

def refusing (w : World) : World :=
  { w with environment := { w.environment with bulkStatus := fun _ => statusUnsuccessful } }

theorem unchanged_if_unanswered_command :
    (World.connected someAddress freshDevice).refusing.UnchangedIfUnanswered someAddress
        (connectionRequestPacket 0x01 ⟨0x70, 0x00⟩) ↔
      ntSuccess ((World.connected someAddress freshDevice).refusing.environment.bulkStatus 0) = true ∨
        freshDevice.Settled (newCid (World.connected someAddress freshDevice).refusing.globalCid)
          (packetOf (connectionRequestPacket 0x01 ⟨0x70, 0x00⟩).1) :=
  @unchanged_if_unanswered_iff _ _ _ freshDevice (by decide +kernel) (by decide +kernel)

theorem refused_connection_recorded :
    ¬ ∀ (w : World) (a : BdAddr) (p : AclPacket) (device : BthDevice),
      w.received a p = some device → (packetOf p.1).isRequest = true →
        w.UnchangedIfUnanswered a p := by
  intro h
  have hr : (World.connected someAddress freshDevice).refusing.received someAddress
      (connectionRequestPacket 0x11 ⟨0x70, 0x00⟩) = some freshDevice := by decide +kernel
  have hp : (packetOf (connectionRequestPacket 0x11 ⟨0x70, 0x00⟩).1).isRequest = true := by
    decide +kernel
  have hsame := h _ _ _ _ hr hp ((unanswered_iff hr hp).mpr rfl)
  revert hsame
  decide +kernel

end World
end WireShock
