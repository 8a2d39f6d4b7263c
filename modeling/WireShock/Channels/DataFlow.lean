import WireShock.Channels.History

namespace WireShock
open Interaction

def cidOf (buffer : Buffer) : L2capCid := BthHandle.fromBuffer buffer 6

namespace Link

structure OverOpenChannels (a : BdAddr) (s : Link) (p : AclPacket) : Prop where
  sends : (Kind.hidEnable ∈ s.world.kindsFor a p ∨ Kind.hidReport ∈ s.world.kindsFor a p) →
    ((s.step a p).history .hidCommand).Configured
  completes : Kind.complete ∈ s.world.kindsFor a p →
    ((s.step a p).history .hidInterrupt).opened = some (cidOf p.1) ∧
      ((s.step a p).history .hidInterrupt).Configured

def ReadyFor (history : ChannelHistory) (scid : L2capCid) : Prop :=
  history.opened.isSome ∧ history.localAnswered = true ∧
    (history.peerAnswered = true ∨ history.opened = some scid)

def Ready (w : World) (device : BthDevice) (history : L2capPsm → ChannelHistory) (buffer : Buffer) :
    Packet → Prop
  | .configurationResponse scid _ =>
    (∀ psm, device.isEstablished psm = true ∨ scid = (device.channel psm).destination) →
      ReadyFor (history .hidCommand) scid
  | .inputReport => Completes w device buffer →
      (history .hidInterrupt).opened = some (cidOf buffer) ∧ (history .hidInterrupt).Configured
  | _ => True

def WhenReady (a : BdAddr) (s : Link) (p : AclPacket) : Prop :=
  ∀ device ∈ s.world.received a p, Ready s.world device s.history p.1 (packetOf p.1)

theorem configured_observe (history : ChannelHistory) (psm : L2capPsm) (cid scid : L2capCid)
    (result : USHORT) :
    (history.observe psm cid (.configurationResponse scid result)).Configured ↔
      ReadyFor history scid := by
  by_cases ho : history.opened = some scid
  · simp [ChannelHistory.observe, ChannelHistory.Configured, ReadyFor, ho]
  · simp [ChannelHistory.observe, ChannelHistory.Configured, ReadyFor, ho]

section

variable {s : Link} {a : BdAddr} {p : AclPacket} {device : BthDevice}

theorem complete_of_produces {w : World} {buffer : Buffer} {kinds : List Kind} {packet : Packet}
    (h : Produces w device buffer kinds packet) (hm : Kind.complete ∈ kinds) :
    packet = .inputReport ∧ Completes w device buffer := by
  cases packet with
  | connectionRequest psm scid => cases h .complete hm
  | configurationRequest dcid =>
    rw [show kinds = [.configurationResponse] from h] at hm
    exact absurd hm (by decide)
  | configurationResponse scid result =>
    rw [Produces] at h
    split at h
    · exact absurd (h.only _ hm) (by decide)
    · rw [h] at hm
      cases hm
  | disconnectionRequest dcid =>
    rw [Produces] at h
    rw [h] at hm
    split at hm <;> exact absurd hm (by decide)
  | inputReport => exact ⟨rfl, h.2.mp (List.ne_nil_of_mem hm)⟩
  | other =>
    rw [show kinds = [] from h] at hm
    cases hm

theorem complete_mem {w : World} {buffer : Buffer} {kinds : List Kind}
    (h : Produces w device buffer kinds .inputReport) (hc : Completes w device buffer) :
    Kind.complete ∈ kinds := by
  obtain ⟨k, rest, hk⟩ := List.exists_cons_of_ne_nil (h.2.mpr hc)
  have hm : k ∈ kinds := by simp [hk]
  rw [← h.1 k hm]
  exact hm

theorem overOpenChannels_iff : OverOpenChannels a s p ↔ WhenReady a s p := by
  cases hr : s.world.received a p with
  | none =>
    have hk := World.kindsFor_of_none hr
    refine iff_of_true ⟨?_, ?_⟩ ?_
    · simp [hk]
    · simp [hk]
    · simp [WhenReady, hr]
  | some device =>
    have hk := World.kindsFor_of_received hr
    have hh := history_of_received hr
    have hw : WhenReady a s p ↔ Ready s.world device s.history p.1 (packetOf p.1) := by
      simp [WhenReady, hr]
    rw [hw]
    constructor
    · intro ho
      cases hp : packetOf p.1 with
      | configurationResponse scid result =>
        rw [hp] at hk
        intro hboth
        have hb : (device.established scid).bothEstablished = true := by
          rw [bothEstablished_iff]
          intro psm
          simpa using hboth psm
        have hc := ho.sends (Or.inl (hidEnable_mem (enableKinds_of_established hk hb)))
        rw [hh, hp] at hc
        exact (configured_observe _ _ _ scid result).mp hc
      | inputReport =>
        rw [hp] at hk
        intro hc
        have hd := ho.completes (complete_mem hk hc)
        rw [hh, hp] at hd
        exact hd
      | _ => trivial
    · intro hready
      constructor
      · intro hm
        have henable : ∃ k ∈ enableKinds, k ∈ s.world.kindsFor a p := by
          rcases hm with hm | hm
          · exact ⟨_, by decide, hm⟩
          · exact ⟨_, by decide, hm⟩
        obtain ⟨k, hke, hm⟩ := henable
        obtain ⟨scid, result, hp, hb⟩ := enableKinds_of_produces hk hke hm
        rw [hp] at hready
        rw [hh, hp, configured_observe]
        refine hready fun psm => ?_
        have he := (bothEstablished_iff _).mp hb psm
        simpa using he
      · intro hm
        obtain ⟨hp, hc⟩ := complete_of_produces hk hm
        rw [hp] at hready
        rw [hh, hp]
        exact hready hc

end

end Link

end WireShock
