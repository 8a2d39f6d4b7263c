import WireShock.Channels.History

namespace WireShock
open Interaction

namespace Link

def Truthful (a : BdAddr) (s : Link) : Prop :=
  ∀ device ∈ s.world.children.lookup a, ∀ psm, device.isEstablished psm = true →
    (s.history psm).peerSucceeded = true

def Harmless (device : BthDevice) (history : L2capPsm → ChannelHistory) : Packet → Prop
  | .connectionRequest (some psm) _ => device.isEstablished psm = false
  | .configurationResponse scid result => ∀ psm, (device.channel psm).destination = scid →
      (history psm).peerSucceeded = true ∨ ((history psm).opened = some scid ∧ result = 0)
  | .disconnectionRequest dcid => ∀ psm, (history psm).opened = some dcid →
      device.isEstablished psm = false
  | _ => True

def KeepsTruth (a : BdAddr) (s : Link) (p : AclPacket) : Prop :=
  ∀ device ∈ s.world.received a p, Harmless device s.history (packetOf p.1)

section

variable {s : Link} {a : BdAddr} {p : AclPacket} {device : BthDevice}

theorem truthful_after_iff {history : L2capPsm → ChannelHistory} (cid : L2capCid) (packet : Packet)
    (h : ∀ psm, device.isEstablished psm = true → (history psm).peerSucceeded = true) :
    (∀ psm, (device.after cid packet).isEstablished psm = true →
      ((history psm).observe psm cid packet).peerSucceeded = true) ↔
      Harmless device history packet := by
  cases packet with
  | connectionRequest type scid =>
    cases type with
    | none => exact ⟨fun _ => trivial, fun _ => h⟩
    | some type =>
      simp only [BthDevice.after, Option.elim_some, isEstablished_setChannel,
        ChannelHistory.observe, Harmless]
      constructor
      · intro hall
        by_contra he
        have ht := hall type (by simpa using he)
        rw [if_pos rfl] at ht
        cases ht
      · intro hf psm he
        by_cases hp : type = psm
        · rw [← hp, hf] at he
          cases he
        · rw [if_neg hp]
          exact h psm he
  | configurationRequest dcid =>
    simp only [BthDevice.after, isEstablished_configured, ChannelHistory.observe, Harmless, iff_true]
    intro psm he
    split
    · exact h psm he
    · exact h psm he
  | configurationResponse scid result =>
    simp only [BthDevice.after, isEstablished_established, ChannelHistory.observe, Harmless,
      Bool.or_eq_true, decide_eq_true_eq]
    constructor
    · intro hall psm hd
      have ht := hall psm (Or.inr hd.symm)
      by_cases ho : (history psm).opened = some scid
      · rw [if_pos ho] at ht
        simp only [Bool.or_eq_true, decide_eq_true_eq] at ht
        exact ht.imp_right fun hr => ⟨ho, hr⟩
      · rw [if_neg ho] at ht
        exact Or.inl ht
    · intro hall psm he
      have ht : (history psm).peerSucceeded = true ∨
          ((history psm).opened = some scid ∧ result = 0) := by
        rcases he with he | he
        · exact Or.inl (h psm he)
        · exact hall psm he.symm
      by_cases ho : (history psm).opened = some scid
      · rw [if_pos ho]
        simp only [Bool.or_eq_true, decide_eq_true_eq]
        exact ht.imp_right And.right
      · rw [if_neg ho]
        exact ht.resolve_right fun hr => ho hr.1
  | disconnectionRequest dcid =>
    simp only [BthDevice.after, ChannelHistory.observe, Harmless]
    constructor
    · intro hall psm ho
      by_contra he
      have ht := hall psm (by simpa using he)
      rw [if_pos ho] at ht
      cases ht
    · intro hf psm he
      by_cases ho : (history psm).opened = some dcid
      · rw [hf psm ho] at he
        cases he
      · rw [if_neg ho]
        exact h psm he
  | inputReport => exact ⟨fun _ => trivial, fun _ => h⟩
  | other => exact ⟨fun _ => trivial, fun _ => h⟩

theorem truthful_step_iff (h : s.Truthful a) : (s.step a p).Truthful a ↔ KeepsTruth a s p := by
  cases hr : s.world.received a p with
  | none =>
    have hs : (s.step a p).Truthful a := by
      rw [step_of_none hr]
      intro d hd
      rw [World.lookup_stepAcl_of_none hr] at hd
      exact h d hd
    simp [KeepsTruth, hr, hs]
  | some device =>
    have hdev := h device (World.lookup_of_received hr)
    have hiff := truthful_after_iff (newCid s.world.globalCid) (packetOf p.1) hdev
    constructor
    · intro ht d hd
      cases hr.symm.trans hd
      refine hiff.mp fun psm he => ?_
      rw [← history_of_received hr]
      exact ht _ (lookup_of_received hr) psm he
    · intro hk d hd psm he
      cases (lookup_of_received hr).symm.trans hd
      rw [history_of_received hr]
      exact hiff.mpr (hk device hr) psm he

end

theorem established_truthful_iff {a : BdAddr} {w : World}
    (h : ∀ device ∈ w.children.lookup a, ∀ psm, device.isEstablished psm = false)
    (ps : List AclPacket) :
    Always (step a) (Truthful a) (initial w) ps ↔ Along (step a) (KeepsTruth a) (initial w) ps := by
  refine always_iff_along (fun _ _ => truthful_step_iff) ?_ ps
  intro device hd psm he
  rw [h device hd psm] at he
  cases he

instance (a : BdAddr) (s : Link) : Decidable (s.Truthful a) :=
  decidable_of_iff
    (∀ device ∈ s.world.children.lookup a, ∀ psm ∈ [L2capPsm.hidCommand, .hidInterrupt],
      device.isEstablished psm = true → (s.history psm).peerSucceeded = true)
    ⟨fun h device hd psm => h device hd psm (by cases psm <;> decide),
      fun h device hd psm _ => h device hd psm⟩

theorem established_truthful_rejected :
    Always (step someAddress) (Truthful someAddress)
        (initial (.connected someAddress freshDevice))
        [connectionRequestPacket 0x11 ⟨0x70, 0x00⟩, configurationResponsePacket ⟨0x40, 0x00⟩ 0x01] ↔
      Along (step someAddress) (KeepsTruth someAddress)
        (initial (.connected someAddress freshDevice))
        [connectionRequestPacket 0x11 ⟨0x70, 0x00⟩, configurationResponsePacket ⟨0x40, 0x00⟩ 0x01] :=
  established_truthful_iff (by intro device hd psm; cases hd; cases psm <;> rfl) _

theorem established_after_rejection :
    ¬ ∀ (a : BdAddr) (w : World) (ps : List AclPacket),
      (∀ device ∈ w.children.lookup a, ∀ psm, device.isEstablished psm = false) →
      Always (step a) (Truthful a) (initial w) ps := by
  intro h
  have ha := (h someAddress (.connected someAddress freshDevice)
    [connectionRequestPacket 0x11 ⟨0x70, 0x00⟩, configurationResponsePacket ⟨0x40, 0x00⟩ 0x01]
    (by intro device hd psm; cases hd; cases psm <;> rfl)).2.2
  revert ha
  decide +kernel

end Link

end WireShock
