import WireShock.Channels.Link

namespace WireShock
open Interaction

namespace World

def linked (a : BdAddr) (w : World) : Bool :=
  (w.children.lookup a).any BthDevice.bothEstablished

def kindsDuring (a : BdAddr) : World → List AclPacket → List Kind
  | _, [] => []
  | w, p :: ps => w.kindsFor a p ++ kindsDuring a (w.stepAcl p) ps

def EnablesOnEdge (a : BdAddr) (w : World) (p : AclPacket) : Prop :=
  (∃ k ∈ enableKinds, k ∈ w.kindsFor a p) →
    w.linked a = false ∧ (w.stepAcl p).linked a = true

structure EnabledOnce (a : BdAddr) (w : World) (ps : List AclPacket) : Prop where
  once : ∀ k ∈ enableKinds, (kindsDuring a w ps).count k ≤ 1
  edge : Along stepAcl (EnablesOnEdge a) w ps

def NotRepeated (a : BdAddr) (w : World) (p : AclPacket) : Prop :=
  ∀ device ∈ w.received a p, ∀ scid result, packetOf p.1 = .configurationResponse scid result →
    device.bothEstablished = false

section

variable {w : World} {a : BdAddr} {p : AclPacket} {device : BthDevice}

theorem linked_of_lookup (h : w.children.lookup a = some device) :
    w.linked a = device.bothEstablished := by
  simp [linked, h]

theorem bothEstablished_after (cid : L2capCid) (packet : Packet)
    (h : device.bothEstablished = true) : (device.after cid packet).bothEstablished = true := by
  cases packet with
  | connectionRequest psm scid =>
    cases psm with
    | none => exact h
    | some psm => cases psm <;> exact h
  | configurationRequest dcid => exact h
  | configurationResponse scid result => exact bothEstablished_established scid h
  | _ => exact h

theorem linked_stepAcl (h : w.linked a = true) : (w.stepAcl p).linked a = true := by
  cases hr : w.received a p with
  | none => rw [linked, lookup_stepAcl_of_none hr, ← linked, h]
  | some device =>
    rw [linked_of_lookup (lookup_of_received hr)] at h
    rw [linked_of_lookup (lookup_stepAcl_of_received hr)]
    exact bothEstablished_after _ _ h

theorem enablesOnEdge_iff : EnablesOnEdge a w p ↔ NotRepeated a w p := by
  cases hr : w.received a p with
  | none => simp [EnablesOnEdge, NotRepeated, kindsFor_of_none hr, hr]
  | some device =>
    have hk := kindsFor_of_received hr
    have hw := linked_of_lookup (lookup_of_received hr)
    constructor
    · intro he d hd scid result hp
      cases hr.symm.trans hd
      by_contra hb
      have hb : device.bothEstablished = true := by simpa using hb
      rw [hp] at hk
      have hkinds := enableKinds_of_established hk (bothEstablished_established scid hb)
      have hedge := (he ⟨.hidEnable, by decide, hidEnable_mem hkinds⟩).1
      rw [hw, hb] at hedge
      cases hedge
    · rintro hn ⟨k, hm, hmem⟩
      obtain ⟨scid, result, hp, hb⟩ := enableKinds_of_produces hk hm hmem
      refine ⟨hw.trans (hn device hr scid result hp), ?_⟩
      rw [linked_of_lookup (lookup_stepAcl_of_received hr), hp]
      exact hb

theorem count_kindsFor_le {k : Kind} (hk : k ∈ enableKinds) :
    (w.kindsFor a p).count k ≤ 1 := by
  cases hr : w.received a p with
  | none => simp [kindsFor_of_none hr]
  | some device =>
    have hkinds := kindsFor_of_received hr
    by_cases hm : k ∈ w.kindsFor a p
    · obtain ⟨scid, result, hp, hb⟩ := enableKinds_of_produces hkinds hk hm
      rw [hp] at hkinds
      have he := enableKinds_of_established hkinds hb
      have hall : k = .hidEnable ∨ k = .hidReport ∨ k = .timerStart := by
        simpa [enableKinds] using hk
      rcases hall with rfl | rfl | rfl
      · exact Nat.le_of_eq he.enable
      · exact he.report
      · exact he.timer
    · rw [List.count_eq_zero_of_not_mem hm]
      exact Nat.zero_le 1

theorem count_kindsDuring_of_linked {ps : List AclPacket} (hl : w.linked a = true)
    (he : Along stepAcl (EnablesOnEdge a) w ps) {k : Kind} (hk : k ∈ enableKinds) :
    (kindsDuring a w ps).count k = 0 := by
  induction ps generalizing w with
  | nil => rfl
  | cons p ps ih =>
    have hm : k ∉ w.kindsFor a p := by
      intro hm
      have hf := (he.1 ⟨k, hk, hm⟩).1
      rw [hl] at hf
      cases hf
    rw [kindsDuring, List.count_append, List.count_eq_zero_of_not_mem hm,
      ih (linked_stepAcl hl) he.2]

theorem count_kindsDuring_le {ps : List AclPacket} (he : Along stepAcl (EnablesOnEdge a) w ps)
    {k : Kind} (hk : k ∈ enableKinds) :
    (kindsDuring a w ps).count k ≤ 1 := by
  induction ps generalizing w with
  | nil => exact Nat.zero_le 1
  | cons p ps ih =>
    rw [kindsDuring, List.count_append]
    by_cases hm : k ∈ w.kindsFor a p
    · have hl := (he.1 ⟨k, hk, hm⟩).2
      have hc : (w.kindsFor a p).count k ≤ 1 := count_kindsFor_le hk
      rw [count_kindsDuring_of_linked hl he.2 hk]
      omega
    · rw [List.count_eq_zero_of_not_mem hm, Nat.zero_add]
      exact ih he.2

end

theorem enabledOnce_iff (a : BdAddr) (w : World) (ps : List AclPacket) :
    EnabledOnce a w ps ↔ Along stepAcl (NotRepeated a) w ps := by
  constructor
  · intro h
    exact along_mono (fun _ _ => enablesOnEdge_iff.mp) h.edge
  · intro hn
    have he : Along stepAcl (EnablesOnEdge a) w ps :=
      along_mono (fun _ _ => enablesOnEdge_iff.mpr) hn
    exact ⟨fun k hk => count_kindsDuring_le he hk, he⟩

theorem enable_repeated :
    ¬ ∀ (a : BdAddr) (w : World) (ps : List AclPacket), EnabledOnce a w ps := by
  intro h
  have hc := (h someAddress (connected someAddress freshDevice)
    [connectionRequestPacket 0x11 ⟨0x70, 0x00⟩, connectionRequestPacket 0x13 ⟨0x71, 0x00⟩,
      configurationResponsePacket ⟨0x40, 0x00⟩ 0x00, configurationResponsePacket ⟨0x41, 0x00⟩ 0x00,
      configurationResponsePacket ⟨0x41, 0x00⟩ 0x00]).once .hidEnable (by decide)
  revert hc
  decide +kernel

end World

end WireShock
