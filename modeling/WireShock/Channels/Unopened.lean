import WireShock.Channels.History

namespace WireShock
open Interaction

def Packet.localCid : Packet → Option L2capCid
  | .configurationRequest dcid => some dcid
  | .configurationResponse scid _ => some scid
  | .disconnectionRequest dcid => some dcid
  | _ => none

def BthHandle.null : L2capCid := ⟨0x00, 0x00⟩

namespace Link

def acted : List Kind := [.disconnect, .hidEnable, .timerStart, .configurationResponse]

structure Effectless (a : BdAddr) (w : World) (p : AclPacket) (device : BthDevice) : Prop where
  established : ∀ after ∈ (w.stepAcl p).children.lookup a, ∀ psm,
    after.isEstablished psm = device.isEstablished psm
  configured : ∀ after ∈ (w.stepAcl p).children.lookup a, ∀ psm,
    after.isConfigured psm = device.isConfigured psm
  silent : ∀ k ∈ acted, k ∉ w.kindsFor a p

def IgnoresUnopened (a : BdAddr) (s : Link) (p : AclPacket) : Prop :=
  ∀ device ∈ s.world.received a p, ∀ cid ∈ (packetOf p.1).localCid, cid ∉ s.assigned →
    Effectless a s.world p device

def Passed (device : BthDevice) (everOpened : L2capPsm → Bool) : Packet → Prop
  | .configurationRequest _ => False
  | .configurationResponse scid _ => device.bothEstablished = false ∧
      ¬ (scid = .null ∧ ∃ psm, everOpened psm = false ∧ device.isEstablished psm = false)
  | .disconnectionRequest dcid => ¬ (dcid = .null ∧ ∃ psm, everOpened psm = false)
  | _ => True

def PassesUnopened (a : BdAddr) (s : Link) (p : AclPacket) : Prop :=
  ∀ device ∈ s.world.received a p, ∀ cid ∈ (packetOf p.1).localCid, cid ∉ s.assigned →
    Passed device s.everOpened (packetOf p.1)

structure Assigned (a : BdAddr) (s : Link) : Prop where
  opened : ∀ device ∈ s.world.children.lookup a, ∀ psm, s.everOpened psm = true →
    (device.channel psm).destination ∈ s.assigned
  unopened : ∀ device ∈ s.world.children.lookup a, ∀ psm, s.everOpened psm = false →
    (device.channel psm).destination = .null

section

variable {s : Link} {a : BdAddr} {p : AclPacket} {device : BthDevice}

theorem assigned_step (h : s.Assigned a) : (s.step a p).Assigned a := by
  cases hr : s.world.received a p with
  | none =>
    rw [step_of_none hr]
    constructor
    · intro d hd
      rw [World.lookup_stepAcl_of_none hr] at hd
      exact h.opened d hd
    · intro d hd
      rw [World.lookup_stepAcl_of_none hr] at hd
      exact h.unopened d hd
  | some device =>
    have hl := World.lookup_of_received hr
    have ho := h.opened device hl
    have hu := h.unopened device hl
    have hafter := Link.lookup_of_received hr
    rw [step_of_received hr] at hafter ⊢
    constructor
    all_goals
      intro d hd psm he
      cases hafter.symm.trans hd
      rw [channel_after]
      cases hp : packetOf p.1 with
      | connectionRequest type scid =>
        cases type with
        | none => simp_all [observe]
        | some type => by_cases ht : type = psm <;> simp_all [observe]
      | _ => simp_all [observe]

theorem destination_unassigned (h : s.Assigned a) (hl : device ∈ s.world.children.lookup a)
    {cid : L2capCid} (hc : cid ∉ s.assigned) (psm : L2capPsm) :
    cid = (device.channel psm).destination ↔ cid = .null ∧ s.everOpened psm = false := by
  cases he : s.everOpened psm with
  | false => simp [h.unopened device hl psm he]
  | true =>
    have hm := h.opened device hl psm he
    simp only [Bool.true_eq_false, and_false, iff_false]
    rintro rfl
    exact hc hm

theorem effectless_iff_response {scid : L2capCid} {result : USHORT}
    (hr : s.world.received a p = some device)
    (hp : packetOf p.1 = .configurationResponse scid result) :
    Effectless a s.world p device ↔ device.bothEstablished = false ∧
      ∀ psm, scid = (device.channel psm).destination → device.isEstablished psm = true := by
  have hk := World.kindsFor_of_received hr
  have hafter := World.lookup_stepAcl_of_received hr
  rw [hp] at hk hafter
  constructor
  · intro he
    constructor
    · by_contra hb
      have hb : device.bothEstablished = true := by simpa using hb
      have hkinds := enableKinds_of_established hk (bothEstablished_established scid hb)
      exact he.silent .hidEnable (by decide) (hidEnable_mem hkinds)
    · intro psm hd
      have hsame := he.established _ hafter psm
      rw [isEstablished_after] at hsame
      simpa [hd] using hsame.symm
  · rintro ⟨hb, hdest⟩
    have hsame : ∀ psm, (device.after (newCid s.world.globalCid)
        (.configurationResponse scid result)).isEstablished psm = device.isEstablished psm := by
      intro psm
      rw [isEstablished_after]
      by_cases hd : scid = (device.channel psm).destination
      · simp [hd, hdest psm hd]
      · simp [hd]
    refine ⟨?_, ?_, ?_⟩
    · intro after ha psm
      cases hafter.symm.trans ha
      exact hsame psm
    · intro after ha psm
      cases hafter.symm.trans ha
      exact isConfigured_after device _ _ psm
    · intro k _ hm
      have hboth : ¬ (device.established scid).bothEstablished = true := by
        intro hb'
        rw [bothEstablished_iff] at hb'
        have hall : device.bothEstablished = true :=
          (bothEstablished_iff device).mpr fun psm => (hsame psm).symm.trans (hb' psm)
        rw [hb] at hall
        cases hall
      rw [Produces, if_neg hboth] at hk
      rw [hk] at hm
      cases hm

theorem effectless_iff_disconnection {dcid : L2capCid} (hr : s.world.received a p = some device)
    (hp : packetOf p.1 = .disconnectionRequest dcid) :
    Effectless a s.world p device ↔ ∀ psm, dcid ≠ (device.channel psm).destination := by
  have hk := World.kindsFor_of_received hr
  have hafter := World.lookup_stepAcl_of_received hr
  rw [hp] at hk hafter
  rw [Produces] at hk
  constructor
  · intro he psm hd
    have hdest := (isDestination_iff device dcid).mpr ⟨psm, hd.symm⟩
    rw [if_pos hdest] at hk
    exact he.silent .disconnect (by decide) (by simp [hk])
  · intro hne
    have hdest : ¬ device.isDestination dcid = true := by
      intro hd
      obtain ⟨psm, hd⟩ := (isDestination_iff device dcid).mp hd
      exact hne psm hd.symm
    rw [if_neg hdest] at hk
    refine ⟨?_, ?_, ?_⟩
    · intro after ha psm
      cases hafter.symm.trans ha
      rfl
    · intro after ha psm
      cases hafter.symm.trans ha
      rfl
    · intro k hm
      rw [hk]
      revert hm
      cases k <;> decide

theorem ignores_iff_passes (h : s.Assigned a) : IgnoresUnopened a s p ↔ PassesUnopened a s p := by
  refine forall₂_congr fun device hr => forall₂_congr fun cid hc => forall_congr' fun hn => ?_
  have hk := World.kindsFor_of_received hr
  have hd := destination_unassigned h (World.lookup_of_received hr) hn
  cases hp : packetOf p.1 with
  | configurationRequest dcid =>
    rw [hp] at hk
    have hk : s.world.kindsFor a p = [.configurationResponse] := hk
    refine iff_of_false (fun he => ?_) id
    exact he.silent .configurationResponse (by decide) (by simp [hk])
  | configurationResponse scid result =>
    rw [hp] at hc
    cases hc
    rw [effectless_iff_response hr hp, Passed]
    refine and_congr_right fun _ => ?_
    constructor
    · rintro hall ⟨hnull, psm, ho, he⟩
      rw [hall psm ((hd psm).mpr ⟨hnull, ho⟩)] at he
      cases he
    · intro hnone psm hdest
      obtain ⟨hnull, ho⟩ := (hd psm).mp hdest
      by_contra he
      exact hnone ⟨hnull, psm, ho, by simpa using he⟩
  | disconnectionRequest dcid =>
    rw [hp] at hc
    cases hc
    rw [effectless_iff_disconnection hr hp, Passed]
    constructor
    · rintro hall ⟨hnull, psm, ho⟩
      exact hall psm ((hd psm).mpr ⟨hnull, ho⟩)
    · intro hnone psm hdest
      obtain ⟨hnull, ho⟩ := (hd psm).mp hdest
      exact hnone ⟨hnull, psm, ho⟩
  | _ =>
    rw [hp] at hc
    cases hc

end

theorem unopened_ignored_iff {a : BdAddr} {w : World}
    (h : ∀ device ∈ w.children.lookup a, ∀ psm, (device.channel psm).destination = .null)
    (ps : List AclPacket) :
    Along (step a) (IgnoresUnopened a) (initial w) ps ↔
      Along (step a) (PassesUnopened a) (initial w) ps := by
  have hs : (initial w).Assigned a := by
    constructor
    · intro device _ psm he
      cases he
    · intro device hd psm _
      exact h device hd psm
  have hl : Along (step a) (fun _ _ => True) (initial w) ps := along_of_forall fun _ _ => trivial
  exact along_congr (fun _ _ hs _ => assigned_step hs) (fun _ _ hs _ => ignores_iff_passes hs) hs hl

theorem unopened_ignored_disconnection :
    Along (step someAddress) (IgnoresUnopened someAddress)
        (initial (.connected someAddress freshDevice))
        [disconnectionRequestPacket .null ⟨0x70, 0x00⟩] ↔
      Along (step someAddress) (PassesUnopened someAddress)
        (initial (.connected someAddress freshDevice))
        [disconnectionRequestPacket .null ⟨0x70, 0x00⟩] :=
  unopened_ignored_iff (by intro device hd psm; cases hd; cases psm <;> rfl) _

theorem unopened_disconnects :
    ¬ ∀ (a : BdAddr) (w : World) (ps : List AclPacket),
      (∀ device ∈ w.children.lookup a, ∀ psm, (device.channel psm).destination = .null) →
      Along (step a) (IgnoresUnopened a) (initial w) ps := by
  intro h
  have he := (h someAddress (.connected someAddress freshDevice)
    [disconnectionRequestPacket .null ⟨0x70, 0x00⟩]
    (by intro device hd psm; cases hd; cases psm <;> rfl)).1
  have hr : (World.connected someAddress freshDevice).received someAddress
      (disconnectionRequestPacket .null ⟨0x70, 0x00⟩) = some freshDevice := by decide +kernel
  have hc : (packetOf (disconnectionRequestPacket .null ⟨0x70, 0x00⟩).1).localCid = some .null := by
    decide +kernel
  have hk : Kind.disconnect ∈ (World.connected someAddress freshDevice).kindsFor someAddress
      (disconnectionRequestPacket .null ⟨0x70, 0x00⟩) := by decide +kernel
  exact (he freshDevice hr .null hc List.not_mem_nil).silent .disconnect (by decide) hk

end Link

end WireShock
