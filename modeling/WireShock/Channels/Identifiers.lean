import WireShock.Channels.Acceptance

namespace WireShock
open Interaction

def identifierCounter : CyclicCounter BYTE where
  next id := id + 1
  index := BitVec.toNat
  size := 256
  index_lt id := id.isLt
  index_next id := BitVec.toNat_add id 1

structure LegalIdentifiers (ids : List BYTE) : Prop where
  nonzero : ∀ id ∈ ids, id ≠ 0x00
  distinct : ∀ window, window <:+: ids → window.length ≤ 255 → window.Nodup

def Output.originated (o : Output) : Option BYTE :=
  o.signalling.bind fun c =>
    if c.code = L2capSignallingCommandCode.configurationRequest.code then some c.identifier else none

namespace World

def originated (w : World) (p : AclPacket) : List BYTE :=
  (w.stepAcl p).log.filterMap Output.originated

def originatedAlong : World → List AclPacket → List BYTE
  | _, [] => []
  | w, p :: ps => w.originated p ++ originatedAlong (w.stepAcl p) ps

-- the request is for a listed device and the USB stack takes both answers to it
def opens (w : World) (p : AclPacket) : Bool :=
  p.2 ≠ 0 && (w.children.findByHandle (BthHandle.fromBuffer p.1 0)).isSome &&
    ntSuccess (w.environment.bulkStatus 0) && ntSuccess (w.environment.bulkStatus 1)

def opened : World → List AclPacket → Nat
  | _, [] => 0
  | w, p :: ps => if w.opens p then opened (w.stepAcl p) ps + 1 else opened (w.stepAcl p) ps

end World

section

variable (w : World) (device : BthDevice) (buffer : Buffer)

theorem originated_connectionResponse (handle : BthHandle) (id : BYTE) (scid dcid : L2capCid)
    (result : L2capConnectionResponseResult) (status : NTSTATUS) :
    (Output.bulk (l2capFrame handle (l2capConnectionResponse id scid dcid result))
      status).originated = none := by
  have hne : L2capSignallingCommandCode.connectionResponse.code ≠
      L2capSignallingCommandCode.configurationRequest.code := by decide
  rw [Output.originated, signalling_connectionResponse, Option.bind_some]
  exact if_neg hne

theorem originated_configurationRequest (handle : BthHandle) (id : BYTE) (dcid : L2capCid)
    (setMtu : Bool) (status : NTSTATUS) :
    (Output.bulk (l2capFrame handle (l2capConfigurationRequest id dcid setMtu))
      status).originated = some id := by
  rw [Output.originated, signalling_configurationRequest, Option.bind_some]
  exact if_pos rfl

theorem originated_acceptance (handle : BthHandle) (id : BYTE) (scid dcid : L2capCid) :
    (w.acceptance handle id scid dcid).filterMap Output.originated =
      if ntSuccess (w.environment.bulkStatus 0) && ntSuccess (w.environment.bulkStatus 1) then
        [w.signallingId] else [] := by
  rw [World.acceptance, List.filterMap_cons_none (originated_connectionResponse ..)]
  cases ntSuccess (w.environment.bulkStatus 0) with
  | false => rfl
  | true =>
    rw [if_pos rfl, List.filterMap_cons_none (originated_connectionResponse ..)]
    cases ntSuccess (w.environment.bulkStatus 1) with
    | false => rfl
    | true =>
      exact List.filterMap_cons_some (originated_configurationRequest ..)

end

namespace World

variable {w : World} {p : AclPacket} {type : Option L2capPsm} {scid : L2capCid}

theorem stepAcl_of_unknown
    (h : p.2 = 0 ∨ w.children.findByHandle (BthHandle.fromBuffer p.1 0) = none) :
    w.stepAcl p = w.clearLog := by
  rw [stepAcl, step_acl]
  rcases h with h | h
  · exact if_pos h
  · rw [h]
    exact ite_self w.clearLog

theorem opens_of_unknown
    (h : p.2 = 0 ∨ w.children.findByHandle (BthHandle.fromBuffer p.1 0) = none) :
    w.opens p = false := by
  rcases h with h | h <;> simp [opens, h]

theorem originated_step (hp : packetOf p.1 = .connectionRequest type scid) :
    w.originated p = (if w.opens p then [w.signallingId] else []) ∧
      (w.stepAcl p).signallingId = if w.opens p then w.signallingId + 1 else w.signallingId := by
  by_cases hu : p.2 = 0 ∨ w.children.findByHandle (BthHandle.fromBuffer p.1 0) = none
  · rw [originated, stepAcl_of_unknown hu, opens_of_unknown hu]
    exact ⟨rfl, rfl⟩
  · obtain ⟨hn, hf⟩ := not_or.mp hu
    obtain ⟨⟨a, device⟩, hf⟩ := Option.ne_none_iff_exists'.mp hf
    have hr : w.received a p = some device := received_of_findByHandle hn hf
    have hopens : w.opens p =
        (ntSuccess (w.environment.bulkStatus 0) && ntSuccess (w.environment.bulkStatus 1)) := by
      simp [opens, hn, hf]
    have hid : (w.stepAcl p).signallingId =
        (exec (ds3ConnectionRequest device p.1) w.clearLog).2.signallingId := by
      rw [stepAcl_of_received hr, (dispatchPacket_connectionRequest device hp).1, exec_bind]
      rfl
    rw [originated, log_connectionRequest hr hp, originated_acceptance, hid,
      signallingId_ds3ConnectionRequest, hopens]
    exact ⟨rfl, rfl⟩

theorem originatedAlong_eq {ps : List AclPacket}
    (h : ∀ p ∈ ps, ∃ type scid, packetOf p.1 = .connectionRequest type scid) :
    w.originatedAlong ps = identifierCounter.labels w.signallingId (w.opened ps) := by
  induction ps generalizing w with
  | nil => rfl
  | cons p ps ih =>
    obtain ⟨type, scid, hp⟩ := h p List.mem_cons_self
    obtain ⟨horiginated, hid⟩ := originated_step (w := w) hp
    rw [originatedAlong, opened, horiginated, ih fun q hq => h q (List.mem_cons_of_mem p hq), hid]
    split <;> rfl

end World

theorem zero_mem_labels_iff (id : BYTE) (n : Nat) :
    0x00 ∈ identifierCounter.labels id n ↔ (256 - id.toNat) % 256 < n := by
  have hindex (i : Nat) : (identifierCounter.next^[i] id).toNat = (id.toNat + i) % 256 :=
    identifierCounter.index_iterate id i
  have hlt : id.toNat < 256 := id.isLt
  rw [CyclicCounter.mem_labels]
  constructor
  · rintro ⟨i, hi, hz⟩
    have hzero := hindex i
    rw [hz] at hzero
    have hzero : 0 = (id.toNat + i) % 256 := hzero
    omega
  · intro h
    refine ⟨(256 - id.toNat) % 256, h, BitVec.eq_of_toNat_eq ?_⟩
    rw [hindex]
    have hzero : (id.toNat + (256 - id.toNat) % 256) % 256 = 0 := by omega
    exact hzero

theorem legal_labels_iff (id : BYTE) (n : Nat) :
    LegalIdentifiers (identifierCounter.labels id n) ↔ n ≤ (256 - id.toNat) % 256 := by
  constructor
  · intro h
    by_contra hlt
    exact h.nonzero 0x00 ((zero_mem_labels_iff id n).mpr (Nat.lt_of_not_le hlt)) rfl
  · intro h
    refine ⟨fun other hm hz => ?_, fun window hw hl =>
      CyclicCounter.nodup_of_infix_labels hw (Nat.le_trans hl (by decide))⟩
    rw [hz] at hm
    exact absurd ((zero_mem_labels_iff id n).mp hm) (Nat.not_lt_of_le h)

namespace World

theorem identifiers_legal_iff (w : World) (ps : List AclPacket)
    (h : ∀ p ∈ ps, ∃ type scid, packetOf p.1 = .connectionRequest type scid) :
    LegalIdentifiers (w.originatedAlong ps) ↔
      w.opened ps ≤ (256 - w.signallingId.toNat) % 256 := by
  rw [originatedAlong_eq h, legal_labels_iff]

theorem connectionRequests_replicate (n : Nat) : ∀ p ∈ List.replicate n
    (connectionRequestPacket 0x11 ⟨0x70, 0x00⟩),
      ∃ type scid, packetOf p.1 = .connectionRequest type scid := by
  intro p hp
  rw [List.eq_of_mem_replicate hp]
  exact ⟨some .hidCommand, ⟨0x70, 0x00⟩, by decide +kernel⟩

theorem identifiers_legal_two :
    LegalIdentifiers ((World.connected someAddress freshDevice).originatedAlong
        (List.replicate 2 (connectionRequestPacket 0x11 ⟨0x70, 0x00⟩))) ↔
      (World.connected someAddress freshDevice).opened
          (List.replicate 2 (connectionRequestPacket 0x11 ⟨0x70, 0x00⟩)) ≤
        (256 - (World.connected someAddress freshDevice).signallingId.toNat) % 256 :=
  identifiers_legal_iff _ _ (connectionRequests_replicate 2)

theorem identifier_zero_originated :
    ¬ ∀ (w : World) (ps : List AclPacket), w.signallingId = 0x01 →
      (∀ p ∈ ps, ∃ type scid, packetOf p.1 = .connectionRequest type scid) →
        LegalIdentifiers (w.originatedAlong ps) := by
  intro h
  have hps := connectionRequests_replicate 256
  have hl := h (.connected someAddress freshDevice) _ rfl hps
  have hopened : (World.connected someAddress freshDevice).opened
      (List.replicate 256 (connectionRequestPacket 0x11 ⟨0x70, 0x00⟩)) = 256 := by decide +kernel
  rw [originatedAlong_eq hps, hopened] at hl
  exact hl.nonzero 0x00 ((zero_mem_labels_iff _ _).mpr (by decide)) rfl

end World
end WireShock
