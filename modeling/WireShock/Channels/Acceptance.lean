import WireShock.Channels.Bookkeeping

namespace WireShock
open Interaction

def Output.signalling : Output → Option SignallingContent
  | .bulk packet _ => decodeSignalling packet
  | _ => none

namespace SignallingContent

def Accepts (c : SignallingContent) : Prop :=
  c.code = L2capSignallingCommandCode.connectionResponse.code ∧
    (c.result = some (L2capConnectionResponseResult.successful.code.zeroExtend 16) ∨
      c.result = some (L2capConnectionResponseResult.pending.code.zeroExtend 16))

def Configures (c : SignallingContent) : Prop :=
  c.code = L2capSignallingCommandCode.configurationRequest.code

end SignallingContent

section

variable {w : World} {handle : BthHandle} {id : BYTE} {scid dcid : L2capCid}

theorem signalling_connectionResponse (result : L2capConnectionResponseResult) (status : NTSTATUS) :
    (Output.bulk (l2capFrame handle (l2capConnectionResponse id scid dcid result))
      status).signalling =
      some (SignallingCommand.connectionResponse id scid dcid result).meant :=
  ((SignallingCommand.connectionResponse id scid dcid result).decodes_iff handle).mpr
    fun _ _ h => nomatch h

theorem signalling_configurationRequest (setMtu : Bool) (status : NTSTATUS) :
    (Output.bulk (l2capFrame handle (l2capConfigurationRequest id dcid setMtu)) status).signalling =
      some (SignallingCommand.configurationRequest id dcid setMtu).meant :=
  ((SignallingCommand.configurationRequest id dcid setMtu).decodes_iff handle).mpr
    fun _ _ h => nomatch h

theorem mem_acceptance {o : Output} (h : o ∈ w.acceptance handle id scid dcid) :
    (∃ result, (result = .successful ∨ result = .pending) ∧ o.signalling =
        some (SignallingCommand.connectionResponse id scid dcid result).meant) ∨
      o.signalling =
        some (SignallingCommand.configurationRequest w.signallingId scid true).meant := by
  rw [World.acceptance] at h
  rcases List.mem_cons.mp h with rfl | h
  · exact .inl ⟨.pending, .inr rfl, signalling_connectionResponse _ _⟩
  split at h
  · rcases List.mem_cons.mp h with rfl | h
    · exact .inl ⟨.successful, .inl rfl, signalling_connectionResponse _ _⟩
    split at h
    · rw [List.mem_singleton.mp h]
      exact .inr (signalling_configurationRequest _ _)
    · cases h
  · cases h

theorem accepts_pending : (SignallingCommand.connectionResponse id scid dcid .pending).meant.Accepts :=
  ⟨rfl, .inr rfl⟩

theorem pending_mem_acceptance : ∃ o ∈ w.acceptance handle id scid dcid, o.signalling =
    some (SignallingCommand.connectionResponse id scid dcid .pending).meant :=
  ⟨_, List.mem_cons_self, signalling_connectionResponse _ _⟩

theorem cids_of_accepts {o : Output} {c : SignallingContent}
    (h : o ∈ w.acceptance handle id scid dcid) (hc : c ∈ o.signalling) (ha : c.Accepts) :
    c.dcid = some dcid ∧ c.scid = some scid := by
  rcases mem_acceptance h with ⟨result, -, ho⟩ | ho
  · cases ho.symm.trans hc
    exact ⟨rfl, rfl⟩
  · cases ho.symm.trans hc
    have hne : L2capSignallingCommandCode.configurationRequest.code ≠
        L2capSignallingCommandCode.connectionResponse.code := by decide
    exact absurd ha.1 hne

end

namespace World

def psmOf (p : AclPacket) : USHORT := (SignallingConnectionRequest.read (p.1.shift 8)).psm

structure AcceptsSupported (w : World) (a : BdAddr) (p : AclPacket) (scid : L2capCid) : Prop where
  accepts : ∀ o ∈ (w.stepAcl p).log, ∀ c ∈ o.signalling, c.Accepts →
    ∃ dcid psm device, c.dcid = some dcid ∧ 0x40 ≤ dcid.toUshort ∧
      dcid = newCid w.globalCid ∧ (w.stepAcl p).globalCid = nextGlobalCid w.globalCid ∧
      L2capPsm.ofUshort (psmOf p) = some psm ∧
      (w.stepAcl p).children.lookup a = some device ∧ device.channel psm = ⟨scid, dcid⟩
  refuses : psmOf p ≠ 0x11 → psmOf p ≠ 0x13 →
    ∀ o ∈ (w.stepAcl p).log, ∀ c ∈ o.signalling, ¬ c.Accepts ∧ ¬ c.Configures

section

variable {w : World} {a : BdAddr} {p : AclPacket} {device : BthDevice} {type : Option L2capPsm}
  {scid : L2capCid}

theorem scid_of_packetOf (hp : packetOf p.1 = .connectionRequest type scid) :
    (SignallingConnectionRequest.read (p.1.shift 8)).scid = scid := by
  obtain ⟨code, -, -, hs⟩ := signalling_of_packetOf .zero hp (by simp) (by simp)
  cases code <;> simp [signallingPacket] at hs
  exact hs.2

theorem log_connectionRequest (hr : w.received a p = some device)
    (hp : packetOf p.1 = .connectionRequest type scid) :
    (w.stepAcl p).log = w.acceptance device.hciConnectionHandle
      (SignallingConnectionRequest.read (p.1.shift 8)).identifier scid
      (type.elim (exec localCid w).1 fun _ => newCid w.globalCid) := by
  obtain ⟨hd, ht⟩ := dispatchPacket_connectionRequest device hp
  have hstep : (w.stepAcl p).log = (exec (ds3ConnectionRequest device p.1) w.clearLog).2.log := by
    rw [stepAcl_of_received hr, hd, exec_bind]
    rfl
  rw [hstep, log_ds3ConnectionRequest, ← scid_of_packetOf hp, ← ht]
  exact List.nil_append _

theorem supported_iff : (psmOf p = 0x11 ∨ psmOf p = 0x13) ↔
    ∃ psm, L2capPsm.ofUshort (psmOf p) = some psm := by
  rw [L2capPsm.ofUshort]
  split
  · rename_i h
    exact iff_of_true (.inl h) ⟨_, rfl⟩
  · split
    · rename_i h
      exact iff_of_true (.inr h) ⟨_, rfl⟩
    · rename_i h h'
      exact iff_of_false (not_or.mpr ⟨h, h'⟩) fun ⟨_, he⟩ => nomatch he

theorem dynamic_newCid_iff {globalCid : USHORT} :
    0x40 ≤ (newCid globalCid).toUshort ↔ 0x40 ≤ globalCid := by
  rw [toUshort_newCid]
  split
  · rename_i h
    exact iff_of_true (by decide) (Nat.le_trans (by decide) (show 0xFFFF ≤ globalCid.toNat from h))
  · rfl

end

theorem accepts_supported_iff {w : World} {a : BdAddr} {p : AclPacket} {device : BthDevice}
    {type : Option L2capPsm} {scid : L2capCid} (hr : w.received a p = some device)
    (hp : packetOf p.1 = .connectionRequest type scid) :
    w.AcceptsSupported a p scid ↔ (psmOf p = 0x11 ∨ psmOf p = 0x13) ∧ 0x40 ≤ w.globalCid := by
  have hlog := log_connectionRequest hr hp
  have htype : L2capPsm.ofUshort (psmOf p) = type := (dispatchPacket_connectionRequest device hp).2
  constructor
  · intro h
    obtain ⟨o, ho, hpending⟩ := pending_mem_acceptance
    rw [← hlog] at ho
    obtain ⟨dcid, psm, after, -, hdynamic, hnew, -, hpsm, -⟩ :=
      h.accepts o ho _ hpending accepts_pending
    exact ⟨supported_iff.mpr ⟨psm, hpsm⟩, dynamic_newCid_iff.mp (hnew ▸ hdynamic)⟩
  · rintro ⟨hsupported, hcounter⟩
    refine ⟨fun o ho c hc ha => ?_, fun h₁ h₂ => absurd hsupported (not_or.mpr ⟨h₁, h₂⟩)⟩
    obtain ⟨psm, hpsm⟩ := supported_iff.mp hsupported
    have hsome : type = some psm := htype.symm.trans hpsm
    rw [hlog, hsome] at ho
    obtain ⟨hdcid, -⟩ := cids_of_accepts ho hc ha
    refine ⟨newCid w.globalCid, psm, _, hdcid, dynamic_newCid_iff.mpr hcounter, rfl, ?_, hpsm,
      lookup_stepAcl_of_received hr, ?_⟩
    · rw [globalCid_stepAcl, if_pos]
      rw [allocates_of_received hr, hp, hsome]
      rfl
    · rw [hp, hsome, channel_after]
      exact if_pos rfl

theorem accepts_supported_command :
    (World.connected someAddress freshDevice).AcceptsSupported someAddress
        (connectionRequestPacket 0x11 ⟨0x70, 0x00⟩) ⟨0x70, 0x00⟩ ↔
      (psmOf (connectionRequestPacket 0x11 ⟨0x70, 0x00⟩) = 0x11 ∨
        psmOf (connectionRequestPacket 0x11 ⟨0x70, 0x00⟩) = 0x13) ∧
        0x40 ≤ (World.connected someAddress freshDevice).globalCid :=
  @accepts_supported_iff _ _ _ freshDevice (some .hidCommand) _ (by decide +kernel) (by decide +kernel)

theorem service_discovery_accepted :
    ¬ ∀ (w : World) (a : BdAddr) (p : AclPacket) (device : BthDevice) (type : Option L2capPsm)
      (scid : L2capCid), w.received a p = some device →
        packetOf p.1 = .connectionRequest type scid → w.AcceptsSupported a p scid := by
  intro h
  have hr : (World.connected someAddress freshDevice).received someAddress
      (connectionRequestPacket 0x01 ⟨0x70, 0x00⟩) = some freshDevice := by decide +kernel
  have hp : packetOf (connectionRequestPacket 0x01 ⟨0x70, 0x00⟩).1 =
      .connectionRequest none ⟨0x70, 0x00⟩ := by decide +kernel
  have hs := h _ _ _ _ _ _ hr hp
  obtain ⟨o, ho, hpending⟩ := pending_mem_acceptance
  rw [← log_connectionRequest hr hp] at ho
  exact (hs.refuses (by decide) (by decide) o ho _ hpending).1 accepts_pending

end World
end WireShock
