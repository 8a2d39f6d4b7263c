import WireShock.Channels.LocalCids
import WireShock.Channels.Signalling
import WireShock.Channels.Unopened

namespace WireShock
open Interaction

def BthDevice.setConfigured (device : BthDevice) : L2capPsm → BthDevice
  | .hidCommand => { device with isHidCommandConfigured := true }
  | .hidInterrupt => { device with isHidInterruptConfigured := true }

def Output.answeredCid : Output → Option L2capCid
  | .bulk packet status =>
    let data := (Buffer.ofList packet).shift 8
    if (SignallingHeader.read data).code = L2capSignallingCommandCode.connectionResponse.code ∧
        (SignallingConnectionResponse.read data).result =
          L2capConnectionResponseResult.successful.code.zeroExtend 16 ∧ ntSuccess status then
      some (SignallingConnectionResponse.read data).dcid
    else none
  | _ => none

section

variable (w : World) (device : BthDevice) (buffer : Buffer)

theorem exec_ds3ConfigurationRequest_eq :
    exec (ds3ConfigurationRequest device buffer) w =
      ((w.environment.bulkStatus 0,
          device.configured (SignallingConfigurationRequest.read (buffer.shift 8)).dcid),
        w.sendBulk (l2capFrame device.hciConnectionHandle (l2capConfigurationResponse
          (SignallingConfigurationRequest.read (buffer.shift 8)).identifier
          (l2capDeviceGetScid device (SignallingConfigurationRequest.read (buffer.shift 8)).dcid
            (exec localCid w).1)))) := by
  have hc := configured_eq device (SignallingConfigurationRequest.read (buffer.shift 8)).dcid
  dsimp only at hc
  simp only [ds3ConfigurationRequest, exec_bind, exec_localCid, exec_assignIf,
    l2capCommandConfigurationResponse, exec_l2capCommand, exec_pure, hc]
  rfl

theorem log_ds3DisconnectionRequest
    (h : device.isDestination (SignallingDisconnectionRequest.read (buffer.shift 8)).dcid = true) :
    ∃ packet, DisconnectsHandle device.hciConnectionHandle packet ∧
      (exec (ds3DisconnectionRequest device buffer) w).2.log = w.log ++
        [.control packet (w.environment.controlStatus 0),
         .bulk (l2capFrame device.hciConnectionHandle (l2capDisconnectionResponse
            (SignallingDisconnectionRequest.read (buffer.shift 8)).identifier
            (SignallingDisconnectionRequest.read (buffer.shift 8)).dcid
            (SignallingDisconnectionRequest.read (buffer.shift 8)).scid))
          (w.environment.bulkStatus 0)] := by
  obtain ⟨packet, hp, he⟩ : ∃ packet, DisconnectsHandle device.hciConnectionHandle packet ∧
      exec (hciCommandDisconnect device.hciConnectionHandle) w =
        (w.environment.controlStatus 0, w.sendControl packet) := by
    have hu : (hciCommandDisconnect device.hciConnectionHandle).Uses
        (Call.Transmit device.hciConnectionHandle) :=
      transmit_of_signal signal_hciCommandDisconnect
    exact ⟨_, (hu.2 (w.uninitialised 6)).1, rfl⟩
  refine ⟨packet, hp, ?_⟩
  have hd : (l2capDeviceGetDcidForType device .hidInterrupt =
      (SignallingDisconnectionRequest.read (buffer.shift 8)).dcid ||
        l2capDeviceGetDcidForType device .hidCommand =
          (SignallingDisconnectionRequest.read (buffer.shift 8)).dcid) = true := h
  simp only [ds3DisconnectionRequest, hd, if_true, exec_bind, he,
    l2capCommandDisconnectionResponse, exec_l2capCommand]
  simp [World.sendBulk, World.sendControl]

theorem answeredCid_connectionResponse (handle : BthHandle) (id : BYTE) (scid dcid : L2capCid)
    (result : L2capConnectionResponseResult) (status : NTSTATUS) :
    (Output.bulk (l2capFrame handle (l2capConnectionResponse id scid dcid result))
      status).answeredCid =
      if result = .successful ∧ ntSuccess status then some dcid else none := by
  have hr : ((0x00 : BYTE) ++ result.code = L2capConnectionResponseResult.successful.code.zeroExtend 16) ↔
      result = .successful := by
    cases result <;> decide
  rw [Output.answeredCid, shift_ofList_l2capFrame]
  refine if_congr ?_ rfl rfl
  exact ⟨fun h => ⟨hr.mp h.2.1, h.2.2⟩, fun h => ⟨rfl, hr.mpr h.1, h.2⟩⟩

theorem answeredCid_configurationRequest (handle : BthHandle) (id : BYTE) (dcid : L2capCid)
    (setMtu : Bool) (status : NTSTATUS) :
    (Output.bulk (l2capFrame handle (l2capConfigurationRequest id dcid setMtu))
      status).answeredCid = none := by
  rw [Output.answeredCid, shift_ofList_l2capFrame]
  have hne : L2capSignallingCommandCode.configurationRequest.code ≠
      L2capSignallingCommandCode.connectionResponse.code := by decide
  exact if_neg fun h => hne h.1

theorem answeredCid_acceptance {handle : BthHandle} {id : BYTE} {scid dcid : L2capCid} {o : Output}
    (h : o ∈ w.acceptance handle id scid dcid) : ∀ cid ∈ o.answeredCid, cid = dcid := by
  have hresponse (result status) : ∀ cid ∈ (Output.bulk (l2capFrame handle
      (l2capConnectionResponse id scid dcid result)) status).answeredCid, cid = dcid := by
    intro cid hc
    rw [answeredCid_connectionResponse] at hc
    split at hc
    · exact (Option.some.inj hc).symm
    · cases hc
  rw [World.acceptance] at h
  rcases List.mem_cons.mp h with rfl | h
  · exact hresponse _ _
  split at h
  · rcases List.mem_cons.mp h with rfl | h
    · exact hresponse _ _
    split at h
    · rw [List.mem_singleton.mp h, answeredCid_configurationRequest]
      simp
    · cases h
  · cases h

theorem answered_ds3ConnectionRequest {psm : L2capPsm}
    (hp : L2capPsm.ofUshort (SignallingConnectionRequest.read (buffer.shift 8)).psm = some psm)
    (h : w.log = []) :
    ∀ o ∈ (exec (ds3ConnectionRequest device buffer) w).2.log, ∀ cid ∈ o.answeredCid,
      cid = newCid w.globalCid := by
  intro o ho
  rw [log_ds3ConnectionRequest, h, List.nil_append, hp] at ho
  exact answeredCid_acceptance w ho

theorem answered_of_succeeding {psm : L2capPsm} (hs : ∀ n, ntSuccess (w.environment.bulkStatus n))
    (hp : L2capPsm.ofUshort (SignallingConnectionRequest.read (buffer.shift 8)).psm = some psm)
    (h : w.log = []) :
    (exec (ds3ConnectionRequest device buffer) w).2.log.findSome? Output.answeredCid =
      some (newCid w.globalCid) := by
  rw [log_ds3ConnectionRequest, h, List.nil_append, hp]
  simp [World.acceptance, hs, answeredCid_connectionResponse]

end

section

variable {buffer : Buffer} (device : BthDevice)

theorem signalling_of_packetOf {packet : Packet} (h : packetOf buffer = packet)
    (hi : packet ≠ .inputReport) (ho : packet ≠ .other) :
    ∃ code, dispatchPacket device buffer = dispatchSignalling device buffer ∧
      L2capSignallingCommandCode.ofCode (buffer 8) = some code ∧
        signallingPacket buffer code = packet := by
  unfold packetOf at h
  split at h
  · rename_i hs
    cases hc : L2capSignallingCommandCode.ofCode (buffer 8) with
    | none => exact absurd (hc ▸ h).symm ho
    | some code => exact ⟨code, if_pos hs, rfl, by rw [← h, hc]; rfl⟩
  · split at h
    · exact absurd h.symm hi
    · exact absurd h.symm ho

theorem dispatchPacket_connectionRequest {type : Option L2capPsm} {scid : L2capCid}
    (h : packetOf buffer = .connectionRequest type scid) :
    dispatchPacket device buffer = (do
        let (_, device) ← ds3ConnectionRequest device buffer
        return device) ∧
      L2capPsm.ofUshort (SignallingConnectionRequest.read (buffer.shift 8)).psm = type := by
  obtain ⟨code, hd, hc, hp⟩ := signalling_of_packetOf device h (by simp) (by simp)
  cases code <;> simp [signallingPacket] at hp
  exact ⟨by rw [hd, dispatchSignalling, hc], hp.1⟩

theorem dispatchPacket_configurationRequest {dcid : L2capCid}
    (h : packetOf buffer = .configurationRequest dcid) :
    dispatchPacket device buffer = (do
        let (_, device) ← ds3ConfigurationRequest device buffer
        return device) ∧
      (SignallingConfigurationRequest.read (buffer.shift 8)).dcid = dcid := by
  obtain ⟨code, hd, hc, hp⟩ := signalling_of_packetOf device h (by simp) (by simp)
  cases code <;> simp [signallingPacket] at hp
  exact ⟨by rw [hd, dispatchSignalling, hc], hp⟩

theorem dispatchPacket_disconnectionRequest {dcid : L2capCid}
    (h : packetOf buffer = .disconnectionRequest dcid) :
    dispatchPacket device buffer = (do
        let _ ← ds3DisconnectionRequest device buffer
        return device) ∧
      (SignallingDisconnectionRequest.read (buffer.shift 8)).dcid = dcid := by
  obtain ⟨code, hd, hc, hp⟩ := signalling_of_packetOf device h (by simp) (by simp)
  cases code <;> simp [signallingPacket] at hp
  exact ⟨by rw [hd, dispatchSignalling, hc], hp⟩

end

section

variable {device : BthDevice} {psm : L2capPsm} {scid dcid : L2capCid}

theorem l2capDeviceGetScid_eq (h : device.channel psm = ⟨scid, dcid⟩)
    (hne : ∀ other ≠ psm, (device.channel other).destination ≠ dcid) (unset : L2capCid) :
    l2capDeviceGetScid device dcid unset = scid := by
  cases psm with
  | hidCommand =>
    have hc : device.l2capCommandHandle = ⟨scid, dcid⟩ := h
    have hi : device.l2capInterruptHandle.destination ≠ dcid := hne .hidInterrupt (by decide)
    simp [l2capDeviceGetScid, hc, hi]
  | hidInterrupt =>
    have hi : device.l2capInterruptHandle = ⟨scid, dcid⟩ := h
    simp [l2capDeviceGetScid, hi]

theorem configured_eq_setConfigured (h : (device.channel psm).destination = dcid)
    (hne : ∀ other ≠ psm, (device.channel other).destination ≠ dcid) :
    device.configured dcid = device.setConfigured psm := by
  cases psm with
  | hidCommand =>
    have hi := hne .hidInterrupt (by decide)
    simp [BthDevice.configured, BthDevice.setConfigured, h, Ne.symm hi]
  | hidInterrupt =>
    have hc := hne .hidCommand (by decide)
    simp [BthDevice.configured, BthDevice.setConfigured, h, Ne.symm hc]

end

structure Dialogue where
  allocation : Allocation
  opened : L2capPsm → Option BthHandlePair

namespace Dialogue

def initial (w : World) : Dialogue := ⟨.initial w, fun _ => none⟩

def answer (s : Dialogue) (log : List Output) : Packet → L2capPsm → Option BthHandlePair
  | .connectionRequest (some type) scid =>
    Function.update s.opened type ((log.findSome? Output.answeredCid).map (BthHandlePair.mk scid))
  | _ => s.opened

def step (a : BdAddr) (s : Dialogue) (p : AclPacket) : Dialogue where
  allocation := s.allocation.step a p
  opened := if (s.allocation.world.received a p).isSome then
    s.answer (s.allocation.world.stepAcl p).log (packetOf p.1) else s.opened

structure Consistent (a : BdAddr) (start : USHORT) (s : Dialogue) : Prop where
  counted : s.allocation.Counted a start
  opened : ∀ device ∈ s.allocation.world.children.lookup a, ∀ psm, ∀ pair ∈ s.opened psm,
    device.channel psm = pair ∧ (s.allocation.served psm).isSome
  unserved : ∀ device ∈ s.allocation.world.children.lookup a, ∀ psm,
    s.allocation.served psm = none → (device.channel psm).destination = .null

structure Answers (a : BdAddr) (s : Dialogue) (p : AclPacket) : Prop where
  connection : ∀ device ∈ s.allocation.world.received a p, ∀ psm scid,
    packetOf p.1 = .connectionRequest (some psm) scid →
      (∀ n, ntSuccess (s.allocation.world.environment.bulkStatus n)) →
        (s.step a p).opened psm = some ⟨scid, newCid s.allocation.world.globalCid⟩
  configuration : ∀ device ∈ s.allocation.world.received a p, ∀ psm scid dcid,
    s.opened psm = some ⟨scid, dcid⟩ → packetOf p.1 = .configurationRequest dcid →
      (s.step a p).allocation.world.children.lookup a = some (device.setConfigured psm) ∧
      ∃ status, (s.step a p).allocation.world.log =
        [.bulk (l2capFrame device.hciConnectionHandle (l2capConfigurationResponse
          (SignallingConfigurationRequest.read (p.1.shift 8)).identifier scid)) status]
  disconnection : ∀ device ∈ s.allocation.world.received a p, ∀ psm scid dcid,
    s.opened psm = some ⟨scid, dcid⟩ → packetOf p.1 = .disconnectionRequest dcid →
      ∃ packet controlStatus status, DisconnectsHandle device.hciConnectionHandle packet ∧
        (s.step a p).allocation.world.log =
          [.control packet controlStatus, .bulk (l2capFrame device.hciConnectionHandle
            (l2capDisconnectionResponse
              (SignallingDisconnectionRequest.read (p.1.shift 8)).identifier dcid
              (SignallingDisconnectionRequest.read (p.1.shift 8)).scid)) status]

section

variable {s : Dialogue} {a : BdAddr} {p : AclPacket} {device : BthDevice} {start : USHORT}

theorem opened_of_received (h : s.allocation.world.received a p = some device) :
    (s.step a p).opened = s.answer (s.allocation.world.stepAcl p).log (packetOf p.1) := by
  rw [step, h]
  rfl

theorem opened_of_none (h : s.allocation.world.received a p = none) :
    (s.step a p).opened = s.opened := by
  rw [step, h]
  rfl

theorem log_of_received (h : s.allocation.world.received a p = some device) :
    (s.allocation.world.stepAcl p).log =
      (exec (dispatchPacket device p.1) s.allocation.world.clearLog).2.log := by
  rw [World.stepAcl_of_received h]
  rfl

theorem mem_answer {log : List Output} {packet : Packet} {psm : L2capPsm} {pair : BthHandlePair}
    (h : pair ∈ s.answer log packet psm) :
    (∃ scid, ∃ o ∈ log, packet = .connectionRequest (some psm) scid ∧ pair.source = scid ∧
        pair.destination ∈ o.answeredCid) ∨
      (∀ scid, packet ≠ .connectionRequest (some psm) scid) ∧ pair ∈ s.opened psm := by
  cases packet with
  | connectionRequest type scid =>
    cases type with
    | none => exact Or.inr ⟨by simp, h⟩
    | some type =>
      rw [answer, Function.update_apply] at h
      split at h
      · rename_i ht
        obtain ⟨cid, hcid, rfl⟩ := Option.map_eq_some_iff.mp h
        obtain ⟨o, ho, hans⟩ := List.exists_of_findSome?_eq_some hcid
        exact Or.inl ⟨scid, o, ho, by rw [ht], rfl, hans⟩
      · rename_i ht
        exact Or.inr ⟨fun _ he => ht (by cases he; rfl), h⟩
  | _ => exact Or.inr ⟨by simp, h⟩

theorem consistent_step (h : s.Consistent a start) : (s.step a p).Consistent a start := by
  cases hr : s.allocation.world.received a p with
  | none =>
    have hlookup := World.lookup_stepAcl_of_none hr
    have hserved := Allocation.served_of_none hr
    refine ⟨Allocation.counted_step h.counted, fun d hd psm pair hpair => ?_,
      fun d hd psm hn => ?_⟩
    · rw [opened_of_none hr] at hpair
      rw [show (s.step a p).allocation.served = s.allocation.served from hserved]
      exact h.opened d (hlookup ▸ hd) psm pair hpair
    · rw [show (s.step a p).allocation.served = s.allocation.served from hserved] at hn
      exact h.unserved d (hlookup ▸ hd) psm hn
  | some device =>
    have hlookup := World.lookup_stepAcl_of_received hr
    have hl := World.lookup_of_received hr
    have hserved : (s.step a p).allocation.served = s.allocation.serve (packetOf p.1) :=
      Allocation.served_of_received hr
    refine ⟨Allocation.counted_step h.counted, fun d hd psm pair hpair => ?_,
      fun d hd psm hn => ?_⟩
    · cases hlookup.symm.trans hd
      rw [opened_of_received hr, log_of_received hr] at hpair
      rw [hserved]
      rcases mem_answer hpair with ⟨scid, o, ho, hp, hs, hcid⟩ | ⟨hp, hpair⟩
      · obtain ⟨hdispatch, hpsm⟩ := dispatchPacket_connectionRequest device hp
        rw [hdispatch, exec_bind] at ho
        have hdest := answered_ds3ConnectionRequest s.allocation.world.clearLog device p.1 hpsm rfl
          o ho _ hcid
        rw [hp, channel_after, Allocation.serve_connectionRequest, if_pos rfl]
        refine ⟨(if_pos rfl).trans ?_, rfl⟩
        rw [← hs]
        exact congrArg (BthHandlePair.mk pair.source) hdest.symm
      · obtain ⟨hchannel, hsome⟩ := h.opened device hl psm pair hpair
        rw [Allocation.channel_after_of_ne hp, Allocation.serve_of_ne hp]
        exact ⟨hchannel, hsome⟩
    · cases hlookup.symm.trans hd
      rw [hserved] at hn
      have hp : ∀ scid, packetOf p.1 ≠ .connectionRequest (some psm) scid := by
        intro scid hp
        rw [hp, Allocation.serve_connectionRequest, if_pos rfl] at hn
        cases hn
      rw [Allocation.serve_of_ne hp] at hn
      rw [Allocation.channel_after_of_ne hp]
      exact h.unserved device hl psm hn

theorem opened_of_succeeding {type : L2capPsm} {scid : L2capCid}
    (hr : s.allocation.world.received a p = some device)
    (hp : packetOf p.1 = .connectionRequest (some type) scid)
    (hs : ∀ n, ntSuccess (s.allocation.world.environment.bulkStatus n)) :
    (s.step a p).opened type = some ⟨scid, newCid s.allocation.world.globalCid⟩ := by
  obtain ⟨hdispatch, hpsm⟩ := dispatchPacket_connectionRequest device hp
  have hanswered := answered_of_succeeding s.allocation.world.clearLog device p.1 hs hpsm rfl
  rw [opened_of_received hr, log_of_received hr, hdispatch, exec_bind, hp, answer,
    Function.update_self]
  exact congrArg (Option.map (BthHandlePair.mk scid)) hanswered

theorem destination_ne (hd : 0x40 ≤ start) (h : s.Consistent a start)
    (hcalls : s.allocation.calls ≤ 65471)
    (hl : device ∈ s.allocation.world.children.lookup a) {psm other : L2capPsm}
    {pair : BthHandlePair} (hpair : pair ∈ s.opened psm) (hne : other ≠ psm) :
    (device.channel other).destination ≠ pair.destination := by
  obtain ⟨hchannel, hsome⟩ := h.opened device hl psm pair hpair
  obtain ⟨m, hm⟩ := Option.isSome_iff_exists.mp hsome
  have hdest := h.counted.assigned device hl psm m hm
  rw [hchannel] at hdest
  cases ho : s.allocation.served other with
  | none =>
    rw [h.unserved device hl other ho, hdest]
    exact Ne.symm (cidAt_ne_null hd m)
  | some n =>
    rw [hdest, h.counted.assigned device hl other n ho]
    intro he
    have hmod := (cidAt_eq_iff hd n m).mp he
    have hn := Nat.lt_of_lt_of_le (h.counted.below other n ho) hcalls
    have hm' := Nat.lt_of_lt_of_le (h.counted.below psm m hm) hcalls
    exact h.counted.apart other psm hne n ho m hm (hmod.eq_of_lt_of_lt hn hm')

theorem answers_of_consistent (hd : 0x40 ≤ start) (h : s.Consistent a start)
    (hcalls : s.allocation.calls ≤ 65471) : s.Answers a p := by
  constructor
  · intro device hr psm scid hp hs
    exact opened_of_succeeding hr hp hs
  · intro device hr psm scid dcid hpair hp
    have hl := World.lookup_of_received hr
    obtain ⟨hchannel, -⟩ := h.opened device hl psm _ hpair
    have hne : ∀ other ≠ psm, (device.channel other).destination ≠ dcid := fun other ho =>
      destination_ne hd h hcalls hl hpair ho
    obtain ⟨hdispatch, hread⟩ := dispatchPacket_configurationRequest device hp
    constructor
    · have hset := configured_eq_setConfigured (congrArg BthHandlePair.destination hchannel) hne
      have hafter := World.lookup_stepAcl_of_received hr
      rw [hp] at hafter
      exact hafter.trans (congrArg some hset)
    · refine ⟨s.allocation.world.environment.bulkStatus 0, ?_⟩
      have hlog : (s.step a p).allocation.world.log = _ := log_of_received hr
      rw [hlog, hdispatch, exec_bind, exec_ds3ConfigurationRequest_eq, hread,
        l2capDeviceGetScid_eq hchannel hne]
      rfl
  · intro device hr psm scid dcid hpair hp
    have hl := World.lookup_of_received hr
    obtain ⟨hchannel, -⟩ := h.opened device hl psm _ hpair
    obtain ⟨hdispatch, hread⟩ := dispatchPacket_disconnectionRequest device hp
    have hdest := (isDestination_iff device dcid).mpr
      ⟨psm, congrArg BthHandlePair.destination hchannel⟩
    obtain ⟨packet, hpacket, hsent⟩ := log_ds3DisconnectionRequest s.allocation.world.clearLog
      device p.1 (hread ▸ hdest)
    refine ⟨packet, s.allocation.world.environment.controlStatus 0,
      s.allocation.world.environment.bulkStatus 0, hpacket, ?_⟩
    have hlog : (s.step a p).allocation.world.log = _ := log_of_received hr
    rw [hlog, hdispatch, exec_bind, exec_pure]
    dsimp only
    rw [hsent, hread]
    rfl

theorem consistent_initial {w : World}
    (h : ∀ device ∈ w.children.lookup a, ∀ psm, (device.channel psm).destination = .null) :
    (initial w).Consistent a w.globalCid := by
  refine ⟨Allocation.counted_initial, fun _ _ _ _ hpair => ?_, fun d hd psm _ => h d hd psm⟩
  cases hpair

end

theorem calls_le_runs (a : BdAddr) (s : Dialogue) (ps : List AclPacket) :
    s.allocation.calls ≤ (runs (step a) s ps).allocation.calls := by
  induction ps generalizing s with
  | nil => exact Nat.le_refl _
  | cons p ps ih => exact Nat.le_trans Allocation.calls_le_step (ih (s.step a p))

theorem along_calls_le (a : BdAddr) {s : Dialogue} {ps : List AclPacket} {n : Nat}
    (h : (runs (step a) s ps).allocation.calls ≤ n) :
    Along (step a) (fun t _ => t.allocation.calls ≤ n) s ps := by
  induction ps generalizing s with
  | nil => trivial
  | cons p ps ih => exact ⟨Nat.le_trans (calls_le_runs a s (p :: ps)) h, ih h⟩

theorem answers_along (a : BdAddr) {w : World} (hd : 0x40 ≤ w.globalCid)
    (hzero : ∀ device ∈ w.children.lookup a, ∀ psm, (device.channel psm).destination = .null)
    {ps : List AclPacket} (hcalls : (runs (step a) (initial w) ps).allocation.calls ≤ 65471) :
    Along (step a) (Answers a) (initial w) ps :=
  along_of_invariant (L := fun t _ => t.allocation.calls ≤ 65471)
    (fun _ _ hs _ => consistent_step hs) (fun _ _ hs hc => answers_of_consistent hd hs hc)
    (consistent_initial hzero) (along_calls_le a hcalls)

def configurationRequestPacket (dcid : L2capCid) : AclPacket :=
  signalling .configurationRequest [dcid.lsb, dcid.msb, 0x00, 0x00]

theorem answers_along_configured :
    Along (step someAddress) (Answers someAddress)
      (initial (.connected someAddress freshDevice))
      [connectionRequestPacket 0x11 ⟨0x70, 0x00⟩, connectionRequestPacket 0x13 ⟨0x71, 0x00⟩,
        configurationRequestPacket ⟨0x41, 0x00⟩,
        disconnectionRequestPacket ⟨0x40, 0x00⟩ ⟨0x70, 0x00⟩] :=
  answers_along someAddress (by decide) (by intro device hd psm; cases hd; cases psm <;> rfl)
    (by decide +kernel)

end Dialogue

end WireShock
