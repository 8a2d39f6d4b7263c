import WireShock.Channels.History
import WireShock.Interaction.CyclicCounter

namespace WireShock
open Interaction

def nextGlobalCid (globalCid : USHORT) : USHORT :=
  (if 0xFFFF ≤ globalCid then 0x40 else globalCid) + 1

def cidCounter : CyclicCounter USHORT where
  next := nextGlobalCid
  index globalCid := (globalCid.toNat + 65407) % 65471
  size := 65471
  index_lt _ := Nat.mod_lt _ (by decide)
  index_next globalCid := by
    have hlt := globalCid.isLt
    rw [nextGlobalCid]
    split
    · rename_i h
      have h : 0xFFFF ≤ globalCid.toNat := h
      have he : globalCid.toNat = 0xFFFF := by omega
      rw [he]
      decide
    · rename_i h
      have h : ¬ 0xFFFF ≤ globalCid.toNat := h
      have he : (globalCid + 1).toNat = globalCid.toNat + 1 := by
        rw [BitVec.toNat_add]
        exact Nat.mod_eq_of_lt (by simp; omega)
      rw [he]
      omega

@[simp] theorem size_cidCounter : cidCounter.size = 65471 := rfl
@[simp] theorem next_cidCounter : cidCounter.next = nextGlobalCid := rfl

theorem dynamic_nextGlobalCid {globalCid : USHORT} (h : 0x40 ≤ globalCid) :
    0x40 ≤ nextGlobalCid globalCid := by
  have h : 0x40 ≤ globalCid.toNat := h
  rw [nextGlobalCid]
  split
  · decide
  · rename_i hn
    have hn : ¬ 0xFFFF ≤ globalCid.toNat := hn
    have he : (globalCid + 1).toNat = globalCid.toNat + 1 := by
      rw [BitVec.toNat_add]
      exact Nat.mod_eq_of_lt (by simp; omega)
    change 0x40 ≤ (globalCid + 1).toNat
    omega

theorem dynamic_iterate {globalCid : USHORT} (h : 0x40 ≤ globalCid) (n : Nat) :
    0x40 ≤ nextGlobalCid^[n] globalCid := by
  induction n with
  | zero => exact h
  | succ n ih =>
    rw [Function.iterate_succ_apply']
    exact dynamic_nextGlobalCid ih

theorem toUshort_newCid (globalCid : USHORT) :
    (newCid globalCid).toUshort = if 0xFFFF ≤ globalCid then 0x40 else globalCid := by
  rw [newCid, BthHandle.toUshort]
  generalize (if 0xFFFF ≤ globalCid then 0x40 else globalCid) = g
  ext i hi
  simp only [BitVec.getElem_append]
  grind

theorem toNat_newCid {globalCid : USHORT} (h : 0x40 ≤ globalCid) :
    (newCid globalCid).toUshort.toNat = 0x40 + cidCounter.index globalCid := by
  have h : 0x40 ≤ globalCid.toNat := h
  have hlt := globalCid.isLt
  have hi : cidCounter.index globalCid = (globalCid.toNat + 65407) % 65471 := rfl
  rw [toUshort_newCid, hi]
  split
  · rename_i hn
    have hn : 0xFFFF ≤ globalCid.toNat := hn
    have he : globalCid.toNat = 0xFFFF := by omega
    rw [he]
    decide
  · rename_i hn
    have hn : ¬ 0xFFFF ≤ globalCid.toNat := hn
    omega

def cidAt (globalCid : USHORT) (n : Nat) : L2capCid := newCid (nextGlobalCid^[n] globalCid)

theorem cidAt_eq_iff {globalCid : USHORT} (h : 0x40 ≤ globalCid) (m n : Nat) :
    cidAt globalCid m = cidAt globalCid n ↔ m ≡ n [MOD 65471] := by
  rw [← size_cidCounter, ← cidCounter.index_iterate_eq_iff globalCid m n, next_cidCounter]
  have hm := toNat_newCid (dynamic_iterate h m)
  have hn := toNat_newCid (dynamic_iterate h n)
  constructor
  · intro he
    rw [cidAt, cidAt] at he
    rw [he, hn] at hm
    exact (Nat.add_left_cancel hm).symm
  · intro he
    have hu : (newCid (nextGlobalCid^[m] globalCid)).toUshort =
        (newCid (nextGlobalCid^[n] globalCid)).toUshort := by
      refine BitVec.eq_of_toNat_eq ?_
      rw [hm, hn]
      exact congrArg (0x40 + ·) he
    rw [cidAt, cidAt, newCid, newCid]
    rw [toUshort_newCid, toUshort_newCid] at hu
    rw [hu]

theorem cidAt_ne_null {globalCid : USHORT} (h : 0x40 ≤ globalCid) (n : Nat) :
    cidAt globalCid n ≠ ⟨0x00, 0x00⟩ := by
  intro he
  have hn := toNat_newCid (dynamic_iterate h n)
  rw [show newCid (nextGlobalCid^[n] globalCid) = _ from he] at hn
  have hz : (BthHandle.mk 0x00 0x00).toUshort.toNat = 0 := by decide
  omega

theorem eq_bytes_of_toUshort (cid : L2capCid) :
    cid = ⟨byteOf cid.toUshort.toNat, byteOf (cid.toUshort.toNat / 256)⟩ := by
  obtain ⟨lsb, msb⟩ := cid
  have hl := lsb.isLt
  have hm := msb.isLt
  have hv : (BthHandle.mk lsb msb).toUshort.toNat = msb.toNat * 256 + lsb.toNat := by
    rw [BthHandle.toUshort, BitVec.toNat_append, ← Nat.shiftLeft_add_eq_or_of_lt hl,
      Nat.shiftLeft_eq]
  rw [hv, BthHandle.mk.injEq]
  constructor
  · refine BitVec.eq_of_toNat_eq ?_
    rw [byteOf, BitVec.toNat_ofNat]
    omega
  · refine BitVec.eq_of_toNat_eq ?_
    rw [byteOf, BitVec.toNat_ofNat]
    omega

theorem toNat_nextGlobalCid {globalCid : USHORT} (h : 0x40 ≤ globalCid) :
    (nextGlobalCid globalCid).toNat = (newCid globalCid).toUshort.toNat + 1 := by
  have hi : cidCounter.index globalCid < 65471 := cidCounter.index_lt globalCid
  have hn := toNat_newCid h
  rw [nextGlobalCid, ← toUshort_newCid, BitVec.toNat_add]
  exact Nat.mod_eq_of_lt (by simp; omega)

namespace World

variable (w : World) (n : Nat)

-- the call of the allocator after n earlier ones, from the value its static counter starts with
def newCidCall : L2capCid × World :=
  exec l2capGetNewCid ((fun v => (exec l2capGetNewCid v).2)^[n] (w.setGlobalCid 0x40))

theorem globalCid_iterate_getNewCid (v : World) :
    ((fun v => (exec l2capGetNewCid v).2)^[n] v).globalCid = nextGlobalCid^[n] v.globalCid := by
  induction n with
  | zero => rfl
  | succ n ih =>
    rw [Function.iterate_succ_apply', Function.iterate_succ_apply', ← ih]
    rfl

theorem newCidCall_fst : (w.newCidCall n).1 = cidAt 0x40 n := by
  have h := globalCid_iterate_getNewCid n (w.setGlobalCid 0x40)
  exact congrArg newCid h

theorem globalCid_newCidCall :
    (w.newCidCall n).2.globalCid = nextGlobalCid (nextGlobalCid^[n] 0x40) := by
  have h := globalCid_iterate_getNewCid n (w.setGlobalCid 0x40)
  exact congrArg nextGlobalCid h

theorem toNat_cidAt : (cidAt 0x40 n).toUshort.toNat = 0x40 + n % 65471 := by
  have hstart : cidCounter.index 0x40 = 0 := by decide
  have hi := cidCounter.index_iterate 0x40 n
  rw [hstart, Nat.zero_add] at hi
  rw [cidAt, toNat_newCid (dynamic_iterate (Nat.le_refl _) n)]
  exact congrArg (0x40 + ·) hi

end World

structure AllocatorCall (value : Nat) (call : L2capCid × World) : Prop where
  bytes : call.1 = ⟨byteOf value, byteOf (value / 256)⟩
  dynamic : 0x0040 ≤ call.1.toUshort.toNat ∧ call.1.toUshort.toNat ≤ 0xFFFE
  noOverflow : call.2.globalCid.toNat = value + 1

theorem new_cid_sequence (w : World) :
    (∀ n, AllocatorCall (0x40 + n % 65471) (w.newCidCall n)) ∧
      ∀ start, ((List.range 65471).map fun k => (w.newCidCall (start + k)).1).Nodup := by
  constructor
  · intro n
    have hv := World.toNat_cidAt n
    have hlt := Nat.mod_lt n (show 65471 > 0 by decide)
    refine ⟨?_, ?_, ?_⟩
    · rw [w.newCidCall_fst, ← hv]
      exact eq_bytes_of_toUshort _
    · rw [w.newCidCall_fst, hv]
      omega
    · rw [w.globalCid_newCidCall, toNat_nextGlobalCid (dynamic_iterate (Nat.le_refl _) n), ← hv]
      rfl
  · intro start
    refine List.nodup_range.map_on fun j hj k hk he => ?_
    rw [List.mem_range] at hj hk
    have hcid : cidAt 0x40 (start + j) = cidAt 0x40 (start + k) := by
      rw [← w.newCidCall_fst, ← w.newCidCall_fst]
      exact he
    have hmod : start + j ≡ start + k [MOD 65471] := (cidAt_eq_iff (Nat.le_refl _) _ _).mp hcid
    exact (Nat.ModEq.add_left_cancel' start hmod).eq_of_lt_of_lt hj hk

def Packet.allocates : Packet → Bool
  | .connectionRequest type _ => type.isSome
  | _ => false

section

variable (w : World) (device : BthDevice) (buffer : Buffer)

@[simp] theorem globalCid_sendBulk (packet : List BYTE) :
    (w.sendBulk packet).globalCid = w.globalCid := rfl

@[simp] theorem globalCid_sendControl (packet : List BYTE) :
    (w.sendControl packet).globalCid = w.globalCid := rfl

-- all that a Connection Request changes: the two counters and the record of what was sent
theorem world_ds3ConnectionRequest :
    ∃ environment, (exec (ds3ConnectionRequest device buffer) w).2 =
      let data := SignallingConnectionRequest.read (buffer.shift 8)
      { w with
        environment := environment
        globalCid := if (L2capPsm.ofUshort data.psm).isSome then nextGlobalCid w.globalCid
          else w.globalCid
        signallingId :=
          if ntSuccess (w.environment.bulkStatus 0) && ntSuccess (w.environment.bulkStatus 1) then
            w.signallingId + 1 else w.signallingId
        log := w.log ++ w.acceptance device.hciConnectionHandle data.identifier data.scid
          ((L2capPsm.ofUshort data.psm).elim (exec localCid w).1 fun _ => newCid w.globalCid) } := by
  simp only [ds3ConnectionRequest, exec_bind, exec_localCid, exec_pure]
  cases L2capPsm.ofUshort (SignallingConnectionRequest.read (buffer.shift 8)).psm with
  | none => exact exec_acceptConnection w _ _ _ _
  | some psm =>
    cases psm <;> exact exec_acceptConnection (w.setGlobalCid (nextGlobalCid w.globalCid)) _ _ _ _

theorem globalCid_ds3ConnectionRequest :
    (exec (ds3ConnectionRequest device buffer) w).2.globalCid =
      if (L2capPsm.ofUshort (SignallingConnectionRequest.read (buffer.shift 8)).psm).isSome then
        nextGlobalCid w.globalCid else w.globalCid := by
  obtain ⟨environment, h⟩ := world_ds3ConnectionRequest w device buffer
  rw [h]

theorem signallingId_ds3ConnectionRequest :
    (exec (ds3ConnectionRequest device buffer) w).2.signallingId =
      if ntSuccess (w.environment.bulkStatus 0) && ntSuccess (w.environment.bulkStatus 1) then
        w.signallingId + 1 else w.signallingId := by
  obtain ⟨environment, h⟩ := world_ds3ConnectionRequest w device buffer
  rw [h]

theorem log_ds3ConnectionRequest :
    (exec (ds3ConnectionRequest device buffer) w).2.log =
      let data := SignallingConnectionRequest.read (buffer.shift 8)
      w.log ++ w.acceptance device.hciConnectionHandle data.identifier data.scid
        ((L2capPsm.ofUshort data.psm).elim (exec localCid w).1 fun _ => newCid w.globalCid) := by
  obtain ⟨environment, h⟩ := world_ds3ConnectionRequest w device buffer
  rw [h]

theorem globalCid_ds3ConfigurationRequest :
    (exec (ds3ConfigurationRequest device buffer) w).2.globalCid = w.globalCid := by
  simp only [ds3ConfigurationRequest, exec_bind, exec_localCid, exec_assignIf,
    l2capCommandConfigurationResponse, exec_l2capCommand, exec_pure, globalCid_sendBulk]

theorem globalCid_hidCommand (handle : BthHandle) (channel : L2capCid) (data : List BYTE) :
    (exec (hidCommand handle channel data) w).2.globalCid = w.globalCid := rfl

theorem globalCid_enableHid : (exec (enableHid device) w).2.globalCid = w.globalCid := by
  have hc := fun v data => globalCid_hidCommand v device.hciConnectionHandle
    (l2capDeviceGetScidForType device .hidCommand) data
  simp only [enableHid, exec_bind, exec_ite, exec_pure, exec_timerStart]
  split
  · exact hc w _
  · split
    · rw [hc, hc]
    · rw [World.emit, hc, hc]

theorem globalCid_ds3ConfigurationResponse :
    (exec (ds3ConfigurationResponse device buffer) w).2.globalCid = w.globalCid := by
  have he := established_eq device (SignallingConfigurationResponse.read (buffer.shift 8)).scid
  dsimp only at he
  simp only [ds3ConfigurationResponse, exec_bind, exec_assignIf, he, exec_ite, exec_pure]
  split
  · exact globalCid_enableHid w _
  · rfl

theorem globalCid_ds3DisconnectionRequest :
    (exec (ds3DisconnectionRequest device buffer) w).2.globalCid = w.globalCid := by
  simp only [ds3DisconnectionRequest, hciCommandDisconnect, exec_bind, exec_ite,
    exec_hciCommandWith, l2capCommandDisconnectionResponse, exec_l2capCommand]
  split <;> rfl

theorem globalCid_completeHidInputReport (queue : Option Handle) (f : List BYTE → List BYTE) :
    (exec (completeHidInputReport queue f) w).2.globalCid = w.globalCid := by
  obtain ⟨queues, hq⟩ := w.retrieveNextRequest_world queue
  simp only [completeHidInputReport, exec_bind, exec_ioQueueRetrieveNextRequest, hq]
  cases (w.retrieveNextRequest queue).1 with
  | error status => rfl
  | ok request =>
    dsimp only
    rw [exec_bind, exec_requestRetrieveOutputBuffer]
    split <;> rfl

theorem globalCid_ds3ProcessHidInputReport :
    (exec (ds3ProcessHidInputReport device buffer) w).2.globalCid = w.globalCid := by
  simp only [ds3ProcessHidInputReport, exec_ite, exec_bind]
  split
  · rfl
  · rw [← globalCid_completeHidInputReport w device.hidInputReportQueue
      (translateHidInputReport device.configuration (buffer.shift 9))]
    generalize exec (completeHidInputReport device.hidInputReportQueue
      (translateHidInputReport device.configuration (buffer.shift 9))) w = r
    cases r.1 with
    | error status => rfl
    | ok status =>
      simp only [completeSecondReport, exec_ite, exec_bind]
      split
      · rw [← globalCid_completeHidInputReport r.2 device.hidInputReportQueue
          (ds3RawToSplitHidInputReport02 (buffer.shift 9))]
        cases (exec (completeHidInputReport device.hidInputReportQueue
          (ds3RawToSplitHidInputReport02 (buffer.shift 9))) r.2).1 <;> rfl
      · rfl

theorem globalCid_dispatchPacket :
    (exec (dispatchPacket device buffer) w).2.globalCid =
      if (packetOf buffer).allocates then nextGlobalCid w.globalCid else w.globalCid := by
  unfold dispatchPacket packetOf
  by_cases hs : l2capIsControlChannel buffer = true
  · rw [if_pos hs, if_pos hs, dispatchSignalling]
    cases hc : L2capSignallingCommandCode.ofCode (buffer 8) with
    | none => rfl
    | some code =>
      cases code with
      | connectionRequest =>
        have h := globalCid_ds3ConnectionRequest w device buffer
        simp only [exec_bind, exec_pure, h]
        rfl
      | configurationRequest =>
        simp only [exec_bind, exec_pure, globalCid_ds3ConfigurationRequest]
        rfl
      | configurationResponse =>
        simp only [exec_bind, exec_pure, globalCid_ds3ConfigurationResponse]
        rfl
      | disconnectionRequest =>
        simp only [exec_bind, exec_pure, globalCid_ds3DisconnectionRequest]
        rfl
      | _ => rfl
  · rw [if_neg hs, if_neg hs]
    by_cases hi : l2capIsHidInputReport buffer = true
    · rw [if_pos hi, if_pos hi]
      cases device.deviceType with
      | ps3Dualshock =>
        simp only [exec_bind, exec_pure, globalCid_ds3ProcessHidInputReport]
        rfl
      | _ => rfl
    · rw [if_neg hi, if_neg hi]
      rfl

end

namespace World

def allocates (w : World) (p : AclPacket) : Bool :=
  p.2 ≠ 0 && (w.children.findByHandle (BthHandle.fromBuffer p.1 0)).isSome &&
    (packetOf p.1).allocates

theorem globalCid_stepAcl (w : World) (p : AclPacket) :
    (w.stepAcl p).globalCid =
      if w.allocates p then nextGlobalCid w.globalCid else w.globalCid := by
  rw [stepAcl, step_acl, allocates]
  by_cases hn : p.2 = 0
  · simp only [hn]
    rfl
  · rw [if_neg hn]
    cases w.children.findByHandle (BthHandle.fromBuffer p.1 0) with
    | none => simp [clearLog]
    | some entry =>
      have h := globalCid_dispatchPacket w.clearLog entry.2 p.1
      simpa [hn, addOrUpdate, clearLog] using h

theorem allocates_of_received {w : World} {a : BdAddr} {p : AclPacket} {device : BthDevice}
    (h : w.received a p = some device) : w.allocates p = (packetOf p.1).allocates := by
  obtain ⟨hn, hf⟩ := findByHandle_of_received h
  simp [allocates, hn, hf]

end World

end WireShock
