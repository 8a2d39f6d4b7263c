import WireShock.Semantics.Routing

namespace WireShock
open Interaction

inductive Kind where
  | signalling | configurationResponse | disconnect | otherControl | hidEnable | hidReport
  | timerStart | free | complete
deriving DecidableEq, Repr

def isSuccessfulConfigurationResponse (payload : List BYTE) : Bool :=
  payload.getD 0 0 = L2capSignallingCommandCode.configurationResponse.code &&
    payload.getD 8 0 = 0x00 && payload.getD 9 0 = 0x00

def payloadKind (payload : List BYTE) : Kind :=
  if payload = hidCommandEnable then .hidEnable
  else if payload = ds3HidOutputReport then .hidReport
  else if isSuccessfulConfigurationResponse payload then .configurationResponse
  else .signalling

def Output.kind : Output → Kind
  | .control packet _ =>
    if commandOfPacket packet = some .disconnect then .disconnect else .otherControl
  | .bulk packet _ => payloadKind (packet.drop 8)
  | .timerStart _ => .timerStart
  | .free _ _ => .free
  | .complete _ _ _ _ => .complete

def World.kinds (w : World) : List Kind := w.log.map Output.kind

section

variable (w : World)

@[simp] theorem kinds_clearLog : w.clearLog.kinds = [] := rfl

@[simp] theorem kinds_emit (o : Output) : (w.emit o).kinds = w.kinds ++ [o.kind] := by
  simp [World.kinds, World.emit]

@[simp] theorem kinds_sendBulk (packet : List BYTE) :
    (w.sendBulk packet).kinds = w.kinds ++ [payloadKind (packet.drop 8)] := by
  simp [World.kinds, World.sendBulk, Output.kind]

@[simp] theorem kinds_free (p : Pointer) : (w.free p).kinds = w.kinds ++ [.free] := by
  simp [World.kinds, World.free, Output.kind]

@[simp] theorem kinds_allocate : w.allocate.kinds = w.kinds := rfl
@[simp] theorem kinds_copy (p : Pointer) (data : List BYTE) : (w.copy p data).kinds = w.kinds := rfl
@[simp] theorem kinds_setGlobalCid (value : USHORT) : (w.setGlobalCid value).kinds = w.kinds := rfl
@[simp] theorem kinds_setSignallingId (value : BYTE) :
    (w.setSignallingId value).kinds = w.kinds := rfl
@[simp] theorem kinds_addOrUpdate (a : BdAddr) (device : BthDevice) :
    (w.addOrUpdate a device).kinds = w.kinds := rfl

theorem kinds_hciCommandDisconnect (handle : BthHandle) :
    (exec (hciCommandDisconnect handle) w).2.kinds = w.kinds ++ [.disconnect] := by
  have hc := commandOfPacket_overlay w .disconnect
    (by simp : 3 + [handle.lsb, handle.msb ^^^ 0x20, (0x13 : BYTE)].length ≤ 6)
  simp only [hciCommandDisconnect, exec_hciCommandWith, World.kinds, World.sendControl,
    List.map_append, List.map_cons, List.map_nil, Output.kind, hc, if_true]

end

namespace World

-- what the answer to a Connection Request sends: nothing after the first send that fails
def acceptance (w : World) (handle : BthHandle) (id : BYTE) (scid dcid : L2capCid) : List Output :=
  .bulk (l2capFrame handle (l2capConnectionResponse id scid dcid .pending))
      (w.environment.bulkStatus 0) ::
    if ntSuccess (w.environment.bulkStatus 0) then
      .bulk (l2capFrame handle (l2capConnectionResponse id scid dcid .successful))
          (w.environment.bulkStatus 1) ::
        if ntSuccess (w.environment.bulkStatus 1) then
          [.bulk (l2capFrame handle (l2capConfigurationRequest w.signallingId scid true))
            (w.environment.bulkStatus 2)]
        else []
    else []

end World

def newCid (globalCid : USHORT) : L2capCid :=
  let globalCid := if 0xFFFF ≤ globalCid then 0x40 else globalCid
  ⟨globalCid.truncate 8, (globalCid >>> 8).truncate 8⟩

def BthDevice.setChannel (device : BthDevice) (type : L2capPsm) (pair : BthHandlePair) : BthDevice :=
  match type with
  | .hidCommand => { device with l2capCommandHandle := pair }
  | .hidInterrupt => { device with l2capInterruptHandle := pair }

def BthDevice.configured (device : BthDevice) (dcid : L2capCid) : BthDevice :=
  { device with
    isHidCommandConfigured :=
      device.isHidCommandConfigured || dcid = (device.channel .hidCommand).destination
    isHidInterruptConfigured :=
      device.isHidInterruptConfigured || dcid = (device.channel .hidInterrupt).destination }

def BthDevice.established (device : BthDevice) (scid : L2capCid) : BthDevice :=
  { device with
    isHidCommandEstablished :=
      device.isHidCommandEstablished || scid = (device.channel .hidCommand).destination
    isHidInterruptEstablished :=
      device.isHidInterruptEstablished || scid = (device.channel .hidInterrupt).destination }

def BthDevice.isDestination (device : BthDevice) (cid : L2capCid) : Bool :=
  (device.channel .hidInterrupt).destination = cid || (device.channel .hidCommand).destination = cid

def BthDevice.bothEstablished (device : BthDevice) : Bool :=
  device.isHidCommandEstablished && device.isHidInterruptEstablished

section

variable (w : World) (device : BthDevice) (buffer : Buffer)

@[simp] theorem exec_localCid : exec localCid w =
    (⟨(w.uninitialised 2).val.getD 0 0, (w.uninitialised 2).val.getD 1 0⟩, w) := (rfl)

@[simp] theorem exec_l2capGetNewCid : exec l2capGetNewCid w =
    (newCid w.globalCid,
      w.setGlobalCid ((if 0xFFFF ≤ w.globalCid then 0x40 else w.globalCid) + 1)) := (rfl)

theorem exec_l2capSetConnectionType (psm : L2capPsm) (scid dcid : L2capCid) :
    (exec (l2capSetConnectionType device (some psm) scid dcid) w).1 =
        (device.setChannel psm ⟨scid, newCid w.globalCid⟩, newCid w.globalCid) ∧
      (exec (l2capSetConnectionType device (some psm) scid dcid) w).2.kinds = w.kinds := by
  cases psm <;> simp [l2capSetConnectionType, Assignment.apply, BthDevice.setChannel]

@[simp] theorem exec_assignIf (c : Prop) [Decidable c] (value : Assignment) :
    exec (device.assignIf c value) w = (if c then value.apply device else device, w) := by
  by_cases h : c <;> simp [BthDevice.assignIf, h]

@[simp] theorem exec_l2capCommand (handle : BthHandle) (data : List BYTE) :
    exec (l2capCommand handle data) w =
      (w.environment.bulkStatus 0, w.sendBulk (l2capFrame handle data)) := (rfl)

@[simp] theorem drop_l2capFrame (handle : BthHandle) (data : List BYTE) :
    (l2capFrame handle data).drop 8 = data := rfl

@[simp] theorem drop_hidFrame (handle : BthHandle) (channel : L2capCid) (data : List BYTE) :
    (hidFrame handle channel data).drop 8 = data := rfl

@[simp] theorem kind_connectionResponse (id : BYTE) (dcid scid : L2capCid)
    (result : L2capConnectionResponseResult) :
    payloadKind (l2capConnectionResponse id dcid scid result) = .signalling := by
  simp [payloadKind, l2capConnectionResponse, hidCommandEnable, ds3HidOutputReport,
    isSuccessfulConfigurationResponse, L2capSignallingCommandCode.code]

@[simp] theorem kind_configurationRequest (id : BYTE) (dcid : L2capCid) :
    payloadKind (l2capConfigurationRequest id dcid true) = .signalling := by
  simp [payloadKind, l2capConfigurationRequest, hidCommandEnable, ds3HidOutputReport,
    isSuccessfulConfigurationResponse, L2capSignallingCommandCode.code]

@[simp] theorem kind_configurationResponse (id : BYTE) (scid : L2capCid) :
    payloadKind (l2capConfigurationResponse id scid) = .configurationResponse := by
  simp [payloadKind, l2capConfigurationResponse, hidCommandEnable, ds3HidOutputReport,
    isSuccessfulConfigurationResponse, L2capSignallingCommandCode.code]

@[simp] theorem kind_disconnectionResponse (id : BYTE) (dcid scid : L2capCid) :
    payloadKind (l2capDisconnectionResponse id dcid scid) = .signalling := by
  simp [payloadKind, l2capDisconnectionResponse, hidCommandEnable, ds3HidOutputReport,
    isSuccessfulConfigurationResponse, L2capSignallingCommandCode.code]

@[simp] theorem kind_hidCommandEnable : payloadKind hidCommandEnable = .hidEnable := by decide
@[simp] theorem kind_ds3HidOutputReport : payloadKind ds3HidOutputReport = .hidReport := by decide

theorem exec_acceptConnection (handle : BthHandle) (id : BYTE) (scid dcid : L2capCid) :
    ∃ environment, (exec (acceptConnection handle id scid dcid) w).2 =
      { w with
        environment := environment
        signallingId :=
          if ntSuccess (w.environment.bulkStatus 0) && ntSuccess (w.environment.bulkStatus 1) then
            w.signallingId + 1 else w.signallingId
        log := w.log ++ w.acceptance handle id scid dcid } := by
  simp only [acceptConnection, l2capCommandConnectionResponse, l2capCommandConfigurationRequest,
    exec_bind, exec_l2capCommand, exec_ite, exec_getSignallingId, exec_setSignallingId, exec_pure]
  cases h₀ : ntSuccess (w.environment.bulkStatus 0) with
  | false => exact ⟨_, by simp [World.acceptance, World.sendBulk, h₀]; rfl⟩
  | true =>
    cases h₁ : ntSuccess (w.environment.bulkStatus 1) with
    | false => exact ⟨_, by simp [World.acceptance, World.sendBulk, h₀, h₁]; rfl⟩
    | true =>
      exact ⟨_, by simp [World.acceptance, World.sendBulk, World.setSignallingId, h₀, h₁]; rfl⟩

theorem kind_acceptance (handle : BthHandle) (id : BYTE) (scid dcid : L2capCid) :
    ∀ k ∈ (w.acceptance handle id scid dcid).map Output.kind, k = .signalling := by
  rw [World.acceptance]
  split
  · split <;> simp [Output.kind]
  · simp [Output.kind]

theorem kinds_acceptConnection (handle : BthHandle) (id : BYTE) (scid dcid : L2capCid) :
    (exec (acceptConnection handle id scid dcid) w).2.kinds =
      w.kinds ++ (w.acceptance handle id scid dcid).map Output.kind := by
  obtain ⟨environment, h⟩ := exec_acceptConnection w handle id scid dcid
  rw [h]
  exact List.map_append

theorem exec_ds3ConnectionRequest :
    (exec (ds3ConnectionRequest device buffer) w).1.2 =
        ((L2capPsm.ofUshort (SignallingConnectionRequest.read (buffer.shift 8)).psm).elim device
          fun psm => device.setChannel psm
            ⟨(SignallingConnectionRequest.read (buffer.shift 8)).scid, newCid w.globalCid⟩) ∧
      ∃ kinds, (exec (ds3ConnectionRequest device buffer) w).2.kinds = w.kinds ++ kinds ∧
        ∀ k ∈ kinds, k = .signalling := by
  simp only [ds3ConnectionRequest, exec_bind, exec_localCid]
  cases hp : L2capPsm.ofUshort (SignallingConnectionRequest.read (buffer.shift 8)).psm with
  | none =>
    exact ⟨rfl, _, kinds_acceptConnection w _ _ _ _, kind_acceptance w _ _ _ _⟩
  | some psm =>
    have hset := exec_l2capSetConnectionType w device psm
      (SignallingConnectionRequest.read (buffer.shift 8)).scid
      ⟨(w.uninitialised 2).val.getD 0 0, (w.uninitialised 2).val.getD 1 0⟩
    rw [hset.1]
    exact ⟨rfl, _, (kinds_acceptConnection _ _ _ _ _).trans (by rw [hset.2]),
      kind_acceptance _ _ _ _ _⟩

section

variable (c : Prop) [Decidable c]

theorem apply_if_isHidCommandConfigured :
    (if c then (Assignment.isHidCommandConfigured true).apply device else device) =
      { device with isHidCommandConfigured := device.isHidCommandConfigured || c } := by
  by_cases h : c <;> simp [h, Assignment.apply]

theorem apply_if_isHidInterruptConfigured :
    (if c then (Assignment.isHidInterruptConfigured true).apply device else device) =
      { device with isHidInterruptConfigured := device.isHidInterruptConfigured || c } := by
  by_cases h : c <;> simp [h, Assignment.apply]

theorem apply_if_isHidCommandEstablished :
    (if c then (Assignment.isHidCommandEstablished true).apply device else device) =
      { device with isHidCommandEstablished := device.isHidCommandEstablished || c } := by
  by_cases h : c <;> simp [h, Assignment.apply]

theorem apply_if_isHidInterruptEstablished :
    (if c then (Assignment.isHidInterruptEstablished true).apply device else device) =
      { device with isHidInterruptEstablished := device.isHidInterruptEstablished || c } := by
  by_cases h : c <;> simp [h, Assignment.apply]

end

theorem configured_eq (dcid : L2capCid) :
    (let device := if dcid = l2capDeviceGetDcidForType device .hidCommand then
        (Assignment.isHidCommandConfigured true).apply device else device
      if dcid = l2capDeviceGetDcidForType device .hidInterrupt then
        (Assignment.isHidInterruptConfigured true).apply device else device) =
      device.configured dcid := by
  simp only [apply_if_isHidCommandConfigured, apply_if_isHidInterruptConfigured]
  rfl

theorem established_eq (scid : L2capCid) :
    (let device := if scid = l2capDeviceGetDcidForType device .hidCommand then
        (Assignment.isHidCommandEstablished true).apply device else device
      if scid = l2capDeviceGetDcidForType device .hidInterrupt then
        (Assignment.isHidInterruptEstablished true).apply device else device) =
      device.established scid := by
  simp only [apply_if_isHidCommandEstablished, apply_if_isHidInterruptEstablished]
  rfl

theorem exec_ds3ConfigurationRequest :
    (exec (ds3ConfigurationRequest device buffer) w).1.2 =
        device.configured (SignallingConfigurationRequest.read (buffer.shift 8)).dcid ∧
      (exec (ds3ConfigurationRequest device buffer) w).2.kinds =
        w.kinds ++ [.configurationResponse] := by
  simp only [ds3ConfigurationRequest, exec_bind, exec_localCid, exec_assignIf,
    l2capCommandConfigurationResponse, exec_l2capCommand, exec_pure, kinds_sendBulk,
    drop_l2capFrame, kind_configurationResponse, and_true]
  exact configured_eq device _

theorem exec_hidCommand (handle : BthHandle) (channel : L2capCid) (data : List BYTE) :
    (exec (hidCommand handle channel data) w).1 = w.environment.bulkStatus 0 ∧
      (exec (hidCommand handle channel data) w).2.kinds = w.kinds ++ [payloadKind data, .free] := by
  simp only [hidCommand, exec_bind, exec_exAllocatePoolWithTag, exec_rtlCopyMemory,
    exec_writeBulkPipe, exec_exFreePoolWithTag, exec_pure, kinds_free, kinds_sendBulk, kinds_copy,
    kinds_allocate, drop_hidFrame, List.append_assoc, List.cons_append, List.nil_append, and_true]
  rfl

structure EnableKinds (kinds : List Kind) : Prop where
  enable : kinds.count .hidEnable = 1
  report : kinds.count .hidReport ≤ 1
  timer : kinds.count .timerStart ≤ 1
  only : ∀ k ∈ kinds, k ∈ [Kind.hidEnable, .hidReport, .timerStart, .free]

theorem exec_enableHid : ∃ kinds,
    (exec (enableHid device) w).2.kinds = w.kinds ++ kinds ∧ EnableKinds kinds := by
  have h₁ := exec_hidCommand w device.hciConnectionHandle
    (l2capDeviceGetScidForType device .hidCommand) hidCommandEnable
  have h₂ := exec_hidCommand (exec (hidCommand device.hciConnectionHandle
    (l2capDeviceGetScidForType device .hidCommand) hidCommandEnable) w).2 device.hciConnectionHandle
    (l2capDeviceGetScidForType device .hidCommand) ds3HidOutputReport
  simp only [kind_hidCommandEnable] at h₁
  simp only [kind_ds3HidOutputReport] at h₂
  simp only [enableHid, exec_bind]
  cases hs₁ : ntSuccess (exec (hidCommand device.hciConnectionHandle
    (l2capDeviceGetScidForType device .hidCommand) hidCommandEnable) w).1 with
  | false =>
    refine ⟨[.hidEnable, .free], by simp [h₁.2], ?_⟩
    constructor <;> decide
  | true =>
    cases hs₂ : ntSuccess (exec (hidCommand device.hciConnectionHandle
        (l2capDeviceGetScidForType device .hidCommand) ds3HidOutputReport)
        (exec (hidCommand device.hciConnectionHandle
          (l2capDeviceGetScidForType device .hidCommand) hidCommandEnable) w).2).1 with
    | false =>
      refine ⟨[.hidEnable, .free, .hidReport, .free], by simp [hs₂, h₁.2, h₂.2], ?_⟩
      constructor <;> decide
    | true =>
      refine ⟨[.hidEnable, .free, .hidReport, .free, .timerStart], by
        simp [hs₂, h₁.2, h₂.2, Output.kind], ?_⟩
      constructor <;> decide

theorem exec_ds3ConfigurationResponse :
    (exec (ds3ConfigurationResponse device buffer) w).1.2 =
        device.established (SignallingConfigurationResponse.read (buffer.shift 8)).scid ∧
      ∃ kinds, (exec (ds3ConfigurationResponse device buffer) w).2.kinds = w.kinds ++ kinds ∧
        if (device.established (SignallingConfigurationResponse.read
          (buffer.shift 8)).scid).bothEstablished then EnableKinds kinds else kinds = [] := by
  have he := established_eq device (SignallingConfigurationResponse.read (buffer.shift 8)).scid
  dsimp only at he
  simp only [ds3ConfigurationResponse, exec_bind, exec_assignIf, he]
  cases hb : (device.established
    (SignallingConfigurationResponse.read (buffer.shift 8)).scid).bothEstablished with
  | false =>
    rw [BthDevice.bothEstablished] at hb
    simp [hb]
  | true =>
    obtain ⟨kinds, hk, he⟩ := exec_enableHid w (device.established
      (SignallingConfigurationResponse.read (buffer.shift 8)).scid)
    rw [BthDevice.bothEstablished] at hb
    simp [hb, hk, he]

theorem exec_ds3DisconnectionRequest :
    (exec (ds3DisconnectionRequest device buffer) w).2.kinds = w.kinds ++
      if device.isDestination (SignallingDisconnectionRequest.read (buffer.shift 8)).dcid then
        [Kind.disconnect, .signalling] else [.signalling] := by
  have hk := kinds_hciCommandDisconnect w device.hciConnectionHandle
  simp only [ds3DisconnectionRequest]
  change (exec (if device.isDestination (SignallingDisconnectionRequest.read
    (buffer.shift 8)).dcid then _ else _) w).2.kinds = _
  cases device.isDestination (SignallingDisconnectionRequest.read (buffer.shift 8)).dcid with
  | false => simp [l2capCommandDisconnectionResponse]
  | true => simp [l2capCommandDisconnectionResponse, hk]

def World.pendingRead (w : World) (queue : Option Handle) : Bool :=
  queue.elim false fun q => !(w.queues q).isEmpty

theorem exec_completeHidInputReport (queue : Option Handle) (f : List BYTE → List BYTE) :
    (exec (completeHidInputReport queue f) w).2.kinds =
      w.kinds ++ if w.pendingRead queue then [.complete] else [] := by
  simp only [completeHidInputReport, exec_bind, exec_ioQueueRetrieveNextRequest]
  cases queue with
  | none => simp [World.retrieveNextRequest, World.pendingRead]
  | some q =>
    cases hq : w.queues q with
    | nil => simp [World.retrieveNextRequest, World.pendingRead, hq]
    | cons r rest =>
      by_cases hl : (w.outputBuffers r).length < ds3HidInputReportSize
      · simp [World.retrieveNextRequest, World.pendingRead, hq, hl, Output.kind]
        rfl
      · simp [World.retrieveNextRequest, World.pendingRead, hq, hl, Output.kind]
        rfl

theorem exec_completeHidInputReport_idle {queue : Option Handle} (f : List BYTE → List BYTE)
    (h : w.pendingRead queue = false) :
    exec (completeHidInputReport queue f) w = (.ok statusNoMoreEntries, w) := by
  cases queue with
  | none => simp [completeHidInputReport, World.retrieveNextRequest]
  | some q =>
    have hq : w.queues q = [] := by simpa [World.pendingRead] using h
    simp [completeHidInputReport, World.retrieveNextRequest, hq]

theorem exec_completeSecondReport (r : Except NTSTATUS NTSTATUS) : ∃ kinds,
    (exec (completeSecondReport device buffer r) w).2.kinds = w.kinds ++ kinds ∧
      ∀ k ∈ kinds, k = .complete := by
  have hk := exec_completeHidInputReport w device.hidInputReportQueue
    (ds3RawToSplitHidInputReport02 buffer)
  cases r with
  | error status => exact ⟨[], by simp [completeSecondReport], by simp⟩
  | ok status =>
    by_cases hm : device.configuration.hidDeviceMode = .multi
    · refine ⟨if w.pendingRead device.hidInputReportQueue then [.complete] else [], ?_, ?_⟩
      · rw [← hk]
        simp only [completeSecondReport, hm, if_true, exec_bind]
        cases (exec (completeHidInputReport device.hidInputReportQueue
          (ds3RawToSplitHidInputReport02 buffer)) w).1 <;> rfl
      · split <;> simp
    · exact ⟨[], by simp [completeSecondReport, hm], by simp⟩

theorem exec_completeSecondReport_idle (r : NTSTATUS)
    (h : w.pendingRead device.hidInputReportQueue = false) :
    (exec (completeSecondReport device buffer (.ok r)) w).2 = w := by
  by_cases hm : device.configuration.hidDeviceMode = .multi <;>
    simp [completeSecondReport, hm, exec_completeHidInputReport_idle w _ h]

theorem exec_ds3ProcessHidInputReport : ∃ kinds,
    (exec (ds3ProcessHidInputReport device buffer) w).2.kinds = w.kinds ++ kinds ∧
      (∀ k ∈ kinds, k = .complete) ∧
      (kinds ≠ [] ↔ buffer 10 ≠ 0xFF ∧ w.pendingRead device.hidInputReportQueue = true) := by
  by_cases hff : buffer 10 = 255#8
  · exact ⟨[], by simp [ds3ProcessHidInputReport, hff], by simp, by simp [hff]⟩
  cases hp : w.pendingRead device.hidInputReportQueue with
  | false =>
    refine ⟨[], ?_, by simp, by simp⟩
    simp [ds3ProcessHidInputReport, hff, exec_completeHidInputReport_idle w _ hp,
      exec_completeSecondReport_idle _ _ _ _ hp]
  | true =>
    have h₁ := exec_completeHidInputReport w device.hidInputReportQueue
      (translateHidInputReport device.configuration (buffer.shift 9))
    rw [hp, if_pos rfl] at h₁
    obtain ⟨kinds, h₂, hk⟩ := exec_completeSecondReport (exec (completeHidInputReport
        device.hidInputReportQueue
        (translateHidInputReport device.configuration (buffer.shift 9))) w).2 device
      (buffer.shift 9) (exec (completeHidInputReport device.hidInputReportQueue
        (translateHidInputReport device.configuration (buffer.shift 9))) w).1
    refine ⟨.complete :: kinds, ?_, ?_, by simp [hff]⟩
    · simp only [ds3ProcessHidInputReport, exec_ite, exec_bind]
      rw [if_neg (show ¬ buffer 10 = 0xFF from hff), h₂, h₁]
      simp
    · intro k hm
      rcases List.mem_cons.mp hm with rfl | hm
      · rfl
      · exact hk k hm

end

end WireShock
