import WireShock.Driver.DsCommon
import WireShock.Reception.Identities
import WireShock.Requests.Queries
import WireShock.Requests.Reversal

namespace WireShock
open Interaction

namespace Buffer

variable (buffer : Buffer) (offset : Nat) (data : List BYTE)

theorem overlay_of_past {i : Nat} (h : i < offset ∨ offset + data.length ≤ i) :
    buffer.overlay offset data i = buffer i := by
  rw [Buffer.overlay, if_neg]
  omega

theorem overlay_of_inside {i : Nat} (h : i < data.length) :
    buffer.overlay offset data (offset + i) = data[i] := by
  rw [Buffer.overlay, if_pos (by omega), Nat.add_sub_cancel_left]
  simp [h]

theorem bytes_overlay_inside : (buffer.overlay offset data).bytes offset data.length = data := by
  refine List.ext_getElem (by simp) fun i hi hi' => ?_
  simp only [bytes, List.getElem_map, List.getElem_range]
  exact overlay_of_inside buffer offset data hi'

theorem bytes_overlay_past {start n : Nat}
    (h : start + n ≤ offset ∨ offset + data.length ≤ start) :
    (buffer.overlay offset data).bytes start n = buffer.bytes start n := by
  refine List.map_congr_left fun i hi => ?_
  have hlt : i < n := List.mem_range.mp hi
  exact overlay_of_past buffer offset data (by omega)

theorem bytes_overlay {n : Nat} (h : data.length ≤ n) :
    (buffer.overlay offset data).bytes 0 (offset + n) =
      buffer.bytes 0 offset ++ (data ++ buffer.bytes (offset + data.length) (n - data.length)) := by
  obtain ⟨k, rfl⟩ := Nat.exists_eq_add_of_le h
  rw [bytes_add, bytes_add, Nat.zero_add, Nat.add_sub_cancel_left, bytes_overlay_inside,
    bytes_overlay_past buffer offset data (.inl (by omega)),
    bytes_overlay_past buffer offset data (.inr le_rfl)]

@[simp] theorem overlay_nil : buffer.overlay offset [] = buffer := by
  funext i
  exact overlay_of_past buffer offset [] (by simp; omega)

theorem mirror_overlay :
    mirror (buffer.overlay offset data) offset (offset + data.length - 1) =
      buffer.overlay offset data.reverse := by
  funext i
  by_cases hi : offset ≤ i ∧ i < offset + data.length
  · obtain ⟨k, rfl⟩ := Nat.exists_eq_add_of_le hi.1
    have hk : k < data.length := by omega
    have hr : k < data.reverse.length := by rwa [List.length_reverse]
    have he : offset + (offset + data.length - 1) - (offset + k) =
      offset + (data.length - 1 - k) := by omega
    rw [mirror_of_inside (by omega) (by omega), he, overlay_of_inside _ _ _ (by omega),
      overlay_of_inside _ _ _ hr, List.getElem_reverse]
  · have hp : i < offset ∨ offset + data.length ≤ i := by omega
    have hr : i < offset ∨ offset + data.reverse.length ≤ i := by rwa [List.length_reverse]
    rw [mirror_of_past hp, overlay_of_past _ _ _ hp, overlay_of_past _ _ _ hr]

end Buffer

def Item.store (item : Option Item) (buffer : Buffer) : Buffer :=
  item.elim buffer fun i => buffer.overlay i.offset i.bytes

namespace DsHid

section

variable {s : System} {r : Request} {a : BdAddr} {context : DeviceContext} {device : BthDevice}
  {packet : HidXferPacket}

theorem exec_writeAddress (address : BdAddr) :
    exec (writeAddress r address) s =
      ((), s.setReportBuffer r ((s.requests r).reportBuffer.overlay 5 address.address.reverse)) := by
  have hm : ∀ buffer : Buffer, mirror (buffer.overlay 5 address.address) 5 (5 + 6 - 1) =
      buffer.overlay 5 address.address.reverse := by
    intro buffer
    rw [← Buffer.mirror_overlay, address.size]
  rw [writeAddress, exec_bind, exec_writeReportBuffer, exec_reverseByteArray, reportBuffer_set,
    setReportBuffer_set]
  exact congrArg (fun buffer => ((), s.setReportBuffer r buffer)) (hm _)

theorem reportBuffer_nextFramework :
    (s.nextFramework.requests r).reportBuffer = (s.requests r).reportBuffer := rfl

theorem reportBuffer_getFeature (hl : s.world.children.lookup a = some device)
    (hd : Described packet.reportId → ntSuccess s.status = true) :
    ((exec (getFeature context a r packet) s).2.requests r).reportBuffer =
      Item.store (featureItem context a device packet.reportId) (s.requests r).reportBuffer := by
  have hn : sizeofDsFeatureHeader = 5 := rfl
  have hdescribe (hs : ntSuccess s.status = true) : s.describe a = (s.status, device) := by
    rw [System.describe_of_some hl, if_pos hs]
  obtain ⟨id, len⟩ := packet
  by_cases h0 : id = 0xC0#8
  · simp [getFeature, featureItem, Item.store, exec_writeAddress, reportBuffer_set, h0]
  by_cases h2 : id = 0xC2#8
  · have hs := hd (.inl h2)
    simp [getFeature, featureItem, Item.store, exec_writeAddress, reportBuffer_set, h2, hs,
      reportBuffer_nextFramework]
  by_cases h3 : id = 0xC3#8
  · have hs := hd (.inr h3)
    simp [getFeature, featureItem, Item.store, exec_writeReportBuffer, reportBuffer_set, h3, hs, hn,
      hdescribe hs, reportBuffer_nextFramework]
  by_cases h4 : id = 0xC4#8
  · simp [getFeature, featureItem, Item.store, exec_writeReportBuffer, reportBuffer_set, h4, hn]
  · simp [getFeature, featureItem, Item.store, h0, h2, h3, h4]

end

end DsHid

namespace SystemEvent

def hostAddress : SystemEvent → Option BdAddr
  | .driver e => e.hostAddress
  | .ioctl .. => none

def namedType (a : BdAddr) : SystemEvent → Option DsDeviceType
  | .driver e => e.namedType a
  | .ioctl .. => none

def Requests (a : BdAddr) : SystemEvent → Prop
  | .driver e => e.linkEvent = some (.requested a)
  | .ioctl .. => False

end SystemEvent

namespace System

-- what no request changes: the children, the driver's context, what the stack holds
def lasting (s : System) : ChildList × DeviceContext × BthDevice :=
  (s.world.children, s.world.context, s.world.environment.unwritten)

def identity (s : System) (a : BdAddr) : Option Identity := identityView.look s.world a

section

variable (s : System)

theorem lasting_respond (c : DsHid.Call) : (DsHid.respond c s).2.lasting = s.lasting := by
  cases c with
  | requestForwardToIoQueue r queue =>
    cases queue with
    | none => rfl
    | some q =>
      rw [DsHid.respond, forward]
      split <;> rfl
  | memoryCopyFromBuffer r data =>
    rw [DsHid.respond, copyToMemory]
    split
    · rfl
    · split <;> rfl
  | _ => rfl

theorem lasting_ioctl (a : BdAddr) (code : DsHid.IoControlCode) (request : HidRequest)
    (output : List BYTE) : (s.step (.ioctl a code request output)).lasting = s.lasting :=
  Program.run_invariant (h := DsHid.respond) (P := fun _ => True)
    (I := fun t : System => t.lasting = s.lasting)
    (fun c t _ ht => (lasting_respond t c).trans ht) (Program.uses_true _) rfl

theorem hostAddress_step (e : SystemEvent) : (s.step e).world.context.bluetoothHostAddress =
    e.hostAddress.getD s.world.context.bluetoothHostAddress := by
  cases e with
  | driver e => exact WireShock.hostAddress_step s.world e
  | ioctl a code request output =>
    exact congrArg (fun l => l.2.1.bluetoothHostAddress) (lasting_ioctl s a code request output)

theorem unwritten_step (e : SystemEvent) :
    (s.step e).world.environment.unwritten = s.world.environment.unwritten := by
  cases e with
  | driver e => exact WireShock.unwritten_step e
  | ioctl a code request output =>
    exact congrArg (fun l => l.2.2) (lasting_ioctl s a code request output)

theorem unwritten_runs (es : List SystemEvent) :
    (runs step s es).world.environment.unwritten = s.world.environment.unwritten :=
  runs_invariant (L := fun _ _ => True)
    (I := fun t : System => t.world.environment.unwritten = s.world.environment.unwritten)
    (fun t e ht _ => (unwritten_step t e).trans ht) rfl (along_of_forall fun _ _ => trivial)

variable {s} {a : BdAddr} {e : SystemEvent} {later : Identity}

theorem identity_step (h : (s.step e).identity a = some later) :
    (∃ i, s.identity a = some i ∧ later = identityView.named (e.namedType a) i) ∨
      (s.identity a = none ∧ e.Requests a ∧
        later = identityView.of s.world.environment.unwritten) := by
  cases e with
  | driver e => exact knows_identity h
  | ioctl b code request output =>
    have hl : (s.step (.ioctl b code request output)).identity a = s.identity a :=
      look_congr identityView (congrArg Prod.fst (lasting_ioctl s b code request output))
    exact .inl ⟨later, hl ▸ h, rfl⟩

end

section

variable {environment : Environment} {requests : Request → HidRequest} {es before : List SystemEvent}
  {start : SystemEvent} {since : List SystemEvent} {a : BdAddr} {i : Identity}

theorem hostAddress_runs (s : System) : (runs step s es).world.context.bluetoothHostAddress =
    lastTold SystemEvent.hostAddress s.world.context.bluetoothHostAddress es :=
  lastTold_runs (fun s : System => s.world.context.bluetoothHostAddress)
    fun s e => hostAddress_step s e

-- while a child is listed it keeps its configuration, and its type is what its names last told
theorem identity_episode {s : System}
    (he : Episode step (identity · a) s es before start since)
    (h : (runs step s es).identity a = some i) : start.Requests a ∧
      i.configuration = s.world.environment.unwritten.configuration ∧
      i.deviceType = lastTold (SystemEvent.namedType a) s.world.environment.unwritten.deviceType
        since := by
  have hfirst : ∀ i, ((runs step s before).step start).identity a = some i →
      start.Requests a ∧ i = identityView.of s.world.environment.unwritten := by
    intro i hi
    rcases identity_step hi with ⟨j, hj, -⟩ | ⟨-, hr, hi⟩
    · exact absurd (he.missing.symm.trans hj) (by simp)
    · exact ⟨hr, hi.trans (congrArg identityView.of (unwritten_runs s before))⟩
  have hkeep : ∀ (s : System) e i j, s.identity a = some i → (s.step e).identity a = some j →
      j = identityView.named (e.namedType a) i := by
    intro s e i j hi hj
    rcases identity_step hj with ⟨k, hk, hl⟩ | ⟨hn, -⟩
    · rw [Option.some.inj (hi.symm.trans hk), hl]
    · exact absurd (hn.symm.trans hi) (by simp)
  refine ⟨?_, ?_, ?_⟩
  · obtain ⟨j, hj⟩ := Option.isSome_iff_exists.mp (he.present [] List.nil_prefix)
    rw [runs_concat] at hj
    exact (hfirst j hj).1
  · refine (Episode.told Identity.configuration (fun _ => none) ?_ he ?_ h).trans
      (lastTold_of_silent fun _ _ => rfl)
    · intro s e i j hi hj
      rw [hkeep s e i j hi hj]
      cases e.namedType a <;> rfl
    · intro j hj
      rw [(hfirst j hj).2]
      rfl
  · refine Episode.told Identity.deviceType _ ?_ he ?_ h
    · intro s e i j hi hj
      rw [hkeep s e i j hi hj]
      cases e.namedType a <;> rfl
    · intro j hj
      rw [(hfirst j hj).2]
      rfl

end

end System

-- what has been told of the radio and of one of its children
structure Told where
  host : BdAddr
  address : BdAddr
  deviceType : DsDeviceType

namespace DsHid.DsFeatureType

def payload (told : Told) : DsFeatureType → List BYTE
  | getHostBdAddr => told.host.address.reverse
  | getDeviceBdAddr => told.address.address.reverse
  | getDeviceType => ulongBytes (deviceTypeCode told.deviceType)
  | getConnectionType => ulongBytes dsConnectionTypeBluetooth
  -- no handler fills it in
  | getDeviceConfig => []

theorem length_payload (told : Told) (feature : DsFeatureType) :
    (feature.payload told).length ≤ feature.payloadSize := by
  cases feature with
  | getHostBdAddr => exact ((List.length_reverse ..).trans told.host.size).le
  | getDeviceBdAddr => exact ((List.length_reverse ..).trans told.address.size).le
  | getDeviceType | getConnectionType => exact Nat.le_refl 4
  | getDeviceConfig => exact Nat.zero_le _

end DsHid.DsFeatureType

section

variable {feature : DsHid.DsFeatureType} {context : DeviceContext} {a : BdAddr} {device : BthDevice}
  {buffer : Buffer}

theorem bytes_initialised (h : buffer.bytes 0 feature.size = feature.init) :
    buffer.bytes 0 5 = DsHid.dsFeatureHeader feature ∧
      buffer.bytes 5 feature.payloadSize = List.replicate feature.payloadSize 0 := by
  have hsize : feature.size = 5 + feature.payloadSize := rfl
  rw [hsize, Buffer.bytes_add, DsHid.DsFeatureType.init_eq, DsHid.dsFeatureInit] at h
  exact List.append_inj h (by rw [Buffer.length_bytes]; rfl)

theorem store_featureItem : Item.store (featureItem context a device feature.code) buffer =
    buffer.overlay 5 (feature.payload ⟨context.bluetoothHostAddress, a, device.deviceType⟩) := by
  cases feature with
  | getDeviceConfig => exact (Buffer.overlay_nil buffer 5).symm
  | _ => rfl

theorem bytes_overlay_initialised {data : List BYTE} (hd : data.length ≤ feature.payloadSize)
    (h : buffer.bytes 0 feature.size = feature.init) :
    (buffer.overlay 5 data).bytes 0 feature.size = DsHid.dsFeatureHeader feature ++
      (data ++ List.replicate (feature.payloadSize - data.length) 0) := by
  obtain ⟨hheader, hzero⟩ := bytes_initialised h
  have hsize : feature.size = 5 + feature.payloadSize := rfl
  obtain ⟨k, hk⟩ := Nat.exists_eq_add_of_le hd
  rw [hk, Buffer.bytes_add, List.replicate_add] at hzero
  rw [hsize, Buffer.bytes_overlay buffer 5 data hd, hheader, hk, Nat.add_sub_cancel_left,
    List.append_inj_right hzero (by simp)]

end

namespace System

structure Asks (s : System) (feature : DsHid.DsFeatureType) (request : HidRequest) : Prop where
  fills : s.Fills request
  reportId : request.packet.reportId = feature.code

def featureAnswer (s : System) (a : BdAddr) (request : HidRequest) (output : List BYTE) : System :=
  s.step (.ioctl a .hidGetFeature request output)

structure Tells (s : System) (a : BdAddr) (feature : DsHid.DsFeatureType) (request : HidRequest)
    (output : List BYTE) (told : Told) : Prop where
  completed : ∃ status data, ntSuccess status = true ∧
    (s.featureAnswer a request output).world.log =
      [.complete s.arrivals status request.packet.reportBufferLen data]
  filled : ((s.featureAnswer a request output).requests s.arrivals).reportBuffer.bytes 5
    (feature.payload told).length = feature.payload told
  kept : ∀ i, i < 5 ∨ 5 + (feature.payload told).length ≤ i →
    ((s.featureAnswer a request output).requests s.arrivals).reportBuffer i =
      request.reportBuffer i
  framed : request.reportBuffer.bytes 0 feature.size = feature.init →
    ((s.featureAnswer a request output).requests s.arrivals).reportBuffer.bytes 0 feature.size =
      DsHid.dsFeatureHeader feature ++ (feature.payload told ++
        List.replicate (feature.payloadSize - (feature.payload told).length) 0)

section

variable {s : System} {a : BdAddr} {feature : DsHid.DsFeatureType} {request : HidRequest}
  {output : List BYTE} {device : BthDevice}

theorem answer_feature (hf : s.Fills request) :
    s.answer a .getFeature request output device =
      ((DsHid.exec (DsHid.getFeature s.world.context a s.arrivals request.packet)
          (s.entered a request output).nextFramework).1,
        (DsHid.exec (DsHid.getFeature s.world.context a s.arrivals request.packet)
          (s.entered a request output).nextFramework).2.updateRequest s.arrivals fun q =>
            { q with information := request.packet.reportBufferLen }) := by
  have hp : sizeofHidXferPacket ≤ (((s.entered a request output).nextFramework).requests
      s.arrivals).parameters.outputBufferLength := by
    rw [requests_entered]
    exact hf.1
  have he := @DsHid.exec_feature _ _ s.world.context a device hp
  rwa [requests_entered] at he

theorem reportBuffer_featureAnswer (hr : s.Reaches a device) (hq : s.Asks feature request) :
    ((s.featureAnswer a request output).requests s.arrivals).reportBuffer =
      request.reportBuffer.overlay 5 (feature.payload
        ⟨s.world.context.bluetoothHostAddress, a, device.deviceType⟩) := by
  have hl := @lookup_entered s a request output device hr
  have hg := @DsHid.reportBuffer_getFeature _ s.arrivals a s.world.context _ _ hl hq.fills.2
  rw [requests_entered, hq.reportId, store_featureItem] at hg
  refine (callerBuffer_step (q := .getFeature) hr).trans ?_
  show ((s.answer a .getFeature request output device).2.requests s.arrivals).reportBuffer = _
  rw [@answer_feature s a request output device hq.fills, ← hg]
  simp [updateRequest]

theorem tells_feature (hr : s.Reaches a device) (hs : s.world.environment.Synchronous)
    (hq : s.Asks feature request) : s.Tells a feature request output
      ⟨s.world.context.bluetoothHostAddress, a, device.deviceType⟩ := by
  have hl := @lookup_entered s a request output device hr
  have he := @answer_feature s a request output device hq.fills
  have hstatus : (s.answer a .getFeature request output device).1 =
      if DsHid.Described request.packet.reportId then s.world.environment.frameworkStatus 1
      else statusSuccess := by
    rw [he]
    exact DsHid.status_getFeature hl
  have hn : ntSuccess (s.answer a .getFeature request output device).1 = true := by
    rw [hstatus]
    split
    · next hd => exact hq.fills.2 hd
    · decide
  have hpending : (s.answer a .getFeature request output device).1 ≠ statusPending := by
    rw [hstatus]
    split
    · exact hs 1
    · decide
  have hlog : (s.answer a .getFeature request output device).2.world.log = [] := by
    rw [he]
    exact DsHid.log_getFeature
  have hinformation : ((s.answer a .getFeature request output device).2.requests
      s.arrivals).information = request.packet.reportBufferLen := by
    rw [he]
    simp [updateRequest]
  have hbuffer := @reportBuffer_featureAnswer s a feature request output device hr hq
  refine ⟨⟨_, (s.answer a .getFeature request output device).2.world.outputBuffers s.arrivals, hn,
    ?_⟩, ?_, fun i hi => ?_, fun h => ?_⟩
  · change (s.clearLog.react (.ioctl a HidQuery.getFeature.code request output)).world.log = _
    rw [react_query hr, if_pos hpending, emit, World.emit, hlog, hinformation]
    rfl
  · rw [hbuffer, Buffer.bytes_overlay_inside]
  · rw [hbuffer]
    exact Buffer.overlay_of_past _ _ _ hi
  · rw [hbuffer]
    exact bytes_overlay_initialised (DsHid.DsFeatureType.length_payload _ feature) h

end

theorem identity_of_reaches {s : System} {a : BdAddr} {device : BthDevice}
    (h : s.Reaches a device) : s.identity a = some (identityView.of device) :=
  look_of_lookup identityView h.1

def told (environment : Environment) (es since : List SystemEvent) (a : BdAddr) : Told where
  host := lastTold SystemEvent.hostAddress (World.initial environment).context.bluetoothHostAddress es
  address := a
  deviceType := lastTold (SystemEvent.namedType a) environment.unwritten.deviceType since

-- whatever the driver has been through, a feature request is answered with what the radio and the
-- controller last told of themselves, the controller since the request that had it listed
theorem features_told (environment : Environment) (hs : environment.Synchronous)
    (requests : Request → HidRequest) (es : List SystemEvent) (a : BdAddr) (device : BthDevice)
    (feature : DsHid.DsFeatureType) (request : HidRequest) (output : List BYTE)
    (hr : (runs step (initial environment requests) es).Reaches a device)
    (hq : (runs step (initial environment requests) es).Asks feature request) :
    ∃ before start since,
      Episode step (identity · a) (initial environment requests) es before start since ∧
        start.Requests a ∧
        (runs step (initial environment requests) es).Tells a feature request output
          (told environment es since a) := by
  have hi := identity_of_reaches hr
  obtain ⟨before, start, since, he⟩ := episode_of_present (identity · a) rfl hi
  obtain ⟨hstart, -, ht⟩ := identity_episode he hi
  have htold : told environment es since a =
      ⟨(runs step (initial environment requests) es).world.context.bluetoothHostAddress, a,
        device.deviceType⟩ := by
    have ht' : device.deviceType = _ := ht
    rw [hostAddress_runs, ht']
    rfl
  refine ⟨before, start, since, he, hstart, htold ▸ tells_feature hr ?_ hq⟩
  exact (conserved_runs hs es).synchronous

-- a radio tells its address, a controller asks to be connected
def introduced : List SystemEvent :=
  [.driver (.hci (.ofList [0x0E, 0x0A, 0x01, 0x09, 0x10, 0x00, 0x11, 0x22, 0x33, 0x44, 0x55, 0x66])
      12),
    .driver (.hci (.ofList [0x04, 0x0A, 0x01, 0x02, 0x03, 0x04, 0x05, 0x06]) 12)]

theorem features_told_introduced : ∃ before start since,
    Episode step (identity · someAddress) (initial .succeeding fun _ => emptyRequest) introduced
      before start since ∧ start.Requests someAddress ∧
        (runs step (initial .succeeding fun _ => emptyRequest) introduced).Tells someAddress
          .getHostBdAddr ⟨⟨16, 0, 0⟩, ⟨0xC0, 11⟩, fun _ => 0xAA, 0⟩ []
          (told .succeeding introduced since someAddress) :=
  features_told .succeeding (fun _ => (by decide : statusSuccess ≠ statusPending)) _ introduced
    someAddress .zero .getHostBdAddr _ []
    ⟨by decide +kernel, by decide +kernel⟩ ⟨by decide +kernel, rfl⟩

end System
end WireShock
