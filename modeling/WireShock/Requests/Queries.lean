import WireShock.Requests.Outcomes

namespace WireShock
open Interaction

inductive HidQuery where
  | getFeature
  | getString
  | getIndexedString
  | getDeviceDescriptor
  | getReportDescriptor
  | getDeviceAttributes
deriving DecidableEq, Repr

def HidQuery.code : HidQuery → DsHid.IoControlCode
  | .getFeature => .hidGetFeature
  | .getString => .hidGetString
  | .getIndexedString => .hidGetIndexedString
  | .getDeviceDescriptor => .hidGetDeviceDescriptor
  | .getReportDescriptor => .hidGetReportDescriptor
  | .getDeviceAttributes => .hidGetDeviceAttributes

-- contents of the caller's buffer from an offset on, where the driver has what is asked for
structure Item where
  offset : Nat
  bytes : List BYTE
deriving DecidableEq, Repr

def featureItem (context : DeviceContext) (a : BdAddr) (device : BthDevice) (reportId : BYTE) :
    Option Item :=
  if reportId = 0xC0 then some ⟨5, context.bluetoothHostAddress.address.reverse⟩
  else if reportId = 0xC2 then some ⟨5, a.address.reverse⟩
  else if reportId = 0xC3 then some ⟨5, DsHid.ulongBytes (DsHid.deviceTypeCode device.deviceType)⟩
  else if reportId = 0xC4 then some ⟨5, DsHid.ulongBytes DsHid.dsConnectionTypeBluetooth⟩
  else none

def indexedString (dsType : DsDeviceType) (stringIndex : BitVec 32) : Option (List BYTE) :=
  if dsType = .ps3Dualshock ∧ stringIndex = DsHid.ds3DeviceStringIndex then
    some DsHid.ds3DeviceString
  else none

def HidQuery.item (context : DeviceContext) (a : BdAddr) (device : BthDevice)
    (request : HidRequest) : HidQuery → Option Item
  | .getFeature => featureItem context a device request.packet.reportId
  | .getString => (DsHid.namedString device.deviceType (DsHid.stringId request)).map (⟨0, ·⟩)
  | .getIndexedString => (indexedString device.deviceType (DsHid.stringId request)).map (⟨0, ·⟩)
  | .getDeviceDescriptor => device.configuration.hidDeviceMode.reportDescriptor.map
      fun descriptor => ⟨0, (DsHid.hidDescriptorFor descriptor).bytes⟩
  | .getReportDescriptor => device.configuration.hidDeviceMode.reportDescriptor.map (⟨0, ·⟩)
  | .getDeviceAttributes => none

structure Delivered (item : Option Item) (written : List Nat) (contents : Buffer)
    (capacity : Nat) : Prop where
  some : written ≠ []
  inside : ∀ offset ∈ written, offset < capacity
  whole : ∀ i ∈ item, ∀ k, k < i.bytes.length →
    i.offset + k ∈ written ∧ contents (i.offset + k) = i.bytes.getD k 0

def HidQuery.capacity (request : HidRequest) (output : List BYTE) : HidQuery → Nat
  | .getFeature => request.packet.reportBufferLen
  | _ => output.length

namespace System

-- a feature report goes to the packet's report buffer, anything else to the output memory
def callerBuffer (s : System) (r : Request) : HidQuery → Buffer
  | .getFeature => (s.requests r).reportBuffer
  | _ => Buffer.ofList (s.world.outputBuffers r)

def requestedItem (s : System) (a : BdAddr) (q : HidQuery) (request : HidRequest) : Option Item :=
  (s.world.children.lookup a).bind fun device => q.item s.world.context a device request

def ReturnsData (s : System) (a : BdAddr) (q : HidQuery) (request : HidRequest)
    (output : List BYTE) : Prop :=
  let t := s.step (.ioctl a q.code request output)
  let written := s.written a q.code request output
  ∀ status information data, .complete s.arrivals status information data ∈ t.world.log →
    (ntSuccess status = true →
      Delivered (s.requestedItem a q request) written (t.callerBuffer s.arrivals q)
        (q.capacity request output) ∧ information = written.dedup.length) ∧
    (ntSuccess status = false → written = [])

def Supplies (s : System) (request : HidRequest) (device : BthDevice) : HidQuery → Prop
  | .getFeature => ¬ s.Fills request
  | .getString => True
  | .getIndexedString => device.deviceType = .ps3Dualshock ∨
      ntSuccess (s.world.environment.frameworkStatus 1) = false
  | .getDeviceDescriptor | .getReportDescriptor =>
    device.configuration.hidDeviceMode.reportDescriptor.isSome = true ∨
      ntSuccess (s.world.environment.frameworkStatus 1) = false
  | .getDeviceAttributes => False

def Supplied (s : System) (a : BdAddr) (request : HidRequest) (q : HidQuery) : Prop :=
  ∀ device, s.Reaches a device → s.Supplies request device q

section

variable {s : System} {a : BdAddr} {q : HidQuery} {request : HidRequest} {output : List BYTE}
  {device : BthDevice}

-- the request as the handler leaves it, and the status it is then completed with
def answer (s : System) (a : BdAddr) (q : HidQuery) (request : HidRequest) (output : List BYTE)
    (device : BthDevice) : NTSTATUS × System :=
  DsHid.exec (DsHid.dispatchIoControlCode s.world.context a device s.arrivals q.code)
    (s.entered a request output).nextFramework

theorem react_query (hr : s.Reaches a device) :
    s.clearLog.react (.ioctl a q.code request output) =
      if (s.answer a q request output device).1 ≠ statusPending then
        (s.answer a q request output device).2.emit (.complete s.arrivals
          (s.answer a q request output device).1
          ((s.answer a q request output device).2.requests s.arrivals).information
          ((s.answer a q request output device).2.world.outputBuffers s.arrivals))
      else (s.answer a q request output device).2 := by
  have hc : (s.entered a request output).world.context = s.world.context := rfl
  change (DsHid.exec (DsHid.wireChildEvtWdfIoQueueIoInternalDeviceControl a s.arrivals q.code)
    (s.entered a request output)).2 = _
  simp only [DsHid.wireChildEvtWdfIoQueueIoInternalDeviceControl, DsHid.exec_bind,
    DsHid.exec_getParentContext, DsHid.exec_pdoRetrieveAddressDescription, describe_entered hr,
    hr.2, hc, Bool.not_true, Bool.false_eq_true, if_false, DsHid.exec_ite,
    DsHid.exec_requestComplete, DsHid.exec_pure, answer]
  exact apply_ite Prod.snd _ _ _

theorem callerBuffer_step (hr : s.Reaches a device) :
    (s.step (.ioctl a q.code request output)).callerBuffer s.arrivals q =
      (s.answer a q request output device).2.callerBuffer s.arrivals q := by
  have hs : (s.clearLog.react (.ioctl a q.code request output)).callerBuffer s.arrivals q =
      (s.answer a q request output device).2.callerBuffer s.arrivals q := by
    rw [react_query hr]
    split <;> cases q <;> rfl
  cases q <;> exact hs

theorem mem_log_step (hr : s.Reaches a device)
    (hl : (s.answer a q request output device).2.world.log = []) {o : Output} :
    o ∈ (s.step (.ioctl a q.code request output)).world.log ↔
      (s.answer a q request output device).1 ≠ statusPending ∧
        o = .complete s.arrivals (s.answer a q request output device).1
          ((s.answer a q request output device).2.requests s.arrivals).information
          ((s.answer a q request output device).2.world.outputBuffers s.arrivals) := by
  change o ∈ (s.clearLog.react (.ioctl a q.code request output)).world.log ↔ _
  rw [react_query hr]
  split
  · next hp => simp [System.emit, World.emit, hl, hp]
  · next hp => simp [hl, hp]

theorem returnsData_reached (hr : s.Reaches a device)
    (hl : (s.answer a q request output device).2.world.log = []) :
    s.ReturnsData a q request output ↔
      ((s.answer a q request output device).1 ≠ statusPending →
        (ntSuccess (s.answer a q request output device).1 = true →
          Delivered (s.requestedItem a q request) (s.written a q.code request output)
              ((s.answer a q request output device).2.callerBuffer s.arrivals q)
              (q.capacity request output) ∧
            ((s.answer a q request output device).2.requests s.arrivals).information =
              (s.written a q.code request output).dedup.length) ∧
        (ntSuccess (s.answer a q request output device).1 = false →
          s.written a q.code request output = [])) := by
  simp only [ReturnsData, callerBuffer_step hr, mem_log_step hr hl]
  constructor
  · intro h hp
    exact h _ _ _ ⟨hp, rfl⟩
  · rintro h status information data ⟨hp, he⟩
    cases he
    exact h hp

theorem returnsData_unreached (h : ¬ ∃ device, s.Reaches a device) :
    s.ReturnsData a q request output := by
  have hs : ntSuccess ((s.entered a request output).describe a).1 = false := describe_unreached h
  have hl : (s.step (.ioctl a q.code request output)).world.log =
      [.complete s.arrivals ((s.entered a request output).describe a).1
        ((s.entered a request output).requests s.arrivals).information
        ((s.entered a request output).world.outputBuffers s.arrivals)] := by
    change (DsHid.exec (DsHid.wireChildEvtWdfIoQueueIoInternalDeviceControl a s.arrivals q.code)
      (s.entered a request output)).2.world.log = _
    simp [DsHid.wireChildEvtWdfIoQueueIoInternalDeviceControl, hs]
    rfl
  intro status information data ho
  rw [hl, List.mem_singleton] at ho
  cases ho
  refine ⟨fun hn => ?_, fun _ => written_of_unreached h⟩
  exact absurd hn (by rw [hs]; exact Bool.false_ne_true)

-- six or four bytes are stored, behind a header of five: were only as many reported, they would not
-- fit
theorem not_delivered_feature {reportId : BYTE} {item : Option Item} {contents : Buffer}
    {reportBufferLen : Nat} (hl : reportBufferLen = (DsHid.featureOffsets reportId).dedup.length) :
    ¬ Delivered item (DsHid.featureOffsets reportId) contents reportBufferLen := by
  intro hd
  by_cases ha : reportId = 0xC0 ∨ reportId = 0xC2
  · rw [featureOffsets_address ha] at hl hd
    have hn : reportBufferLen = 6 := hl
    have hlast := hd.inside 10 (by decide)
    omega
  by_cases ht : reportId = 0xC3 ∨ reportId = 0xC4
  · rw [featureOffsets_type ht] at hl hd
    have hn : reportBufferLen = 4 := hl
    have hlast := hd.inside 8 (by decide)
    omega
  · exact hd.some (featureOffsets_other ha ht)

section

variable (hr : s.Reaches a device)
include hr

theorem returnsData_of_refuses
    (h : DsHid.Refuses (DsHid.dispatchIoControlCode s.world.context a device s.arrivals q.code)
      (s.entered a request output).nextFramework) : s.ReturnsData a q request output := by
  refine (returnsData_reached hr h.log).mpr fun _ => ⟨fun hn => ?_, fun _ => ?_⟩
  · exact absurd hn (by rw [answer, h.status]; exact Bool.false_ne_true)
  · rw [written_of_reaches hr]
    exact h.written

theorem not_returnsData_of_neglects
    (h : DsHid.Neglects (DsHid.dispatchIoControlCode s.world.context a device s.arrivals q.code)
      (s.entered a request output).nextFramework) :
    ¬ s.ReturnsData a q request output := by
  intro hd
  have hw : s.written a q.code request output = [] := by
    rw [written_of_reaches hr]
    exact h.written
  exact (((returnsData_reached hr h.log).mp hd h.answered).1 h.status).1.some hw

theorem returnsData_of_copies {data : List BYTE} (hq : q ≠ .getFeature) (hd : data ≠ [])
    (hi : s.requestedItem a q request = some ⟨0, data⟩)
    (h : DsHid.Copies s.arrivals data
      (DsHid.dispatchIoControlCode s.world.context a device s.arrivals q.code)
      (s.entered a request output).nextFramework) : s.ReturnsData a q request output := by
  have hw : s.written a q.code request output = List.range data.length := by
    rw [written_of_reaches hr]
    exact h.written
  have ho : (s.entered a request output).nextFramework.world.outputBuffers s.arrivals = output :=
    Function.update_self ..
  have hc : q.capacity request output = output.length := by
    cases q <;> first | rfl | exact absurd rfl hq
  have hb : (s.answer a q request output device).2.callerBuffer s.arrivals q =
      Buffer.ofList (overlay output 0 data) := by
    have hq' : (s.answer a q request output device).2.callerBuffer s.arrivals q =
        Buffer.ofList ((s.answer a q request output device).2.world.outputBuffers s.arrivals) := by
      cases q <;> first | rfl | exact absurd rfl hq
    rw [hq', answer, h.output, ho]
  have hf : data.length ≤ output.length := ho ▸ h.fits
  refine (returnsData_reached hr h.log).mpr fun _ => ⟨fun _ => ⟨⟨?_, ?_, ?_⟩, ?_⟩, fun hn => ?_⟩
  · rw [hw]
    simpa using hd
  · intro offset hm
    rw [hw, List.mem_range] at hm
    rw [hc]
    omega
  · rw [hi, hw, hb]
    rintro i ⟨⟩ k hk
    refine ⟨List.mem_range.mpr (by simpa using hk), ?_⟩
    have hk' : k < data.length := hk
    simp [Buffer.ofList, overlay, List.getElem?_append_left hk']
  · rw [hw, List.Nodup.dedup List.nodup_range, List.length_range]
    exact h.information
  · exact absurd hn (by rw [answer, h.status]; simp)

theorem not_returnsData_feature (hs : s.world.environment.Synchronous) (hf : s.Fills request) :
    ¬ s.ReturnsData a .getFeature request output := by
  have hl := @lookup_entered s a request output device hr
  have hp : sizeofHidXferPacket ≤ (((s.entered a request output).nextFramework).requests
      s.arrivals).parameters.outputBufferLength := by
    rw [requests_entered]
    exact hf.1
  have he : s.answer a .getFeature request output device = _ := DsHid.exec_feature hp
  have hstatus : (s.answer a .getFeature request output device).1 =
      if DsHid.Described request.packet.reportId then s.world.environment.frameworkStatus 1
      else statusSuccess := by
    rw [he, requests_entered]
    exact DsHid.status_getFeature hl
  have hlog : (s.answer a .getFeature request output device).2.world.log = [] := by
    rw [he]
    exact DsHid.log_getFeature
  have hinformation : ((s.answer a .getFeature request output device).2.requests
      s.arrivals).information = request.packet.reportBufferLen := by
    rw [he, requests_entered]
    simp [updateRequest]
  have hn : ntSuccess (s.answer a .getFeature request output device).1 = true := by
    rw [hstatus]
    split
    · next hd => exact hf.2 hd
    · decide
  have hpending : (s.answer a .getFeature request output device).1 ≠ statusPending := by
    rw [hstatus]
    split
    · exact hs 1
    · decide
  have hw : s.written a HidQuery.getFeature.code request output =
      DsHid.featureOffsets request.packet.reportId := by
    rw [HidQuery.code, written_getFeature hr, if_pos hf]
  intro hd
  obtain ⟨hd, hi⟩ := ((returnsData_reached hr hlog).mp hd hpending).1 hn
  rw [hinformation] at hi
  rw [hw] at hi hd
  exact not_delivered_feature hi hd

theorem item_of_reaches : s.requestedItem a q request =
    q.item s.world.context a device request := by
  rw [requestedItem, hr.1, Option.bind_some]

theorem returnsData_string : s.ReturnsData a .getString request output := by
  have hl := @lookup_entered s a request output device hr
  obtain h | ⟨data, hd, h⟩ := DsHid.dispatch_string hl s.world.context s.arrivals
  · exact returnsData_of_refuses hr h
  · rw [requests_entered] at hd
    refine returnsData_of_copies hr (by decide) (DsHid.namedString_ne_nil hd) ?_ h
    rw [item_of_reaches hr, HidQuery.item, hd, Option.map_some]

theorem returnsData_indexedString : s.ReturnsData a .getIndexedString request output ↔
    device.deviceType = .ps3Dualshock ∨
      ntSuccess (s.world.environment.frameworkStatus 1) = false := by
  have hl := @lookup_entered s a request output device hr
  by_cases ht : device.deviceType = .ps3Dualshock
  · refine ⟨fun _ => .inl ht, fun _ => ?_⟩
    obtain h | ⟨hi, h⟩ :=
      DsHid.dispatch_indexedString hl s.world.context s.arrivals ht
    · exact returnsData_of_refuses hr h
    · rw [requests_entered] at hi
      refine returnsData_of_copies hr (by decide) (DsHid.wideString_ne_nil _) ?_ h
      rw [item_of_reaches hr, HidQuery.item, indexedString, if_pos ⟨ht, hi⟩, Option.map_some]
      rfl
  · constructor
    · intro hd
      refine .inr (Bool.eq_false_iff.mpr fun hs => ?_)
      exact not_returnsData_of_neglects hr
        (DsHid.dispatch_indexedString_neglects hl ht hs) hd
    · intro h
      exact returnsData_of_refuses hr (DsHid.described_refuses hl
        (fun d => DsHid.dsHidGetIndexedString s.arrivals d.deviceType) (h.resolve_left ht))

theorem returnsData_descriptor (hs : s.world.environment.Synchronous)
    (hq : q = .getDeviceDescriptor ∨ q = .getReportDescriptor) :
    s.ReturnsData a q request output ↔
      device.configuration.hidDeviceMode.reportDescriptor.isSome = true ∨
        ntSuccess (s.world.environment.frameworkStatus 1) = false := by
  have hc : q.code = .hidGetDeviceDescriptor ∨ q.code = .hidGetReportDescriptor :=
    hq.imp (congrArg HidQuery.code) (congrArg HidQuery.code)
  cases hm : device.configuration.hidDeviceMode.reportDescriptor with
  | none =>
    constructor
    · intro hd
      refine .inr (Bool.eq_false_iff.mpr fun h => ?_)
      exact not_returnsData_of_neglects hr (DsHid.descriptor_neglects hm hc h (hs 1)) hd
    · intro h
      exact returnsData_of_refuses hr (DsHid.descriptor_refuses hc
        (h.resolve_left Bool.false_ne_true))
  | some descriptor =>
    refine ⟨fun _ => .inl rfl, fun _ => ?_⟩
    rcases hq with rfl | rfl
    · have hr' := DsHid.runsAs_deviceDescriptor s.world.context a s.arrivals
        (s.entered a request output).nextFramework hm
      obtain h | h := DsHid.descriptor_outcome s.arrivals
        (s.entered a request output).nextFramework (DsHid.hidDescriptorFor descriptor).bytes
      · exact returnsData_of_refuses hr (hr'.refuses h)
      · refine returnsData_of_copies hr (by decide) (by simp [DsHid.HidDescriptor.bytes]) ?_
          (hr'.copies h)
        rw [item_of_reaches hr, HidQuery.item, hm, Option.map_some]
    · have hr' := DsHid.runsAs_reportDescriptor s.world.context a s.arrivals
        (s.entered a request output).nextFramework hm
      obtain h | h := DsHid.descriptor_outcome s.arrivals
        (s.entered a request output).nextFramework descriptor
      · exact returnsData_of_refuses hr (hr'.refuses h)
      · refine returnsData_of_copies hr (by decide) (DsHid.reportDescriptor_ne_nil hm) ?_
          (hr'.copies h)
        rw [item_of_reaches hr, HidQuery.item, hm, Option.map_some]

theorem returnsData_feature (hs : s.world.environment.Synchronous) :
    s.ReturnsData a .getFeature request output ↔ ¬ s.Fills request := by
  have hl := @lookup_entered s a request output device hr
  refine ⟨fun hd hf => not_returnsData_feature hr hs hf hd, fun hf => ?_⟩
  refine returnsData_of_refuses hr (DsHid.feature_refuses hl ?_)
  rw [requests_entered]
  by_cases hp : request.parameters.outputBufferLength < sizeofHidXferPacket
  · exact .inl hp
  · have hd : ¬ (DsHid.Described request.packet.reportId →
        ntSuccess (s.world.environment.frameworkStatus 1) = true) :=
      fun hd => hf ⟨Nat.le_of_not_lt hp, hd⟩
    rw [Classical.not_imp] at hd
    exact .inr ⟨hd.1, Bool.eq_false_iff.mpr hd.2⟩

theorem not_returnsData_attributes : ¬ s.ReturnsData a .getDeviceAttributes request output :=
  not_returnsData_of_neglects hr
    ⟨(by decide : ntSuccess statusSuccess = true), (by decide : statusSuccess ≠ statusPending),
      rfl, rfl⟩

theorem supplied_reached : s.Supplied a request q ↔ s.Supplies request device q := by
  refine ⟨fun h => h device hr, fun h device' hr' => ?_⟩
  obtain rfl : device = device' := Option.some.inj (hr.1.symm.trans hr'.1)
  exact h

end

theorem returnsData_iff (hs : s.world.environment.Synchronous) :
    s.ReturnsData a q request output ↔ s.Supplied a request q := by
  by_cases hr : ∃ device, s.Reaches a device
  · obtain ⟨device, hr⟩ := hr
    rw [supplied_reached hr]
    cases q with
    | getFeature => exact returnsData_feature hr hs
    | getString => exact iff_of_true (returnsData_string hr) trivial
    | getIndexedString => exact returnsData_indexedString hr
    | getDeviceDescriptor => exact returnsData_descriptor hr hs (.inl rfl)
    | getReportDescriptor => exact returnsData_descriptor hr hs (.inr rfl)
    | getDeviceAttributes => exact iff_of_false (not_returnsData_attributes hr) id
  · exact iff_of_true (returnsData_unreached hr) fun device h => absurd ⟨device, h⟩ hr

theorem returnsData_product_string :
    (childInMode .single).ReturnsData someAddress .getString
      ⟨⟨46, 0, 0x0409000F⟩, ⟨0, 0⟩, fun _ => 0, 0⟩ (List.replicate 46 0) :=
  (returnsData_iff fun _ => (by decide : statusSuccess ≠ statusPending)).mpr fun _ _ => trivial

theorem unknown_feature_promised :
    ¬ (childInMode .single).ReturnsData someAddress .getFeature (featureRequest 0xC5 8) [] := by
  intro h
  have hd := (h statusSuccess 8 [] (by decide +kernel)).1 (by decide)
  exact hd.1.some (by decide +kernel)

end

end System
end WireShock
