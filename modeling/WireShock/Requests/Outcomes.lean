import WireShock.Requests.FeatureBounds

namespace WireShock.DsHid

variable {r : Request} {s : System} {p : Driver NTSTATUS} {data : List BYTE}

structure Refuses (p : Driver NTSTATUS) (s : System) : Prop where
  status : ntSuccess (exec p s).1 = false
  written : writes p s = []
  log : (exec p s).2.world.log = s.world.log

structure Copies (r : Request) (data : List BYTE) (p : Driver NTSTATUS) (s : System) : Prop where
  status : ntSuccess (exec p s).1 = true
  written : writes p s = List.range data.length
  fits : data.length ≤ (s.world.outputBuffers r).length
  output : (exec p s).2.world.outputBuffers r = overlay (s.world.outputBuffers r) 0 data
  information : ((exec p s).2.requests r).information = data.length
  log : (exec p s).2.world.log = s.world.log

-- success that leaves the caller's buffer as it was
structure Neglects (p : Driver NTSTATUS) (s : System) : Prop where
  status : ntSuccess (exec p s).1 = true
  answered : (exec p s).1 ≠ statusPending
  written : writes p s = []
  log : (exec p s).2.world.log = s.world.log

@[simp] theorem log_copyToMemory (s : System) (r : Request) (data : List BYTE) :
    (s.copyToMemory r data).2.world.log = s.world.log := by
  unfold System.copyToMemory
  split
  · rfl
  · split <;> rfl

@[simp] theorem log_nextFramework (s : System) : s.nextFramework.world.log = s.world.log := rfl

@[simp] theorem log_updateRequest (s : System) (r : Request) (f : HidRequest → HidRequest) :
    (s.updateRequest r f).world.log = s.world.log := rfl

theorem copyToMemory_cases (s : System) (r : Request) (data : List BYTE) :
    ntSuccess (s.copyToMemory r data).1 = false ∨
      ntSuccess (s.copyToMemory r data).1 = true ∧
        data.length ≤ (s.world.outputBuffers r).length ∧
        (s.copyToMemory r data).2.world.outputBuffers r =
          overlay (s.world.outputBuffers r) 0 data := by
  unfold System.copyToMemory
  split
  · exact .inl (by decide : ntSuccess statusBufferTooSmall = false)
  · next hl =>
    split
    · next hs => exact .inr ⟨hs, Nat.le_of_not_lt hl, Function.update_self ..⟩
    · next hs => exact .inl (Bool.eq_false_iff.mpr hs)

theorem copy_outcome (data : List BYTE) : Refuses (dsHidRequestCopyFromBuffer r (some data)) s ∨
    Copies r data (dsHidRequestCopyFromBuffer r (some data)) s := by
  have ho : s.nextFramework.world.outputBuffers r = s.world.outputBuffers r := rfl
  have hb : ntSuccess statusInvalidBufferSize = false := by decide
  cases hs : ntSuccess s.status with
  | false => exact .inl (by constructor <;> simp [dsHidRequestCopyFromBuffer, hs])
  | true =>
    by_cases hl : (s.world.outputBuffers r).length < data.length
    · exact .inl (by constructor <;> simp [dsHidRequestCopyFromBuffer, hs, ho, hl, hb])
    · obtain hc | ⟨hc, hle, hw⟩ := copyToMemory_cases s.nextFramework r data
      · exact .inl (by constructor <;> simp [dsHidRequestCopyFromBuffer, hs, ho, hl, hc])
      · refine .inr ⟨?_, ?_, hle, ?_, ?_, ?_⟩ <;>
          simp [dsHidRequestCopyFromBuffer, System.updateRequest, hs, ho, hl, hc, hw]

theorem copy_none : Refuses (dsHidRequestCopyFromBuffer r none) s :=
  ⟨(by decide : ntSuccess statusInvalidParameter = false), rfl, rfl⟩

structure RunsAs (p : Driver NTSTATUS) (s : System) (q : Driver NTSTATUS) (t : System) : Prop where
  exec : exec p s = exec q t
  writes : writes p s = writes q t
  outputBuffers : s.world.outputBuffers = t.world.outputBuffers
  log : s.world.log = t.world.log

section

variable {q : Driver NTSTATUS} {t : System} (h : RunsAs p s q t)
include h

theorem RunsAs.log_eq (hq : (DsHid.exec q t).2.world.log = t.world.log) :
    (DsHid.exec p s).2.world.log = s.world.log := by
  rw [h.exec, h.log]
  exact hq

theorem RunsAs.refuses (hq : Refuses q t) : Refuses p s :=
  ⟨h.exec ▸ hq.status, h.writes.trans hq.written, h.log_eq hq.log⟩

theorem RunsAs.neglects (hq : Neglects q t) : Neglects p s :=
  ⟨h.exec ▸ hq.status, h.exec ▸ hq.answered, h.writes.trans hq.written, h.log_eq hq.log⟩

theorem RunsAs.copies (hq : Copies r data q t) : Copies r data p s where
  status := h.exec ▸ hq.status
  written := h.writes.trans hq.written
  fits := h.outputBuffers ▸ hq.fits
  output := by rw [h.exec, h.outputBuffers]; exact hq.output
  information := h.exec ▸ hq.information
  log := h.log_eq hq.log

end

def stringId (request : HidRequest) : BitVec 32 :=
  request.parameters.type3InputBuffer &&& 0x0ffff

@[simp] theorem exec_dsHidGetStringId : exec (dsHidGetStringId r) s =
    ((statusSuccess, stringId (s.requests r),
      (s.requests r).parameters.type3InputBuffer >>> 16), s) := rfl

@[simp] theorem writes_dsHidGetStringId : writes (dsHidGetStringId r) s = [] := rfl

-- what a string query asks for, where the driver knows of such a string
def namedString (dsType : DsDeviceType) (stringId : BitVec 32) : Option (List BYTE) :=
  if stringId = hidStringIdImanufacturer then some dsxManufacturerString
  else if stringId = hidStringIdIproduct then productString dsType
  else none

theorem wideString_ne_nil (text : String) : wideString text ≠ [] := by
  simp [wideString]

theorem namedString_ne_nil {dsType : DsDeviceType} {stringId : BitVec 32}
    (h : namedString dsType stringId = some data) : data ≠ [] := by
  unfold namedString at h
  split at h
  · cases h
    exact wideString_ne_nil _
  split at h
  · cases dsType <;> cases h <;> exact wideString_ne_nil _
  · cases h

theorem string_outcome (dsType : DsDeviceType) : Refuses (dsHidGetString r dsType) s ∨
    ∃ data, namedString dsType (stringId (s.requests r)) = some data ∧
      Copies r data (dsHidGetString r dsType) s := by
  have hs : ntSuccess statusSuccess = true := by decide
  have hne : hidStringIdIproduct ≠ hidStringIdImanufacturer := by decide
  by_cases hm : stringId (s.requests r) = hidStringIdImanufacturer
  · have hr : RunsAs (dsHidGetString r dsType) s
        (dsHidRequestCopyFromBuffer r (some dsxManufacturerString)) s := by
      constructor <;> simp [dsHidGetString, hs, hm]
    refine (copy_outcome dsxManufacturerString).imp hr.refuses fun hc => ⟨_, ?_, hr.copies hc⟩
    rw [namedString, if_pos hm]
  by_cases hp : stringId (s.requests r) = hidStringIdIproduct
  · have hr : RunsAs (dsHidGetString r dsType) s
        (dsHidRequestCopyFromBuffer r (productString dsType)) s := by
      constructor <;> simp [dsHidGetString, hs, hp, hne]
    rw [namedString, if_neg hm, if_pos hp]
    cases hd : productString dsType with
    | none => exact .inl (hr.refuses (hd ▸ copy_none))
    | some data =>
      rw [hd] at hr
      exact (copy_outcome data).imp hr.refuses fun hc => ⟨data, rfl, hr.copies hc⟩
  · have hi : ntSuccess statusInvalidParameter = false := by decide
    exact .inl (by constructor <;> simp [dsHidGetString, hs, hm, hp, hi])

theorem indexed_string_outcome :
    Refuses (dsHidGetIndexedString r .ps3Dualshock) s ∨
      stringId (s.requests r) = ds3DeviceStringIndex ∧
        Copies r ds3DeviceString (dsHidGetIndexedString r .ps3Dualshock) s := by
  have hs : ntSuccess statusSuccess = true := by decide
  by_cases hi : stringId (s.requests r) = ds3DeviceStringIndex
  · have hr : RunsAs (dsHidGetIndexedString r .ps3Dualshock) s
        (dsHidRequestCopyFromBuffer r (some ds3DeviceString)) s := by
      constructor <;> simp [dsHidGetIndexedString, hs, hi]
    exact (copy_outcome ds3DeviceString).imp hr.refuses fun hc => ⟨hi, hr.copies hc⟩
  · have hf : ntSuccess statusInvalidParameter = false := by decide
    exact .inl (by constructor <;> simp [dsHidGetIndexedString, hs, hi, hf])

theorem indexed_string_neglects {dsType : DsDeviceType} (ht : dsType ≠ .ps3Dualshock) :
    Neglects (dsHidGetIndexedString r dsType) s := by
  have hs : ntSuccess statusSuccess = true := by decide
  have hp : statusSuccess ≠ statusPending := by decide
  cases dsType with
  | ps3Dualshock => exact absurd rfl ht
  | _ => constructor <;> simp [dsHidGetIndexedString, hs, hp]

@[simp] theorem exec_reportBytesCopied (result : NTSTATUS × Nat) :
    exec (reportBytesCopied r result) s = (result.1, if ntSuccess result.1 then
      s.updateRequest r fun q => { q with information := result.2 } else s) := by
  cases hs : ntSuccess result.1 <;> simp [reportBytesCopied, hs]

@[simp] theorem writes_reportBytesCopied (result : NTSTATUS × Nat) :
    writes (reportBytesCopied r result) s = [] := by
  cases hs : ntSuccess result.1 <;> simp [reportBytesCopied, hs]

-- what a query for a descriptor comes to, once the device's mode has named it
def copyDescriptor (r : Request) (data : List BYTE) : Driver NTSTATUS := do
  let status ← requestRetrieveOutputMemory r
  if !ntSuccess status then
    return status
  let status ← memoryCopyFromBuffer r data
  reportBytesCopied r (status, data.length)

theorem descriptor_outcome (r : Request) (s : System) (data : List BYTE) :
    Refuses (copyDescriptor r data) s ∨ Copies r data (copyDescriptor r data) s := by
  cases hs : ntSuccess s.status with
  | false => exact .inl (by constructor <;> simp [copyDescriptor, hs])
  | true =>
    obtain hc | ⟨hc, hle, hw⟩ := copyToMemory_cases s.nextFramework r data
    · exact .inl (by constructor <;> simp [copyDescriptor, hs, hc])
    · refine .inr ⟨?_, ?_, hle, ?_, ?_, ?_⟩ <;>
        simp [copyDescriptor, System.updateRequest, hs, hc, hw]
      rfl

section

variable {context : DeviceContext} {a : BdAddr} {device : BthDevice} {descriptor : List BYTE}

theorem dsHidGetDeviceDescriptor_eq {mode : DsHidDeviceMode}
    (hm : mode.reportDescriptor = some descriptor) :
    dsHidGetDeviceDescriptor r mode = (do
      let status ← requestRetrieveOutputMemory r
      if !ntSuccess status then
        return (status, 0)
      copyDeviceDescriptor r (hidDescriptorFor descriptor)) := by
  cases mode <;> cases hm <;> rfl

theorem dsHidGetReportDescriptor_eq {mode : DsHidDeviceMode}
    (hm : mode.reportDescriptor = some descriptor) :
    dsHidGetReportDescriptor r mode = (do
      let status ← requestRetrieveOutputMemory r
      if !ntSuccess status then
        return (status, 0)
      copyReportDescriptor r (hidDescriptorFor descriptor) descriptor) := by
  cases mode <;> cases hm <;> rfl

theorem wReportLength_eq {mode : DsHidDeviceMode} (hm : mode.reportDescriptor = some descriptor) :
    (hidDescriptorFor descriptor).wReportLength.toNat = descriptor.length := by
  cases mode <;> cases hm <;> decide +kernel

theorem reportDescriptor_ne_nil {mode : DsHidDeviceMode}
    (hm : mode.reportDescriptor = some descriptor) : descriptor ≠ [] := by
  cases mode <;> cases hm <;> decide +kernel

theorem runsAs_deviceDescriptor (context : DeviceContext) (a : BdAddr) (r : Request) (s : System)
    (hm : device.configuration.hidDeviceMode.reportDescriptor = some descriptor) :
    RunsAs (dispatchIoControlCode context a device r .hidGetDeviceDescriptor) s
      (copyDescriptor r (hidDescriptorFor descriptor).bytes) s := by
  have hl : (hidDescriptorFor descriptor).bLength.toNat =
    (hidDescriptorFor descriptor).bytes.length := rfl
  rw [dispatchIoControlCode, dsHidGetDeviceDescriptor_eq hm]
  cases hs : ntSuccess s.status <;> constructor <;>
    simp [copyDeviceDescriptor, copyDescriptor, hs, hl]

theorem runsAs_reportDescriptor (context : DeviceContext) (a : BdAddr) (r : Request) (s : System)
    (hm : device.configuration.hidDeviceMode.reportDescriptor = some descriptor) :
    RunsAs (dispatchIoControlCode context a device r .hidGetReportDescriptor) s
      (copyDescriptor r descriptor) s := by
  rw [dispatchIoControlCode, dsHidGetReportDescriptor_eq hm]
  cases hs : ntSuccess s.status <;> constructor <;>
    simp [copyReportDescriptor, copyDescriptor, hs, wReportLength_eq hm,
      reportDescriptor_ne_nil hm]

theorem descriptor_neglects {code : IoControlCode}
    (hm : device.configuration.hidDeviceMode.reportDescriptor = none)
    (hc : code = .hidGetDeviceDescriptor ∨ code = .hidGetReportDescriptor)
    (hs : ntSuccess s.status = true) (hp : s.status ≠ statusPending) :
    Neglects (dispatchIoControlCode context a device r code) s := by
  cases hmode : device.configuration.hidDeviceMode with
  | other value =>
    rcases hc with rfl | rfl <;> constructor <;>
      simp [dispatchIoControlCode, dsHidGetDeviceDescriptor, dsHidGetReportDescriptor, hmode, hs, hp]
  | _ => simp [hmode, DsHidDeviceMode.reportDescriptor] at hm

theorem descriptor_refuses {code : IoControlCode}
    (hc : code = .hidGetDeviceDescriptor ∨ code = .hidGetReportDescriptor)
    (hs : ntSuccess s.status = false) :
    Refuses (dispatchIoControlCode context a device r code) s := by
  rcases hc with rfl | rfl <;> constructor <;>
    simp [dispatchIoControlCode, dsHidGetDeviceDescriptor, dsHidGetReportDescriptor, hs]

section

variable (hl : s.world.children.lookup a = some device)
include hl

-- both string queries look the child up a second time
theorem described_refuses (f : BthDevice → Driver NTSTATUS) (hs : ntSuccess s.status = false) :
    Refuses (do
      let (status, device) ← pdoRetrieveAddressDescription a
      if !ntSuccess status then
        return status
      f device) s := by
  constructor <;> simp [System.describe_of_some hl, hs]

theorem described_runsAs (f : BthDevice → Driver NTSTATUS) (hs : ntSuccess s.status = true) :
    RunsAs (do
      let (status, device) ← pdoRetrieveAddressDescription a
      if !ntSuccess status then
        return status
      f device) s (f device) s.nextFramework := by
  refine ⟨?_, ?_, rfl, rfl⟩ <;> simp [System.describe_of_some hl, hs]

theorem dispatch_string (context : DeviceContext) (r : Request) :
    Refuses (dispatchIoControlCode context a device r .hidGetString) s ∨
      ∃ data, namedString device.deviceType (stringId (s.requests r)) = some data ∧
        Copies r data (dispatchIoControlCode context a device r .hidGetString) s := by
  cases hs : ntSuccess s.status with
  | false => exact .inl (described_refuses hl (fun d => dsHidGetString r d.deviceType) hs)
  | true =>
    have hr := described_runsAs hl (fun d => dsHidGetString r d.deviceType) hs
    exact (string_outcome device.deviceType).imp hr.refuses fun ⟨data, hd, hc⟩ =>
      ⟨data, hd, hr.copies hc⟩

theorem dispatch_indexedString (context : DeviceContext) (r : Request)
    (ht : device.deviceType = .ps3Dualshock) :
    Refuses (dispatchIoControlCode context a device r .hidGetIndexedString) s ∨
      stringId (s.requests r) = ds3DeviceStringIndex ∧
        Copies r ds3DeviceString
          (dispatchIoControlCode context a device r .hidGetIndexedString) s := by
  cases hs : ntSuccess s.status with
  | false => exact .inl (described_refuses hl (fun d => dsHidGetIndexedString r d.deviceType) hs)
  | true =>
    have hr := described_runsAs hl (fun d => dsHidGetIndexedString r d.deviceType) hs
    rw [ht] at hr
    exact indexed_string_outcome.imp hr.refuses fun ⟨hi, hc⟩ => ⟨hi, hr.copies hc⟩

theorem dispatch_indexedString_neglects (ht : device.deviceType ≠ .ps3Dualshock)
    (hs : ntSuccess s.status = true) :
    Neglects (dispatchIoControlCode context a device r .hidGetIndexedString) s :=
  (described_runsAs hl (fun d => dsHidGetIndexedString r d.deviceType) hs).neglects
    (indexed_string_neglects ht)

end

section

variable {packet : HidXferPacket}

@[simp] theorem log_writeReportBuffer (offset : Nat) (bytes : List BYTE) :
    (exec (writeReportBuffer r offset bytes) s).2.world.log = s.world.log := rfl

theorem log_reverseBetween (lo hi : Nat) :
    (exec (reverseBetween r lo hi) s).2.world.log = s.world.log := by
  induction lo, hi using reverseBetween.induct generalizing s with
  | case1 lo hi h ih =>
    rw [reverseBetween, if_pos h]
    exact ih
  | case2 lo hi h =>
    rw [reverseBetween, if_neg h]
    rfl

@[simp] theorem log_writeAddress (address : BdAddr) :
    (exec (writeAddress r address) s).2.world.log = s.world.log :=
  log_reverseBetween _ _

theorem log_getFeature :
    (exec (getFeature context a r packet) s).2.world.log = s.world.log := by
  unfold getFeature
  split <;> rename_i h0
  · simp
  split <;> rename_i h2
  · cases hs : ntSuccess s.status <;> simp [hs]
  split <;> rename_i h3
  · cases hs : ntSuccess (s.describe a).1 <;> simp [hs]
  split <;> simp

theorem status_getFeature (hl : s.world.children.lookup a = some device) :
    (exec (getFeature context a r packet) s).1 =
      if Described packet.reportId then s.status else statusSuccess := by
  have hd : (s.describe a).1 = s.status := by rw [System.describe_of_some hl]
  obtain ⟨id, len⟩ := packet
  by_cases h0 : id = 0xC0#8
  · simp [getFeature, Described, h0]
  by_cases h2 : id = 0xC2#8
  · cases hs : ntSuccess s.status <;> simp [getFeature, Described, h2, hs]
  by_cases h3 : id = 0xC3#8
  · cases hs : ntSuccess s.status <;> simp [getFeature, Described, h3, hs, hd]
  by_cases h4 : id = 0xC4#8
  · simp [getFeature, Described, h4]
  · simp [getFeature, Described, h0, h2, h3, h4]

theorem exec_feature (hp : sizeofHidXferPacket ≤ (s.requests r).parameters.outputBufferLength) :
    exec (dispatchIoControlCode context a device r .hidGetFeature) s =
      ((exec (getFeature context a r (s.requests r).packet) s).1,
        (exec (getFeature context a r (s.requests r).packet) s).2.updateRequest r fun q =>
          { q with information := (s.requests r).packet.reportBufferLen }) := by
  simp [dispatchIoControlCode, dsHidRequestGetHidXferPacketToReadFromDevice,
    dsHidRequestGetHidXferPacket, Nat.not_lt.mpr hp]

theorem writes_feature (hp : sizeofHidXferPacket ≤ (s.requests r).parameters.outputBufferLength) :
    writes (dispatchIoControlCode context a device r .hidGetFeature) s =
      writes (getFeature context a r (s.requests r).packet) s := by
  simp [dispatchIoControlCode, dsHidRequestGetHidXferPacketToReadFromDevice,
    dsHidRequestGetHidXferPacket, Nat.not_lt.mpr hp]

theorem feature_refuses (hl : s.world.children.lookup a = some device)
    (h : (s.requests r).parameters.outputBufferLength < sizeofHidXferPacket ∨
      Described (s.requests r).packet.reportId ∧ ntSuccess s.status = false) :
    Refuses (dispatchIoControlCode context a device r .hidGetFeature) s := by
  by_cases hp : (s.requests r).parameters.outputBufferLength < sizeofHidXferPacket
  · have hb : ntSuccess statusBufferTooSmall = false := by decide
    constructor <;> simp [dispatchIoControlCode, dsHidRequestGetHidXferPacketToReadFromDevice,
      dsHidRequestGetHidXferPacket, hp, hb]
  · have hd := h.resolve_left hp
    refine ⟨?_, ?_, ?_⟩
    · rw [exec_feature (Nat.le_of_not_lt hp), status_getFeature hl, if_pos hd.1]
      exact hd.2
    · rw [writes_feature (Nat.le_of_not_lt hp), writes_getFeature _ _ hl, if_pos hd]
    · rw [exec_feature (Nat.le_of_not_lt hp)]
      exact log_getFeature

end

end

end WireShock.DsHid
