import WireShock.Channels.Link
import WireShock.Reports.ControllerState
import WireShock.Requests.BufferWrites
import WireShock.Requests.Service

namespace WireShock
open Interaction

namespace DsHid

variable {r : Request} {s : System} {a : BdAddr}

theorem writes_reverseBetween_of_le {lo hi : Nat} (h : ¬ lo < hi) :
    writes (reverseBetween r lo hi) s = [] := by
  rw [reverseBetween, if_neg h]
  rfl

theorem writes_reverseBetween {lo hi : Nat} (h : lo < hi) : ∃ t : System,
    writes (reverseBetween r lo hi) s = [lo, hi] ++ writes (reverseBetween r (lo + 1) (hi - 1)) t := by
  rw [reverseBetween, if_pos h]
  simp only [writes_bind, writes_readReportBuffer, writes_writeReportBuffer, List.nil_append,
    List.length_singleton, List.range'_one, List.singleton_append]
  exact ⟨_, rfl⟩

-- the six bytes of an address are stored behind the header and then swapped, the outer pair first
theorem writes_writeAddress (address : BdAddr) :
    writes (writeAddress r address) s = [5, 6, 7, 8, 9, 10, 5, 10, 6, 9, 7, 8] := by
  have hr (t : System) : writes (reverseByteArray r 5 6) t = [5, 10, 6, 9, 7, 8] := by
    obtain ⟨t₁, h₁⟩ := writes_reverseBetween (r := r) (s := t) (show 5 < 10 by decide)
    obtain ⟨t₂, h₂⟩ := writes_reverseBetween (r := r) (s := t₁) (show 6 < 9 by decide)
    obtain ⟨t₃, h₃⟩ := writes_reverseBetween (r := r) (s := t₂) (show 7 < 8 by decide)
    have h₄ := writes_reverseBetween_of_le (r := r) (s := t₃) (show ¬ 8 < 7 by decide)
    rw [reverseByteArray, h₁, h₂, h₃, h₄]
    rfl
  rw [writeAddress, writes_bind, writes_writeReportBuffer, address.size]
  exact congrArg ([5, 6, 7, 8, 9, 10] ++ ·) (hr _)

-- the offsets of the packed DS_FEATURE structures that the handler stores to
def featureOffsets (reportId : BYTE) : List Nat :=
  if reportId = 0xC0 ∨ reportId = 0xC2 then [5, 6, 7, 8, 9, 10, 5, 10, 6, 9, 7, 8]
  else if reportId = 0xC3 ∨ reportId = 0xC4 then [5, 6, 7, 8]
  else []

-- the reports the handler asks the framework about before it stores anything
def Described (reportId : BYTE) : Prop := reportId = 0xC2 ∨ reportId = 0xC3

instance (reportId : BYTE) : Decidable (Described reportId) :=
  inferInstanceAs (Decidable (_ ∨ _))

theorem writes_getFeature (context : DeviceContext) (packet : HidXferPacket) {device : BthDevice}
    (h : s.world.children.lookup a = some device) :
    writes (getFeature context a r packet) s =
      if Described packet.reportId ∧ ntSuccess s.status = false then []
      else featureOffsets packet.reportId := by
  have hd : (s.describe a).1 = s.status := by rw [System.describe_of_some h]
  have hl (code : BitVec 32) : (ulongBytes code).length = 4 := rfl
  have hn : sizeofDsFeatureHeader = 5 := rfl
  obtain ⟨id, len⟩ := packet
  by_cases h0 : id = 0xC0#8
  · simp [getFeature, writes_writeAddress, featureOffsets, Described, h0]
  by_cases h2 : id = 0xC2#8
  · cases hs : ntSuccess s.status <;>
      simp [getFeature, writes_writeAddress, featureOffsets, Described, h2, hs]
  by_cases h3 : id = 0xC3#8
  · cases hs : ntSuccess s.status <;>
      simp [getFeature, featureOffsets, Described, h3, hs, hd, hl, hn, List.range']
  by_cases h4 : id = 0xC4#8
  · simp [getFeature, featureOffsets, Described, h4, hl, hn, List.range']
  · simp [getFeature, featureOffsets, Described, h0, h2, h3, h4]

end DsHid

namespace System

variable {s : System} {a : BdAddr} {request : HidRequest} {output : List BYTE} {device : BthDevice}

-- the request brings a transfer packet and the framework answers what the report is filled with
def Fills (s : System) (request : HidRequest) : Prop :=
  sizeofHidXferPacket ≤ request.parameters.outputBufferLength ∧
    (DsHid.Described request.packet.reportId →
      ntSuccess (s.world.environment.frameworkStatus 1) = true)

instance (s : System) (request : HidRequest) : Decidable (s.Fills request) :=
  inferInstanceAs (Decidable (_ ∧ _))

theorem written_getFeature (h : s.Reaches a device) :
    s.written a .hidGetFeature request output =
      if s.Fills request then DsHid.featureOffsets request.packet.reportId else [] := by
  have hs : (s.entered a request output).nextFramework.status =
    s.world.environment.frameworkStatus 1 := rfl
  rw [written_of_reaches h, DsHid.dispatchIoControlCode]
  by_cases hp : request.parameters.outputBufferLength < sizeofHidXferPacket
  · have hf : ¬ s.Fills request := fun hf => Nat.not_le.mpr hp hf.1
    simp [DsHid.dsHidRequestGetHidXferPacketToReadFromDevice, DsHid.dsHidRequestGetHidXferPacket,
      requests_entered, hp, hf]
  · have hf : s.Fills request ↔ ¬ (DsHid.Described request.packet.reportId ∧
        ntSuccess (s.world.environment.frameworkStatus 1) = false) := by
      simp [Fills, Nat.le_of_not_lt hp]
    rw [if_congr hf rfl rfl, ite_not, ← hs]
    simp [DsHid.dsHidRequestGetHidXferPacketToReadFromDevice, DsHid.dsHidRequestGetHidXferPacket,
      requests_entered, hp, DsHid.writes_getFeature _ _ (lookup_entered h)]

-- the caller's report buffer holds the ID and as many bytes as the descriptor declares
def Announces (s : System) (a : BdAddr) (packet : HidXferPacket) : Prop :=
  ∃ device count, s.world.children.lookup a = some device ∧
    device.configuration.hidDeviceMode.declaredBytes .feature packet.reportId = some count ∧
    1 + count ≤ packet.reportBufferLen

def FeatureInBounds (s : System) (a : BdAddr) (request : HidRequest) (output : List BYTE) : Prop :=
  s.Announces a request.packet → ∀ offset ∈ s.written a .hidGetFeature request output,
    offset < request.packet.reportBufferLen

-- an address takes 11 bytes where the descriptor makes 9 of it, a device or connection type takes 9
-- where it makes 4 of it
def FeatureRoom (s : System) (a : BdAddr) (request : HidRequest) : Prop :=
  ∀ device, s.Reaches a device → s.Fills request →
    device.configuration.hidDeviceMode.reportDescriptor.isSome = true →
    (request.packet.reportId = 0xC0 ∨ request.packet.reportId = 0xC2 →
      9 ≤ request.packet.reportBufferLen → 11 ≤ request.packet.reportBufferLen) ∧
    (request.packet.reportId = 0xC3 ∨ request.packet.reportId = 0xC4 →
      4 ≤ request.packet.reportBufferLen → 9 ≤ request.packet.reportBufferLen)

theorem declaredBytes_address {mode : DsHidDeviceMode} {reportId : BYTE}
    (hm : mode.reportDescriptor.isSome = true) (hi : reportId = 0xC0 ∨ reportId = 0xC2) :
    mode.declaredBytes .feature reportId = some 8 := by
  cases mode with
  | single => rw [declaredBytes_single]; rcases hi with rfl | rfl <;> decide +kernel
  | multi => rw [declaredBytes_multi]; rcases hi with rfl | rfl <;> decide +kernel
  | other value => exact absurd hm Bool.false_ne_true

theorem declaredBytes_type {mode : DsHidDeviceMode} {reportId : BYTE}
    (hm : mode.reportDescriptor.isSome = true) (hi : reportId = 0xC3 ∨ reportId = 0xC4) :
    mode.declaredBytes .feature reportId = some 3 := by
  cases mode with
  | single => rw [declaredBytes_single]; rcases hi with rfl | rfl <;> decide +kernel
  | multi => rw [declaredBytes_multi]; rcases hi with rfl | rfl <;> decide +kernel
  | other value => exact absurd hm Bool.false_ne_true

theorem isSome_of_declaredBytes {mode : DsHidDeviceMode} {reportId : BYTE} {count : Nat}
    (h : mode.declaredBytes .feature reportId = some count) :
    mode.reportDescriptor.isSome = true := by
  cases mode with
  | other value => cases h
  | _ => rfl

theorem featureOffsets_address {reportId : BYTE} (hi : reportId = 0xC0 ∨ reportId = 0xC2) :
    DsHid.featureOffsets reportId = [5, 6, 7, 8, 9, 10, 5, 10, 6, 9, 7, 8] := if_pos hi

theorem featureOffsets_type {reportId : BYTE} (hi : reportId = 0xC3 ∨ reportId = 0xC4) :
    DsHid.featureOffsets reportId = [5, 6, 7, 8] := by
  rcases hi with rfl | rfl <;> decide

theorem featureOffsets_other {reportId : BYTE} (ha : ¬ (reportId = 0xC0 ∨ reportId = 0xC2))
    (ht : ¬ (reportId = 0xC3 ∨ reportId = 0xC4)) : DsHid.featureOffsets reportId = [] := by
  rw [DsHid.featureOffsets, if_neg ha, if_neg ht]

theorem room_of_inBounds (h : s.FeatureInBounds a request output) : s.FeatureRoom a request := by
  intro device hr hf hm
  have hw : s.written a .hidGetFeature request output =
      DsHid.featureOffsets request.packet.reportId := by rw [written_getFeature hr, if_pos hf]
  constructor
  · intro hi hl
    have hn : s.Announces a request.packet := ⟨device, 8, hr.1, declaredBytes_address hm hi, hl⟩
    have hlast := h hn 10 (by rw [hw, featureOffsets_address hi]; decide)
    omega
  · intro hi hl
    have hn : s.Announces a request.packet := ⟨device, 3, hr.1, declaredBytes_type hm hi, hl⟩
    have hlast := h hn 8 (by rw [hw, featureOffsets_type hi]; decide)
    omega

theorem unreached_of_lookup (hd : s.world.children.lookup a = some device)
    (hr : ¬ s.Reaches a device) : ¬ ∃ device', s.Reaches a device' := by
  rintro ⟨device', hl, hs⟩
  exact hr ⟨hd, hs⟩

theorem inBounds_of_room (h : s.FeatureRoom a request) : s.FeatureInBounds a request output := by
  rintro ⟨device, count, hd, hc, hl⟩ offset ho
  by_cases hr : s.Reaches a device
  · rw [written_getFeature hr] at ho
    by_cases hf : s.Fills request
    · rw [if_pos hf] at ho
      have hm := isSome_of_declaredBytes hc
      have hroom := h device hr hf hm
      by_cases ha : request.packet.reportId = 0xC0 ∨ request.packet.reportId = 0xC2
      · have hn : count = 8 := Option.some.inj (hc.symm.trans (declaredBytes_address hm ha))
        have hle := hroom.1 ha (by omega)
        simp only [featureOffsets_address ha, List.mem_cons, List.not_mem_nil, or_false] at ho
        omega
      · by_cases ht : request.packet.reportId = 0xC3 ∨ request.packet.reportId = 0xC4
        · have hn : count = 3 := Option.some.inj (hc.symm.trans (declaredBytes_type hm ht))
          have hle := hroom.2 ht (by omega)
          simp only [featureOffsets_type ht, List.mem_cons, List.not_mem_nil, or_false] at ho
          omega
        · simp [featureOffsets_other ha ht] at ho
    · simp [hf] at ho
  · simp [written_of_unreached (unreached_of_lookup hd hr)] at ho

theorem feature_in_bounds_iff (s : System) (a : BdAddr) (request : HidRequest)
    (output : List BYTE) : s.FeatureInBounds a request output ↔ s.FeatureRoom a request :=
  ⟨room_of_inBounds, inBounds_of_room⟩

-- a child in multi mode, the host's address asked for with the nine bytes the descriptor announces
def childInMode (mode : DsHidDeviceMode) : System :=
  let device := { freshDevice with configuration := ⟨mode, false⟩ }
  { initial .succeeding fun _ => emptyRequest with world := .connected someAddress device }

def featureRequest (reportId : BYTE) (reportBufferLen : Nat) : HidRequest :=
  ⟨⟨16, 0, 0⟩, ⟨reportId, reportBufferLen⟩, fun _ => 0, 0⟩

theorem host_address_overruns :
    ¬ (childInMode .multi).FeatureInBounds someAddress (featureRequest 0xC0 9) [] := by
  intro h
  have hn : (childInMode .multi).Announces someAddress ⟨0xC0, 9⟩ :=
    ⟨_, 8, rfl, by decide +kernel, by decide⟩
  exact absurd (h hn 10 (by decide +kernel)) (by decide)

end System
end WireShock
