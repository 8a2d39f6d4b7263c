import WireShock.Reception.Events

namespace WireShock
open Interaction

section Reads

variable {n : Nat} {b b' : Buffer} (h : Same n b b')

include h

theorem shift_congr (offset i : Nat) (hi : offset + i < n) : b'.shift offset i = b.shift offset i :=
  h.at hi

theorem ds3ConnectionRequest_congr (device : BthDevice) (hn : 16 ≤ n) :
    ds3ConnectionRequest device b' = ds3ConnectionRequest device b := by
  have hread : SignallingConnectionRequest.read (b'.shift 8) =
      SignallingConnectionRequest.read (b.shift 8) := by
    simp only [SignallingConnectionRequest.read, ushortAt, BthHandle.fromBuffer,
      shift_congr h 8 1 (by omega),
      shift_congr h 8 4 (by omega),
      shift_congr h 8 (4 + 1) (by omega),
      shift_congr h 8 6 (by omega),
      shift_congr h 8 (6 + 1) (by omega)]
  simp only [ds3ConnectionRequest, hread]

theorem ds3ConfigurationRequest_congr (device : BthDevice) (hn : 14 ≤ n) :
    ds3ConfigurationRequest device b' = ds3ConfigurationRequest device b := by
  have hread : SignallingConfigurationRequest.read (b'.shift 8) =
      SignallingConfigurationRequest.read (b.shift 8) := by
    simp only [SignallingConfigurationRequest.read, BthHandle.fromBuffer,
      shift_congr h 8 1 (by omega),
      shift_congr h 8 4 (by omega),
      shift_congr h 8 (4 + 1) (by omega)]
  simp only [ds3ConfigurationRequest, hread]

theorem ds3ConfigurationResponse_congr (device : BthDevice) (hn : 14 ≤ n) :
    ds3ConfigurationResponse device b' = ds3ConfigurationResponse device b := by
  have hscid : (SignallingConfigurationResponse.read (b'.shift 8)).scid =
      (SignallingConfigurationResponse.read (b.shift 8)).scid := by
    simp only [SignallingConfigurationResponse.read, BthHandle.fromBuffer,
      shift_congr h 8 4 (by omega),
      shift_congr h 8 (4 + 1) (by omega)]
  simp only [ds3ConfigurationResponse, hscid]

theorem ds3DisconnectionRequest_congr (device : BthDevice) (hn : 16 ≤ n) :
    ds3DisconnectionRequest device b' = ds3DisconnectionRequest device b := by
  have hread : SignallingDisconnectionRequest.read (b'.shift 8) =
      SignallingDisconnectionRequest.read (b.shift 8) := by
    simp only [SignallingDisconnectionRequest.read, BthHandle.fromBuffer,
      shift_congr h 8 1 (by omega),
      shift_congr h 8 4 (by omega),
      shift_congr h 8 (4 + 1) (by omega),
      shift_congr h 8 6 (by omega),
      shift_congr h 8 (6 + 1) (by omega)]
  simp only [ds3DisconnectionRequest, hread]

theorem dispatchSignalling_congr (device : BthDevice) (h₈ : 9 ≤ n) (hn : signallingLength b ≤ n) :
    dispatchSignalling device b' = dispatchSignalling device b := by
  rw [dispatchSignalling, dispatchSignalling, h.at (i := 8) h₈]
  unfold signallingLength at hn
  cases hc : L2capSignallingCommandCode.ofCode (b 8) with
  | none => rfl
  | some code =>
    rw [hc] at hn
    cases code with
    | connectionRequest => simp only [ds3ConnectionRequest_congr h device hn]
    | configurationRequest => simp only [ds3ConfigurationRequest_congr h device hn]
    | configurationResponse => simp only [ds3ConfigurationResponse_congr h device hn]
    | disconnectionRequest => simp only [ds3DisconnectionRequest_congr h device hn]
    | _ => rfl

theorem translate_congr (hn : 35 ≤ n) (configuration : DsDriverConfiguration) :
    translateHidInputReport configuration (b'.shift 9) =
        translateHidInputReport configuration (b.shift 9) ∧
      ds3RawToSplitHidInputReport02 (b'.shift 9) = ds3RawToSplitHidInputReport02 (b.shift 9) := by
  have hraw (i : Nat) (hi : i ≤ 25) : b'.shift 9 i = b.shift 9 i := shift_congr h 9 i (by omega)
  have hbody : ds3RawToHidInputReport (b'.shift 9) = ds3RawToHidInputReport (b.shift 9) := by
    funext output mute
    simp only [ds3RawToHidInputReport, hraw 2 (by omega), hraw 3 (by omega), hraw 4 (by omega),
      hraw 6 (by omega), hraw 7 (by omega), hraw 8 (by omega), hraw 9 (by omega),
      hraw 14 (by omega), hraw 15 (by omega), hraw 16 (by omega), hraw 17 (by omega),
      hraw 18 (by omega), hraw 19 (by omega), hraw 20 (by omega), hraw 21 (by omega),
      hraw 22 (by omega), hraw 23 (by omega), hraw 24 (by omega), hraw 25 (by omega)]
  constructor
  · funext output
    cases hmode : configuration.hidDeviceMode <;>
      simp only [translateHidInputReport, hmode, ds3RawToSplitHidInputReport01,
        ds3RawToSingleHidInputReport, hbody, hraw 0 (by omega)]
  · funext output
    simp only [ds3RawToSplitHidInputReport02, hraw 14 (by omega), hraw 15 (by omega),
      hraw 16 (by omega), hraw 17 (by omega), hraw 20 (by omega), hraw 21 (by omega),
      hraw 22 (by omega), hraw 23 (by omega), hraw 24 (by omega), hraw 25 (by omega)]

theorem ds3ProcessHidInputReport_congr (device : BthDevice)
    (hn : (if b 10 = 0xFF then 11 else 35) ≤ n) :
    ds3ProcessHidInputReport device b' = ds3ProcessHidInputReport device b := by
  have h₁₁ : 11 ≤ n := by split_ifs at hn <;> omega
  rw [ds3ProcessHidInputReport, ds3ProcessHidInputReport, h.at (i := 10) h₁₁]
  by_cases hb : b 10 = 0xFF
  · rw [if_pos hb, if_pos hb]
  · rw [if_neg hb, if_neg hb]
    rw [if_neg hb] at hn
    obtain ⟨h₁, h₂⟩ := translate_congr h hn device.configuration
    have hsecond : completeSecondReport device (b'.shift 9) =
        completeSecondReport device (b.shift 9) := by
      funext r
      cases r <;> simp only [completeSecondReport, h₂]
    simp only [h₁, hsecond]

theorem dispatchPacket_congr (device : BthDevice) (hn : packetLength b ≤ n) :
    dispatchPacket device b' = dispatchPacket device b := by
  have h₉ : 9 ≤ n := by
    unfold packetLength signallingLength inputReportLength at hn
    split at hn
    · split at hn <;> omega
    · split_ifs at hn <;> omega
  have hcontrol : l2capIsControlChannel b' = l2capIsControlChannel b := by
    rw [l2capIsControlChannel, l2capIsControlChannel, h.at (i := 6) (by omega),
      h.at (i := 7) (by omega)]
  rw [dispatchPacket, dispatchPacket, hcontrol]
  unfold packetLength at hn
  cases hc : l2capIsControlChannel b with
  | true =>
    rw [hc] at hn
    simp only [if_true, dispatchSignalling_congr h device h₉ hn]
  | false =>
    rw [hc] at hn
    simp only [Bool.false_eq_true, if_false, inputReportLength] at hn ⊢
    by_cases h₈ : b 8 = 0xA1
    · rw [if_neg (not_not.mpr h₈)] at hn
      by_cases h₁ : b 9 = 0x01
      · rw [if_neg (not_not.mpr h₁)] at hn
        have h₁₁ : 11 ≤ n := by split_ifs at hn <;> omega
        have hreport : l2capIsHidInputReport b' = l2capIsHidInputReport b := by
          rw [l2capIsHidInputReport, l2capIsHidInputReport, h.at (i := 8) (by omega),
            h.at (i := 9) (by omega)]
        simp only [hreport, ds3ProcessHidInputReport_congr h device hn]
      · rw [if_pos h₁] at hn
        have hnot (v : Buffer) (hv : v 9 = b 9) : l2capIsHidInputReport v = false := by
          rw [l2capIsHidInputReport, hv, decide_eq_false h₁, Bool.and_false]
        simp only [hnot b rfl, hnot b' (h.at hn), Bool.false_eq_true, if_false]
    · rw [if_pos h₈] at hn
      have hnot (v : Buffer) (hv : v 8 = b 8) : l2capIsHidInputReport v = false := by
        rw [l2capIsHidInputReport, hv, decide_eq_false h₈, Bool.false_and]
      simp only [hnot b rfl, hnot b' (h.at hn), Bool.false_eq_true, if_false]

theorem packet_step_congr (hpos : 1 ≤ n) (hn : packetLength b ≤ n) (w : World) :
    w.step (.acl b' n) = w.step (.acl b n) := by
  have h₂ : 2 ≤ n := by
    unfold packetLength signallingLength inputReportLength at hn
    split at hn
    · split at hn <;> omega
    · split_ifs at hn <;> omega
  rw [step_acl, step_acl, BthHandle.fromBuffer, BthHandle.fromBuffer, h.at (i := 0) hpos,
    h.at (i := 0 + 1) h₂]
  simp only [dispatchPacket_congr h _ hn]

end Reads

end WireShock
