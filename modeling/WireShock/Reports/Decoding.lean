import WireShock.Reports.ControllerState

namespace WireShock

open Hid (Field Usage Value)

section Translation

variable (raw : Buffer) (muteDigitalPressureButtons : Bool)

def hatAndFaceByte : BYTE :=
  if muteDigitalPressureButtons then 8
  else hatPosition (raw 2 &&& ~~~0x0F) ||| (raw 3 &&& 0xF0)

def otherButtonsByte : BYTE :=
  if muteDigitalPressureButtons then 0
  else (raw 2 &&& (0x0F : BYTE)) ||| ((raw 3 &&& (0x0F : BYTE)) <<< 4)

def hidReportBody : List BYTE :=
  [raw 6, raw 7, raw 8, raw 9, hatAndFaceByte raw muteDigitalPressureButtons,
   otherButtonsByte raw muteDigitalPressureButtons, raw 4, raw 18, raw 19,
   raw 14, raw 15, raw 16, raw 17, raw 20, raw 21, raw 22, raw 23, raw 24, raw 25]

theorem clear_nibbles (old : BYTE) : old &&& 0xF0 &&& 0x0F = 0 := by
  rw [BitVec.and_assoc]
  exact BitVec.and_zero

-- the report ID and the 19 bytes after it are written whatever was there before
theorem ds3RawToHidInputReport_eq (reportId : BYTE) (rest : List BYTE)
    (h : ds3HidInputReportSize ≤ rest.length + 1) :
    ds3RawToHidInputReport raw (reportId :: rest) muteDigitalPressureButtons =
      reportId :: (hidReportBody raw muteDigitalPressureButtons ++ rest.drop 19) := by
  obtain _ | ⟨_, _ | ⟨_, _ | ⟨_, _ | ⟨_, _ | ⟨old5, _ | ⟨old6, _ | ⟨_, _ | ⟨_, _ | ⟨_, _ | ⟨_, _ |
    ⟨_, _ | ⟨_, _ | ⟨_, _ | ⟨_, _ | ⟨_, _ | ⟨_, _ | ⟨_, _ | ⟨_, _ | ⟨_, rest⟩⟩⟩⟩⟩⟩⟩⟩⟩⟩⟩⟩⟩⟩⟩⟩⟩⟩⟩ := rest
  all_goals simp [ds3HidInputReportSize] at h
  have h5 : old5 &&& 240#8 &&& 15#8 = 0#8 := clear_nibbles old5
  cases muteDigitalPressureButtons with
  | false =>
    simp [ds3RawToHidInputReport, hidReportBody, hatAndFaceByte, otherButtonsByte, h5]
  | true =>
    simp [ds3RawToHidInputReport, hidReportBody, hatAndFaceByte, otherButtonsByte, h5]

end Translation

section Bits

variable (raw : Buffer)

theorem hatPosition_lt (byte : BYTE) : (hatPosition byte).toNat < 16 := by
  unfold hatPosition
  repeat' split
  all_goals decide

theorem or_high_nibble_mod (low high : BYTE) (h : low.toNat < 16) :
    (low ||| (high &&& 0xF0)).toNat % 16 = low.toNat := by
  have hlow : low.toNat % 2 ^ 4 = low.toNat := Nat.mod_eq_of_lt h
  have hhigh : (high &&& 0xF0).toNat % 2 ^ 4 = 0 := by
    rw [BitVec.toNat_and, Nat.and_mod_two_pow]
    exact Nat.and_zero _
  rw [BitVec.toNat_or, show (16 : Nat) = 2 ^ 4 from rfl, Nat.or_mod_two_pow, hlow, hhigh,
    Nat.or_zero]

theorem or_high_nibble_bit (low high : BYTE) (h : low.toNat < 16) {i : Nat} (hi : 4 ≤ i)
    (hi' : i < 8) : (low ||| (high &&& 0xF0)).getLsbD i = high.getLsbD i := by
  have hlow : low.getLsbD i = false :=
    Nat.testBit_lt_two_pow (Nat.lt_of_lt_of_le h (Nat.pow_le_pow_right (n := 2) (by decide) hi))
  have hmask : ∀ i < 8, 4 ≤ i → (0xF0 : BYTE).getLsbD i = true := by decide
  rw [BitVec.getLsbD_or, BitVec.getLsbD_and, hlow, hmask i hi' hi, Bool.false_or, Bool.and_true]

theorem hatPosition_eq_compassPosition (byte : BYTE) :
    (hatPosition (byte &&& ~~~0x0F)).toNat =
      (compassPosition (byte.getLsbD 4) (byte.getLsbD 5) (byte.getLsbD 6)
        (byte.getLsbD 7)).getD 8 := by
  revert byte
  decide +kernel

theorem otherButtonsByte_bit_low {i : Nat} (hi : i < 4) :
    (otherButtonsByte raw false).getLsbD i = (raw 2).getLsbD i := by
  have hmask : ∀ i < 4, (15#8).getLsbD i = true := by decide
  simp [otherButtonsByte, BitVec.getLsbD_or, BitVec.getLsbD_and, BitVec.getLsbD_shiftLeft, hi,
    hmask i hi]

theorem otherButtonsByte_bit_high {i : Nat} (hi : i < 4) :
    (otherButtonsByte raw false).getLsbD (4 + i) = (raw 3).getLsbD i := by
  have hlow : ∀ i < 4, (0x0F : BYTE).getLsbD (4 + i) = false := by decide
  have hhigh : ∀ i < 4, (0x0F : BYTE).getLsbD i = true := by decide
  have hwidth : 4 + i < 8 := by omega
  rw [otherButtonsByte, if_neg Bool.false_ne_true, BitVec.getLsbD_or, BitVec.getLsbD_and,
    hlow i hi, BitVec.getLsbD_shiftLeft, Nat.add_sub_cancel_left, BitVec.getLsbD_and, hhigh i hi]
  simp [hwidth]

end Bits

section Reading

variable (body : List BYTE)

theorem axisField_read (reportId : Nat) (usage : Usage) (index : Nat) :
    (axisField reportId usage index).read body = byteValue (body.getD index 0) := by
  rw [Field.read_of_unsigned body (by simp [axisField]) rfl]
  exact congrArg (fun n : Nat => (⟨n, false⟩ : Value)) (Hid.readBits_byte body index)

theorem buttonField_read (number : Nat) :
    (buttonField number).read body = bitValue (Hid.bitAt body (35 + number)) := by
  rw [Field.read_of_unsigned body (by simp [buttonField]) rfl]
  rfl

theorem hatField_read :
    hatField.read body =
      ⟨((body.getD 4 0).toNat % 16 : Nat), 7 < (body.getD 4 0).toNat % 16⟩ := by
  have h : Hid.readBits body 32 4 = (body.getD 4 0).toNat % 16 :=
    Hid.readBits_within body 4 (show 0 + 4 ≤ 8 by omega)
  have hnumber : hatField.number body = ((body.getD 4 0).toNat % 16 : Nat) := by
    simp [Field.number, hatField, h]
  have hrange (n : Nat) : (!(decide ((0 : Int) ≤ n) && decide ((n : Int) ≤ 7))) =
      decide (7 < n) := by
    rw [decide_eq_true (Int.natCast_nonneg n), Bool.true_and, ← decide_not]
    exact decide_eq_decide.mpr (by omega)
  rw [Field.read, hnumber]
  exact congrArg (Value.mk _) (hrange _)

theorem gamepadAxes_read : (gamepadAxes ++ gamepadTriggers).map (·.read body) =
    [0, 1, 2, 3, 7, 8].map fun i => byteValue (body.getD i 0) := by
  simp [gamepadAxes, gamepadTriggers, axisField_read]

theorem gamepadButtons_read : gamepadButtons.map (·.read body) =
    (List.range' 36 14).map fun i => bitValue (Hid.bitAt body i) := by
  simp [gamepadButtons, buttonField_read, List.range']

theorem pressureSliders_read : pressureSliders.map (·.read body) =
    (List.range' 9 10).map fun i => byteValue (body.getD i 0) := by
  simp [pressureSliders, axisField_read, List.range']

end Reading

section Gamepad

variable {fields : List Field} (raw : Buffer) (muteDigitalPressureButtons : Bool)
variable (untouched : List BYTE) (pressures : List Value)

theorem compassPosition_getD (up right down left : Bool) :
    (⟨((compassPosition up right down left).getD 8 : Nat),
      7 < (compassPosition up right down left).getD 8⟩ : Value) =
      hatValue (compassPosition up right down left) := by
  cases up <;> cases right <;> cases down <;> cases left <;> rfl

theorem hat_of_body :
    hatField.read (hidReportBody raw muteDigitalPressureButtons ++ untouched) =
      (controllerState raw muteDigitalPressureButtons).hat := by
  rw [hatField_read]
  cases muteDigitalPressureButtons with
  | true => rfl
  | false =>
    have hlow := or_high_nibble_mod (hatPosition (raw 2 &&& ~~~0x0F)) (raw 3) (hatPosition_lt _)
    have hbyte : (hidReportBody raw false ++ untouched).getD 4 0 =
      hatPosition (raw 2 &&& ~~~0x0F) ||| (raw 3 &&& 0xF0) := rfl
    rw [hbyte, hlow, hatPosition_eq_compassPosition]
    exact compassPosition_getD _ _ _ _

theorem button_bits_of_body :
    ((List.range' 36 14).map fun i =>
      bitValue (Hid.bitAt (hidReportBody raw muteDigitalPressureButtons ++ untouched) i)) =
    [4, 5, 6, 7].map
        (fun i => bitValue ((hatAndFaceByte raw muteDigitalPressureButtons).getLsbD i)) ++
      [0, 1, 2, 3].map
        (fun i => bitValue ((otherButtonsByte raw muteDigitalPressureButtons).getLsbD i)) ++
      [0, 1, 2, 3].map
        (fun i => bitValue ((otherButtonsByte raw muteDigitalPressureButtons).getLsbD (4 + i))) ++
      [0, 1].map (fun i => bitValue ((raw 4).getLsbD i)) := rfl

theorem buttons_of_body :
    gamepadButtons.map (·.read (hidReportBody raw muteDigitalPressureButtons ++ untouched)) =
      (controllerState raw muteDigitalPressureButtons).buttons := by
  rw [gamepadButtons_read, button_bits_of_body]
  cases muteDigitalPressureButtons with
  | true =>
    have hface : hatAndFaceByte raw true = 8 := rfl
    have hother : otherButtonsByte raw true = 0 := rfl
    rw [hface, hother]
    rfl
  | false =>
    have hface : ∀ i ∈ [4, 5, 6, 7], bitValue ((hatAndFaceByte raw false).getLsbD i) =
        bitValue ((raw 3).getLsbD i) := by
      intro i hi
      have hi' : 4 ≤ i ∧ i < 8 := by simp at hi; omega
      exact congrArg bitValue (or_high_nibble_bit _ _ (hatPosition_lt _) hi'.1 hi'.2)
    have hlow : ∀ i ∈ [0, 1, 2, 3], bitValue ((otherButtonsByte raw false).getLsbD i) =
        bitValue ((raw 2).getLsbD i) := by
      intro i hi
      exact congrArg bitValue (otherButtonsByte_bit_low raw (by simp at hi; omega))
    have hhigh : ∀ i ∈ [0, 1, 2, 3], bitValue ((otherButtonsByte raw false).getLsbD (4 + i)) =
        bitValue ((raw 3).getLsbD i) := by
      intro i hi
      exact congrArg bitValue (otherButtonsByte_bit_high raw (by simp at hi; omega))
    rw [List.map_congr_left hface, List.map_congr_left hlow, List.map_congr_left hhigh]
    rfl

theorem gamepadState_of_body
    (haxes : ([0x30, 0x31, 0x32, 0x35, 0x33, 0x34].map genericDesktop).map (Hid.inputs fields 1) =
      (gamepadAxes ++ gamepadTriggers).map ([·]))
    (hhat : Hid.inputs fields 1 (genericDesktop 0x39) = [hatField])
    (hbuttons : ((List.range' 1 14).map button).map (Hid.inputs fields 1) =
      gamepadButtons.map ([·])) :
    gamepadState fields (1 :: (hidReportBody raw muteDigitalPressureButtons ++ untouched))
      pressures = some { controllerState raw muteDigitalPressureButtons with
        pressures := pressures } := by
  have h₁ := Hid.mapM_valueOf 1 (hidReportBody raw muteDigitalPressureButtons ++ untouched) haxes
  have h₂ := Hid.valueOf_cons 1 (hidReportBody raw muteDigitalPressureButtons ++ untouched) hhat
  have h₃ := Hid.mapM_valueOf 1 (hidReportBody raw muteDigitalPressureButtons ++ untouched) hbuttons
  rw [gamepadAxes_read] at h₁
  rw [hat_of_body] at h₂
  rw [buttons_of_body] at h₃
  rw [gamepadState, h₁, h₂, h₃]
  cases muteDigitalPressureButtons <;> rfl

theorem sliders_of_body :
    pressureSliders.map (·.read (hidReportBody raw muteDigitalPressureButtons ++ untouched)) =
      (controllerState raw muteDigitalPressureButtons).pressures := by
  rw [pressureSliders_read]
  cases muteDigitalPressureButtons <;> rfl

end Gamepad

section Modes

variable (raw : Buffer) (muteDigitalPressureButtons : Bool)

def splitPressures : List Field :=
  [axisField 2 (genericDesktop 0x30) 0, axisField 2 (genericDesktop 0x31) 1,
   axisField 2 (genericDesktop 0x32) 2, axisField 2 (genericDesktop 0x33) 3,
   axisField 2 (simulation 0xBB) 8, axisField 2 (simulation 0xC5) 9,
   axisField 2 (genericDesktop 0x34) 4, axisField 2 (genericDesktop 0x35) 5,
   axisField 2 (genericDesktop 0x36) 6, axisField 2 (genericDesktop 0x37) 7]

theorem singleModeState_translated (hraw : raw 0 = 1) {output : List BYTE}
    (h : ds3HidInputReportSize ≤ output.length) :
    singleModeState (ds3RawToSingleHidInputReport raw output muteDigitalPressureButtons) =
      some (controllerState raw muteDigitalPressureButtons) := by
  cases output with
  | nil => simp [ds3HidInputReportSize] at h
  | cons old rest =>
    have hbody := ds3RawToHidInputReport_eq raw muteDigitalPressureButtons (raw 0) rest h
    have hinputs : Hid.inputs singleLayout 1 (genericDesktop 0x36) = pressureSliders := by
      decide +kernel
    have hsliders := Hid.values_cons 1
      (hidReportBody raw muteDigitalPressureButtons ++ rest.drop 19) hinputs
    rw [sliders_of_body] at hsliders
    rw [ds3RawToSingleHidInputReport, List.set_cons_zero, hbody, hraw, singleModeState,
      layout_single, Option.bind_eq_bind, Option.bind_some, hsliders]
    exact gamepadState_of_body raw muteDigitalPressureButtons _ _ (by decide +kernel)
      (by decide +kernel) (by decide +kernel)

theorem ds3RawToSplitHidInputReport02_eq {output : List BYTE}
    (h : ds3HidInputReportSize ≤ output.length) :
    ∃ untouched, ds3RawToSplitHidInputReport02 raw output =
      2 :: ([14, 15, 16, 17, 22, 23, 24, 25, 20, 21].map raw ++ untouched) := by
  obtain _ | ⟨_, _ | ⟨_, _ | ⟨_, _ | ⟨_, _ | ⟨_, _ | ⟨_, _ | ⟨_, _ | ⟨_, _ | ⟨_, _ | ⟨_, _ |
    ⟨_, rest⟩⟩⟩⟩⟩⟩⟩⟩⟩⟩⟩ := output
  all_goals simp [ds3HidInputReportSize] at h
  exact ⟨rest, by simp [ds3RawToSplitHidInputReport02]⟩

theorem splitModeState_translated {output output' : List BYTE}
    (h : ds3HidInputReportSize ≤ output.length) (h' : ds3HidInputReportSize ≤ output'.length) :
    splitModeState (ds3RawToSplitHidInputReport01 raw output muteDigitalPressureButtons)
        (ds3RawToSplitHidInputReport02 raw output') =
      some (controllerState raw muteDigitalPressureButtons) := by
  cases output with
  | nil => simp [ds3HidInputReportSize] at h
  | cons old rest =>
    have hbody := ds3RawToHidInputReport_eq raw muteDigitalPressureButtons 0x01 rest h
    obtain ⟨untouched, hsecond⟩ := ds3RawToSplitHidInputReport02_eq raw h'
    have hinputs : splitPressureUsages.map (Hid.inputs splitLayout 2) =
        splitPressures.map ([·]) := by decide +kernel
    have hpressures := Hid.mapM_valueOf 2
      ([14, 15, 16, 17, 22, 23, 24, 25, 20, 21].map raw ++ untouched) hinputs
    have hread : splitPressures.map
        (·.read ([14, 15, 16, 17, 22, 23, 24, 25, 20, 21].map raw ++ untouched)) =
        (controllerState raw muteDigitalPressureButtons).pressures := by
      simp only [splitPressures, List.map_cons, List.map_nil, axisField_read]
      cases muteDigitalPressureButtons <;> rfl
    rw [hread] at hpressures
    rw [ds3RawToSplitHidInputReport01, List.set_cons_zero, hbody, hsecond, splitModeState,
      layout_split, Option.bind_eq_bind, Option.bind_some, hpressures, Option.bind_eq_bind,
      Option.bind_some]
    exact gamepadState_of_body raw muteDigitalPressureButtons _ _ (by decide +kernel)
      (by decide +kernel) (by decide +kernel)

theorem reports_carry_controllerState (hraw : raw 0 = 1) {output output₁ output₂ : List BYTE}
    (h : ds3HidInputReportSize ≤ output.length) (h₁ : ds3HidInputReportSize ≤ output₁.length)
    (h₂ : ds3HidInputReportSize ≤ output₂.length) :
    singleModeState (ds3RawToSingleHidInputReport raw output muteDigitalPressureButtons) =
        some (controllerState raw muteDigitalPressureButtons) ∧
      splitModeState (ds3RawToSplitHidInputReport01 raw output₁ muteDigitalPressureButtons)
          (ds3RawToSplitHidInputReport02 raw output₂) =
        some (controllerState raw muteDigitalPressureButtons) :=
  ⟨singleModeState_translated raw muteDigitalPressureButtons hraw h,
    splitModeState_translated raw muteDigitalPressureButtons h₁ h₂⟩

-- up and right held, cross and start pressed, everything else at rest
def pressedRaw : Buffer :=
  Buffer.ofList [0x01, 0x00, 0x38, 0x40, 0x00, 0x00, 0x80, 0x7F, 0x81, 0x80, 0, 0, 0, 0, 0xFF, 0xC0,
    0, 0, 0, 0, 0, 0, 0, 0, 0xE0, 0]

theorem reports_carry_pressed :
    singleModeState (ds3RawToSingleHidInputReport pressedRaw (List.replicate 39 0xAA) false) =
        some (controllerState pressedRaw false) ∧
      splitModeState (ds3RawToSplitHidInputReport01 pressedRaw (List.replicate 39 0xAA) false)
          (ds3RawToSplitHidInputReport02 pressedRaw (List.replicate 64 0x55)) =
        some (controllerState pressedRaw false) :=
  reports_carry_controllerState pressedRaw false rfl (by decide) (by decide) (by decide)

end Modes

end WireShock
