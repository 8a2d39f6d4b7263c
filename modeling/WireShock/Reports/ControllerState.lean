import WireShock.Driver.HidDescriptor
import WireShock.Hid.Report

namespace WireShock

open Hid (Field Usage Value)

def genericDesktop (id : Nat) : Usage := ⟨0x01, id⟩
def simulation (id : Nat) : Usage := ⟨0x02, id⟩
def button (number : Nat) : Usage := ⟨0x09, number⟩
def vendor (page id : Nat) : Usage := ⟨page, id⟩

section Layouts

def axisField (reportId : Nat) (usage : Usage) (index : Nat) : Field :=
  ⟨.input, reportId, some usage, 8 * index, 8, 0, 255, false⟩

def hatField : Field := ⟨.input, 1, some (genericDesktop 0x39), 32, 4, 0, 7, true⟩

def buttonField (number : Nat) : Field :=
  ⟨.input, 1, some (button number), 35 + number, 1, 0, 1, false⟩

def gamepadAxes : List Field :=
  [axisField 1 (genericDesktop 0x30) 0, axisField 1 (genericDesktop 0x31) 1,
   axisField 1 (genericDesktop 0x32) 2, axisField 1 (genericDesktop 0x35) 3]

def gamepadTriggers : List Field :=
  [axisField 1 (genericDesktop 0x33) 7, axisField 1 (genericDesktop 0x34) 8]

def gamepadButtons : List Field := (List.range' 1 14).map buttonField

def gamepadFields : List Field :=
  gamepadAxes ++ [hatField] ++ gamepadButtons ++
    [⟨.input, 1, some (vendor 0xFF00 0x20), 50, 6, 0, 127, false⟩] ++ gamepadTriggers

def vendorFields (first : Nat) : List Field :=
  (List.range 29).map fun i => axisField 1 (vendor 0xFF01 0x01) (first + i)

def featureFields : List Field :=
  [(0xC0, 8), (0xC1, 8), (0xC2, 8), (0xC3, 3), (0xC4, 3), (0xC5, 7), (0xC6, 7)].flatMap
    fun (reportId, count) => (List.range count).map fun i =>
      ⟨.feature, reportId, some (vendor 0xFF01 0x01), 8 * i, 8, 0, 255, false⟩

def joystickAxes : List Field :=
  [axisField 2 (genericDesktop 0x30) 0, axisField 2 (genericDesktop 0x31) 1,
   axisField 2 (genericDesktop 0x32) 2, axisField 2 (genericDesktop 0x33) 3,
   axisField 2 (genericDesktop 0x34) 4, axisField 2 (genericDesktop 0x35) 5,
   axisField 2 (genericDesktop 0x36) 6, axisField 2 (genericDesktop 0x37) 7,
   axisField 2 (simulation 0xBB) 8, axisField 2 (simulation 0xC5) 9]

def pressureSliders : List Field :=
  (List.range' 9 10).map (axisField 1 (genericDesktop 0x36))

def splitLayout : List Field :=
  gamepadFields ++ vendorFields 9 ++ featureFields ++ joystickAxes

def singleLayout : List Field :=
  gamepadFields ++ pressureSliders ++ vendorFields 19 ++ featureFields

theorem layout_split : Hid.layout ds3HidReportDescriptorSplitMode = some splitLayout := by
  decide +kernel

theorem layout_single : Hid.layout ds3HidReportDescriptorSingleMode = some singleLayout := by
  decide +kernel

def DsHidDeviceMode.reportDescriptor : DsHidDeviceMode → Option (List BYTE)
  | .single => some ds3HidReportDescriptorSingleMode
  | .multi => some ds3HidReportDescriptorSplitMode
  | .other _ => none

def DsHidDeviceMode.declaredBytes (mode : DsHidDeviceMode) (kind : Hid.FieldKind)
    (reportId : BYTE) : Option Nat :=
  (mode.reportDescriptor.bind Hid.layout).map (Hid.reportBytes · kind reportId.toNat)

theorem declaredBytes_single (kind : Hid.FieldKind) (reportId : BYTE) :
    DsHidDeviceMode.single.declaredBytes kind reportId =
      some (Hid.reportBytes singleLayout kind reportId.toNat) := by
  simp [DsHidDeviceMode.declaredBytes, DsHidDeviceMode.reportDescriptor, layout_single]

theorem declaredBytes_multi (kind : Hid.FieldKind) (reportId : BYTE) :
    DsHidDeviceMode.multi.declaredBytes kind reportId =
      some (Hid.reportBytes splitLayout kind reportId.toNat) := by
  simp [DsHidDeviceMode.declaredBytes, DsHidDeviceMode.reportDescriptor, layout_split]

end Layouts

-- the values of X, Y, Z, Rz, Rx, Ry in axes, of the buttons 1 to 14 in buttons and of the D-pad,
-- the shoulders and the face buttons in pressures
structure ControllerState where
  axes : List Value
  hat : Value
  buttons : List Value
  pressures : List Value
deriving DecidableEq, Repr

section Host

def gamepadState (fields : List Field) (report : List BYTE) (pressures : List Value) :
    Option ControllerState := do
  let axes ← ([0x30, 0x31, 0x32, 0x35, 0x33, 0x34].map genericDesktop).mapM
    (Hid.valueOf fields report)
  let hat ← Hid.valueOf fields report (genericDesktop 0x39)
  let buttons ← ((List.range' 1 14).map button).mapM (Hid.valueOf fields report)
  return ⟨axes, hat, buttons, pressures⟩

def singleModeState (report : List BYTE) : Option ControllerState := do
  let fields ← Hid.layout ds3HidReportDescriptorSingleMode
  gamepadState fields report (Hid.values fields report (genericDesktop 0x36))

def splitPressureUsages : List Usage :=
  [0x30, 0x31, 0x32, 0x33].map genericDesktop ++ [0xBB, 0xC5].map simulation ++
    [0x34, 0x35, 0x36, 0x37].map genericDesktop

def splitModeState (report01 report02 : List BYTE) : Option ControllerState := do
  let fields ← Hid.layout ds3HidReportDescriptorSplitMode
  let pressures ← splitPressureUsages.mapM (Hid.valueOf fields report02)
  gamepadState fields report01 pressures

end Host

section Controller

def compassPosition : (up right down left : Bool) → Option Nat
  | true, false, false, false => some 0
  | true, true, false, false => some 1
  | false, true, false, false => some 2
  | false, true, true, false => some 3
  | false, false, true, false => some 4
  | false, false, true, true => some 5
  | false, false, false, true => some 6
  | true, false, false, true => some 7
  | _, _, _, _ => none

def hatValue : Option Nat → Value
  | some position => ⟨position, false⟩
  | none => ⟨8, true⟩

def byteValue (byte : BYTE) : Value := ⟨byte.toNat, false⟩

def bitValue (bit : Bool) : Value := ⟨bit.toNat, false⟩

def ControllerState.ofRaw (raw : Buffer) : ControllerState where
  axes := [6, 7, 8, 9, 18, 19].map fun i => byteValue (raw i)
  hat := hatValue (compassPosition ((raw 2).getLsbD 4) ((raw 2).getLsbD 5) ((raw 2).getLsbD 6)
    ((raw 2).getLsbD 7))
  buttons := [4, 5, 6, 7].map (fun i => bitValue ((raw 3).getLsbD i)) ++
    [0, 1, 2, 3].map (fun i => bitValue ((raw 2).getLsbD i)) ++
    [0, 1, 2, 3].map (fun i => bitValue ((raw 3).getLsbD i)) ++
    [0, 1].map (fun i => bitValue ((raw 4).getLsbD i))
  pressures := [14, 15, 16, 17, 20, 21, 22, 23, 24, 25].map fun i => byteValue (raw i)

def ControllerState.muted (state : ControllerState) : ControllerState :=
  { state with
    hat := hatValue none
    buttons := List.replicate 12 (bitValue false) ++ state.buttons.drop 12 }

def controllerState (raw : Buffer) (muteDigitalPressureButtons : Bool) : ControllerState :=
  if muteDigitalPressureButtons then (ControllerState.ofRaw raw).muted
  else ControllerState.ofRaw raw

end Controller

end WireShock
