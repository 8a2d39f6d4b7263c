import WireShock.Driver.WireBus
import WireShock.Interaction.Program
import WireShock.Text.Hexadecimal

namespace WireShock.Pdo
open Interaction

abbrev WideText := List Char

-- the members that the callback sets; the others keep what the framework's macros give them
structure PnpCapabilities where
  removable : Bool
  ejectSupported : Bool
  surpriseRemovalOK : Bool
deriving DecidableEq

inductive DevicePowerState where
  | d0 | d1 | d2 | d3
deriving DecidableEq

inductive SystemPowerState where
  | working | sleeping1 | sleeping2 | sleeping3 | hibernate | shutdown
deriving DecidableEq

structure PowerCapabilities where
  deviceD1 : Bool
  wakeFromD1 : Bool
  deviceWake : DevicePowerState
  deviceState : List (SystemPowerState × DevicePowerState)
deriving DecidableEq

inductive Call where
  | initSetDeviceType (deviceType : BitVec 32)
  | initAllowForwardingRequestToParent
  | initAssignDeviceID (deviceId : WideText)
  | initAddHardwareID (hardwareId : WideText)
  | initAssignInstanceID (instanceId : WideText)
  | initAddDeviceText (description location : WideText) (localeId : BitVec 32)
  | initSetDefaultLocale (localeId : BitVec 32)
  | deviceCreate
  | deviceSetPnpCapabilities (capabilities : PnpCapabilities)
  | deviceSetPowerCapabilities (capabilities : PowerCapabilities)
  | ioQueueCreateDefault

def Call.Reply : Call → Type
  | .initSetDeviceType _ => Unit
  | .initAllowForwardingRequestToParent => Unit
  | .initAssignDeviceID _ => NTSTATUS
  | .initAddHardwareID _ => NTSTATUS
  | .initAssignInstanceID _ => NTSTATUS
  | .initAddDeviceText _ _ _ => NTSTATUS
  | .initSetDefaultLocale _ => Unit
  | .deviceCreate => NTSTATUS
  | .deviceSetPnpCapabilities _ => Unit
  | .deviceSetPowerCapabilities _ => Unit
  | .ioQueueCreateDefault => NTSTATUS

def setup : Signature := ⟨Call, Call.Reply⟩

abbrev Driver (α : Type) := Program (setup.sum framework) α

def call (c : Call) : Driver c.Reply := (Program.perform (S := setup) c).inl

def initSetDeviceType (deviceType : BitVec 32) : Driver Unit := call (.initSetDeviceType deviceType)
def initAllowForwardingRequestToParent : Driver Unit := call .initAllowForwardingRequestToParent
def initAssignDeviceID (deviceId : WideText) : Driver NTSTATUS := call (.initAssignDeviceID deviceId)
def initAddHardwareID (hardwareId : WideText) : Driver NTSTATUS :=
  call (.initAddHardwareID hardwareId)
def initAssignInstanceID (instanceId : WideText) : Driver NTSTATUS :=
  call (.initAssignInstanceID instanceId)
def initAddDeviceText (description location : WideText) (localeId : BitVec 32) : Driver NTSTATUS :=
  call (.initAddDeviceText description location localeId)
def initSetDefaultLocale (localeId : BitVec 32) : Driver Unit := call (.initSetDefaultLocale localeId)
def deviceCreate : Driver NTSTATUS := call .deviceCreate
def deviceSetPnpCapabilities (capabilities : PnpCapabilities) : Driver Unit :=
  call (.deviceSetPnpCapabilities capabilities)
def deviceSetPowerCapabilities (capabilities : PowerCapabilities) : Driver Unit :=
  call (.deviceSetPowerCapabilities capabilities)
def ioQueueCreateDefault : Driver NTSTATUS := call .ioQueueCreateDefault

def attempt (p : Driver NTSTATUS) (rest : Driver NTSTATUS) : Driver NTSTATUS := do
  let status ← p
  if !ntSuccess status then
    return status
  rest

def fileDeviceBusExtender : BitVec 32 := 0x2A
def maxDeviceIdLen : Nat := 200
def deviceLocation : WideText := "WireShock Bus Device".toList
def hardwareIds : WideText := "Nefarius\\WireShockHidDevice\x00\x00".toList
def deviceDescription : WideText := "WireShock HID Device".toList

def statusBufferOverflow : NTSTATUS := 0x80000005

def rtlInitUnicodeString (text : WideText) : WideText := text.takeWhile (· ≠ '\x00')

def rtlUnicodeStringPrintf (capacity : Nat) (text : WideText) : Except NTSTATUS WideText :=
  if text.length ≤ capacity then .ok text else .error statusBufferOverflow

-- "%02X:%02X:%02X:%02X:%02X:%02X"
def addressText (a : BdAddr) : WideText :=
  Text.joined ':' ([5, 4, 3, 2, 1, 0].map fun i => a.address.getD i 0)

def pnpCaps : PnpCapabilities := ⟨true, true, true⟩

def powerCaps : PowerCapabilities where
  deviceD1 := true
  wakeFromD1 := true
  deviceWake := .d1
  deviceState := [(.working, .d1), (.sleeping1, .d1), (.sleeping2, .d2), (.sleeping3, .d2),
    (.hibernate, .d3), (.shutdown, .d3)]

-- from WdfDeviceCreate on; the rest of the callback is about the child's record
def createChild (clientAddress : BdAddr) : Driver NTSTATUS :=
  attempt deviceCreate do
    deviceSetPnpCapabilities pnpCaps
    deviceSetPowerCapabilities powerCaps
    attempt ioQueueCreateDefault (WireShock.wireShockEvtWdfChildListCreateDevice clientAddress).inr

def describeChild (rest : Driver NTSTATUS) : Driver NTSTATUS :=
  match rtlUnicodeStringPrintf maxDeviceIdLen deviceDescription with
  | .error status => return status
  | .ok buffer =>
    attempt (initAddDeviceText buffer deviceLocation 0x409) do
      initSetDefaultLocale 0x409
      rest

def identifyChild (clientAddress : BdAddr) (rest : Driver NTSTATUS) : Driver NTSTATUS :=
  match rtlUnicodeStringPrintf maxDeviceIdLen (addressText clientAddress) with
  | .error status => return status
  | .ok buffer => attempt (initAssignInstanceID buffer) rest

def wireShockEvtWdfChildListCreateDevice (clientAddress : BdAddr) : Driver NTSTATUS := do
  initSetDeviceType fileDeviceBusExtender
  initAllowForwardingRequestToParent
  let deviceId := rtlInitUnicodeString hardwareIds
  attempt (initAssignDeviceID deviceId) <|
    attempt (initAddHardwareID deviceId) <|
      identifyChild clientAddress <| describeChild <| createChild clientAddress

end WireShock.Pdo
