import Mathlib.Data.List.Basic

namespace WireShock

abbrev BYTE := BitVec 8
abbrev USHORT := BitVec 16
abbrev NTSTATUS := BitVec 32
abbrev Pointer := Nat
abbrev Handle := Nat
abbrev Buffer := Nat → BYTE

def statusSuccess : NTSTATUS := 0x00000000
def statusObjectNameExists : NTSTATUS := 0x40000000
def statusNoMoreEntries : NTSTATUS := 0x8000001A
def statusUnsuccessful : NTSTATUS := 0xC0000001
def statusNoSuchDevice : NTSTATUS := 0xC000000E
def statusBufferTooSmall : NTSTATUS := 0xC0000023

def ntSuccess (status : NTSTATUS) : Bool := !status.msb

namespace Buffer

def shift (buffer : Buffer) (offset : Nat) : Buffer := fun i => buffer (offset + i)

def bytes (buffer : Buffer) (offset size : Nat) : List BYTE :=
  (List.range size).map fun i => buffer (offset + i)

@[simp] theorem length_bytes (buffer : Buffer) (offset size : Nat) :
    (buffer.bytes offset size).length = size := by simp [bytes]

theorem bytes_add (buffer : Buffer) (offset k m : Nat) :
    buffer.bytes offset (k + m) = buffer.bytes offset k ++ buffer.bytes (offset + k) m := by
  simp [bytes, List.range_add, Function.comp_def, Nat.add_assoc]

def ofList (data : List BYTE) : Buffer := fun i => data.getD i 0

end Buffer

structure BdAddr where
  address : List BYTE
  size : address.length = 6
deriving DecidableEq

def BdAddr.fromBuffer (buffer : Buffer) (offset : Nat) : BdAddr :=
  ⟨buffer.bytes offset 6, buffer.length_bytes offset 6⟩

structure BthHandle where
  lsb : BYTE
  msb : BYTE
deriving DecidableEq, Repr

abbrev L2capCid := BthHandle

def BthHandle.fromBuffer (buffer : Buffer) (offset : Nat) : BthHandle :=
  ⟨buffer offset, buffer (offset + 1)⟩

def BthHandle.toUshort (handle : BthHandle) : USHORT := handle.msb ++ handle.lsb

structure BthHandlePair where
  source : BthHandle
  destination : BthHandle
deriving DecidableEq, Repr

inductive DsDeviceType where
  | unknown | ps3Dualshock | ps4Dualshock | ps3Navigation | ps3Motion
deriving DecidableEq, Repr

inductive DsHidDeviceMode where
  | single | multi | other (value : BitVec 32)
deriving DecidableEq, Repr

structure DsDriverConfiguration where
  hidDeviceMode : DsHidDeviceMode
  muteDigitalPressureButtons : Bool
deriving DecidableEq, Repr

structure BthDevice where
  hciConnectionHandle : BthHandle
  l2capCommandHandle : BthHandlePair
  l2capInterruptHandle : BthHandlePair
  isHidCommandEstablished : Bool
  isHidCommandConfigured : Bool
  isHidInterruptEstablished : Bool
  isHidInterruptConfigured : Bool
  remoteName : Option Pointer
  deviceType : DsDeviceType
  hidInputReportQueue : Option Handle
  outputReportTimer : Option Handle
  outputReportBuffer : Option Pointer
  configuration : DsDriverConfiguration
deriving DecidableEq, Repr

inductive Assignment where
  | hciConnectionHandle (value : BthHandle)
  | l2capCommandHandleSource (value : BthHandle)
  | l2capCommandHandleDestination (value : BthHandle)
  | l2capInterruptHandleSource (value : BthHandle)
  | l2capInterruptHandleDestination (value : BthHandle)
  | isHidCommandEstablished (value : Bool)
  | isHidCommandConfigured (value : Bool)
  | isHidInterruptEstablished (value : Bool)
  | isHidInterruptConfigured (value : Bool)
  | remoteName (value : Option Pointer)
  | deviceType (value : DsDeviceType)
  | hidInputReportQueue (value : Option Handle)
  | outputReportTimer (value : Option Handle)
  | outputReportBuffer (value : Option Pointer)
deriving DecidableEq, Repr

def Assignment.apply (device : BthDevice) : Assignment → BthDevice
  | .hciConnectionHandle v => { device with hciConnectionHandle := v }
  | .l2capCommandHandleSource v =>
      { device with l2capCommandHandle := { device.l2capCommandHandle with source := v } }
  | .l2capCommandHandleDestination v =>
      { device with l2capCommandHandle := { device.l2capCommandHandle with destination := v } }
  | .l2capInterruptHandleSource v =>
      { device with l2capInterruptHandle := { device.l2capInterruptHandle with source := v } }
  | .l2capInterruptHandleDestination v =>
      { device with l2capInterruptHandle := { device.l2capInterruptHandle with destination := v } }
  | .isHidCommandEstablished v => { device with isHidCommandEstablished := v }
  | .isHidCommandConfigured v => { device with isHidCommandConfigured := v }
  | .isHidInterruptEstablished v => { device with isHidInterruptEstablished := v }
  | .isHidInterruptConfigured v => { device with isHidInterruptConfigured := v }
  | .remoteName v => { device with remoteName := v }
  | .deviceType v => { device with deviceType := v }
  | .hidInputReportQueue v => { device with hidInputReportQueue := v }
  | .outputReportTimer v => { device with outputReportTimer := v }
  | .outputReportBuffer v => { device with outputReportBuffer := v }

structure DeviceContext where
  disableSSP : Bool
  started : Bool
  bluetoothHostAddress : BdAddr
  initialized : Bool
  hciVersionMajor : BYTE
  lmpVersionMajor : BYTE
deriving DecidableEq

end WireShock
