import WireShock.Driver.HidReport
import WireShock.Driver.L2cap

namespace WireShock

def wireBusGetPdoAddressDescription (address : BdAddr) : Driver (Option BthDevice) := do
  match ← childListRetrieveAddressDescription address with
  | .error _ => return none
  | .ok device => return some device

def retrieveNextDevice (handle : BthHandle) :
    List (BdAddr × Bool) → Driver (Option (BdAddr × BthDevice))
  | [] => return none
  | (address, created) :: rest => do
    if !created then
      return none
    match ← wireBusGetPdoAddressDescription address with
    | none => return none
    | some device =>
      if device.hciConnectionHandle = handle then
        return some (address, device)
      else
        retrieveNextDevice handle rest

def wireBusGetPdoAddressDescriptionByHandle (handle : BthHandle) :
    Driver (Option (BdAddr × BthDevice)) := do
  let list ← childListIterate
  retrieveNextDevice handle list

def wireBusSetPdoAddressDescription (address : BdAddr) (device : BthDevice) : Driver Bool := do
  let status ← childListAddOrUpdateAsPresent address device
  let status := if status = statusObjectNameExists then statusSuccess else status
  return ntSuccess status

def wireBusSetChildHandle (address : BdAddr) (handle : BthHandle) : Driver Unit := do
  match ← wireBusGetPdoAddressDescription address with
  | none => return
  | some device =>
    let device ← device.assign (.hciConnectionHandle handle)
    let _ ← wireBusSetPdoAddressDescription address device

def wireBusSetChildDeviceType (address : BdAddr) (deviceType : DsDeviceType) : Driver Unit := do
  match ← wireBusGetPdoAddressDescription address with
  | none => return
  | some device =>
    let device ← device.assign (.deviceType deviceType)
    let _ ← wireBusSetPdoAddressDescription address device

def freeIfPresent : Option Pointer → Driver Unit
  | none => return
  | some pointer => exFreePoolWithTag pointer

def wireBusSetChildRemoteName (address : BdAddr) (buffer : List BYTE) : Driver Unit := do
  match ← wireBusGetPdoAddressDescription address with
  | none => return
  | some device =>
    freeIfPresent device.remoteName
    let name ← exAllocatePoolWithTag buffer.length
    let device ← device.assign (.remoteName (some name))
    rtlCopyMemory name buffer
    let _ ← wireBusSetPdoAddressDescription address device

def initOutputReport (device : BthDevice) : Driver BthDevice := do
  freeIfPresent device.outputReportBuffer
  match device.deviceType with
  | .ps3Dualshock =>
    let report ← exAllocatePoolWithTag ds3HidOutputReportSize
    let device ← device.assign (.outputReportBuffer (some report))
    rtlCopyMemory report ds3HidOutputReport
    return device
  -- the freed pointer stays in the record that is written back
  | _ => return device

def wireBusInitChildOutputReport (address : BdAddr) : Driver Unit := do
  match ← wireBusGetPdoAddressDescription address with
  | none => return
  | some device =>
    let device ← initOutputReport device
    let _ ← wireBusSetPdoAddressDescription address device

def wireShockEvtWdfChildListCreateDevice (address : BdAddr) : Driver NTSTATUS := do
  match ← pdoRetrieveAddressDescription address with
  | .error status => return status
  | .ok device =>
    match ← ioQueueCreate with
    | .error status => return status
    | .ok queue =>
      let device ← device.assign (.hidInputReportQueue (some queue))
      match ← timerCreate with
      | .error status => return status
      | .ok timer =>
        let device ← device.assign (.outputReportTimer (some timer))
        pdoUpdateAddressDescription address device

def wireShockEvtWdfChildListAddressDescriptionCleanup (device : BthDevice) : Driver Unit := do
  freeIfPresent device.remoteName
  freeIfPresent device.outputReportBuffer

def wireChildOutputReportEvtTimerFunc (address : BdAddr) : Driver Unit := do
  match ← pdoRetrieveAddressDescription address with
  | .error _ => return
  | .ok device =>
    let scid := l2capDeviceGetScidForType device .hidCommand
    match device.deviceType with
    | .ps3Dualshock =>
      let report ← readPool device.outputReportBuffer ds3HidOutputReportSize
      let _ ← hidCommand device.hciConnectionHandle scid report
    | _ => return

end WireShock
