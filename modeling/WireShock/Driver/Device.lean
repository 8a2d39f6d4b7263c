import WireShock.Driver.Hci

namespace WireShock

def startTargets : Driver NTSTATUS := do
  let status ← ioTargetStart .interruptPipe
  if !ntSuccess status then
    return status
  let status ← ioTargetStart .bulkReadPipe
  if !ntSuccess status then
    return status
  ioTargetStart .bulkWritePipe

def wireShockEvtDeviceD0Entry : Driver NTSTATUS := do
  let status ← startTargets
  let _ ← hciCommandReset
  return status

def wireShockEvtDeviceD0Exit : Driver NTSTATUS := do
  childListScan
  let _ ← hciCommandReset
  ioTargetStop .interruptPipe
  ioTargetStop .bulkReadPipe
  ioTargetStop .bulkWritePipe
  return statusSuccess

end WireShock
