import WireShock.Driver.UsbFramework

namespace WireShock.Usb

def createUsbDevice : Driver NTSTATUS := do
  let context ← getContext
  if context.usbDevice.isSome then
    return statusSuccess
  match ← usbTargetDeviceCreateWithParameters with
  | .error status => return status
  | .ok usbDevice =>
    updateContext fun c => { c with usbDevice := usbDevice }
    return statusSuccess

def updateContextIf (condition : Bool) (update : DeviceHandles → DeviceHandles) : Driver Unit :=
  if condition then updateContext update else return

-- the second operand of &&, which asks the framework for a bulk pipe only
def bulkAnd (pipeType : PipeType) (isEndpoint : Driver Bool) : Driver Bool :=
  if pipeType = .bulk then isEndpoint else return false

def scanPipe (interface : Option Handle) (index : Nat) : Driver Unit := do
  let (pipe, pipeType) ← usbInterfaceGetConfiguredPipe interface index
  usbTargetPipeSetNoMaximumPacketSizeCheck pipe
  updateContextIf (pipeType = .interrupt) fun c => { c with interruptPipe := pipe }
  let isBulkIn ← bulkAnd pipeType (usbTargetPipeIsInEndpoint pipe)
  updateContextIf isBulkIn fun c => { c with bulkReadPipe := pipe }
  let isBulkOut ← bulkAnd pipeType (usbTargetPipeIsOutEndpoint pipe)
  updateContextIf isBulkOut fun c => { c with bulkWritePipe := pipe }

def scanPipes (interface : Option Handle) (numberConfiguredPipes : BYTE) (index : Nat) :
    Driver Unit :=
  if index < numberConfiguredPipes.toNat then do
    scanPipe interface index
    scanPipes interface numberConfiguredPipes (index + 1)
  else
    return
termination_by numberConfiguredPipes.toNat - index

def interruptInBufferLength : Nat := 512
def bulkInBufferLength : Nat := 512

def wireShockConfigContReaderForInterruptEndPoint : Driver NTSTATUS := do
  let context ← getContext
  usbTargetPipeConfigContinuousReader context.interruptPipe interruptInBufferLength

def wireShockConfigContReaderForBulkReadEndPoint : Driver NTSTATUS := do
  let context ← getContext
  usbTargetPipeConfigContinuousReader context.bulkReadPipe bulkInBufferLength

def startReaders : Driver NTSTATUS := do
  let context ← getContext
  if context.bulkWritePipe.isNone || context.bulkReadPipe.isNone ||
      context.interruptPipe.isNone then
    return statusInvalidDeviceState
  let status ← wireShockConfigContReaderForInterruptEndPoint
  if !ntSuccess status then
    return status
  wireShockConfigContReaderForBulkReadEndPoint

def wireShockEvtDevicePrepareHardware : Driver NTSTATUS := do
  let status ← createUsbDevice
  if !ntSuccess status then
    return status
  let context ← getContext
  let status ← usbTargetDeviceSelectConfig context.usbDevice
  if !ntSuccess status then
    return status
  let interface ← usbTargetDeviceGetInterface context.usbDevice 0
  updateContext fun c => { c with usbInterface := interface }
  if interface.isNone then
    return statusUnsuccessful
  let numberConfiguredPipes ← usbInterfaceGetNumConfiguredPipes interface
  scanPipes interface numberConfiguredPipes 0
  startReaders

def sendRequest (request : Request) (device : Option Handle) (status : NTSTATUS) :
    Driver NTSTATUS := do
  if ← requestSend request device then
    return status
  requestGetStatus request

def writeBulkPipe (buffer : List BYTE) : Driver NTSTATUS := do
  let context ← getContext
  match ← requestCreate context.usbDevice with
  | .error status => return status
  | .ok request =>
    match ← memoryCreate request buffer.length with
    | .error status => return status
    | .ok memory =>
      rtlCopyMemory memory buffer
      let status ← usbTargetPipeFormatRequestForWrite context.bulkWritePipe request memory
      if !ntSuccess status then
        return status
      requestSetCompletionRoutine request .evtUsbRequestCompletionRoutine
      sendRequest request context.usbDevice status

-- the arguments of SendControlRequest; a buffer that is none is NULL
structure ControlRequest where
  usbDevice : Option Handle
  direction : BmRequestDirection
  type : BmRequestType
  recipient : BmRequestRecipient
  request : BYTE
  value : USHORT
  index : USHORT
  buffer : Option (List BYTE)
  bufferLength : Nat
  completionRoutine : Option CompletionRoutine

def ControlRequest.data (arguments : ControlRequest) : List BYTE :=
  match arguments.buffer with
  | none => List.replicate arguments.bufferLength 0
  | some buffer => buffer.take arguments.bufferLength

def ControlRequest.setup (arguments : ControlRequest) : ControlSetupPacket :=
  ⟨arguments.direction, arguments.recipient, arguments.request, arguments.value, arguments.index⟩

def setRoutine (request : Request) : Option CompletionRoutine → Driver Unit
  | none => return
  | some routine => requestSetCompletionRoutine request routine

def sendControlRequest (arguments : ControlRequest) : Driver NTSTATUS := do
  match ← requestCreate arguments.usbDevice with
  | .error status => return status
  | .ok request =>
    match ← memoryCreate request arguments.bufferLength with
    | .error status => return status
    | .ok memory =>
      rtlCopyMemory memory arguments.data
      if arguments.type ≠ .bmRequestClass then
        return statusInvalidParameter
      let status ← usbTargetDeviceFormatRequestForControlTransfer arguments.usbDevice request
        arguments.setup memory
      if !ntSuccess status then
        return status
      setRoutine request arguments.completionRoutine
      sendRequest request arguments.usbDevice status

def evtUsbRequestCompletionRoutine (request : Request) : Driver Unit := objectDelete request

-- what HCI_Command asks SendControlRequest for
def hciControlRequest (context : DeviceHandles) (packet : List BYTE) : ControlRequest where
  usbDevice := context.usbDevice
  direction := .bmRequestHostToDevice
  type := .bmRequestClass
  recipient := .bmRequestToDevice
  request := 0
  value := 0
  index := 0
  buffer := packet
  bufferLength := packet.length
  completionRoutine := some .evtUsbRequestCompletionRoutine

end WireShock.Usb
