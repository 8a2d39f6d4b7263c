import WireShock.Interaction.Segments
import WireShock.Startup.Reaction

namespace WireShock

def transferLength : Nat := 512

def pairingCommands : List HciCommand :=
  [.writeSimplePairingMode, .writeAuthenticationEnable, .setEventMask]

section

variable (buffer : Buffer)

def commandCompleteLength : Nat :=
  if ∀ c ∈ startupCommands, c.lsb ≠ buffer 3 then 4
  else match HciCommand.ofBytes (buffer 3) (buffer 4) with
    | none => 5
    | some c =>
      if c ∉ startupCommands ∨ c = .writeSimplePairingDebugMode then 5
      else if !hciCommandSuccess buffer then 6
      else if c = .readBdAddr then 12
      else if c = .readLocalVersionInfo then 10
      else 6

def commandStatusLength : Nat :=
  if buffer 2 = 0 then 3
  else if ∀ c ∈ pairingCommands, c.lsb ≠ buffer 4 then 5
  else 6

-- up to and including the first terminator the scan for the end of the name can find
def remoteNameRequestCompleteLength : Nat :=
  if buffer 2 = 0 then
    ((List.range' 9 (transferLength - 9)).find? fun i => buffer i = 0).elim transferLength (· + 1)
  else 3

def HciEvent.length : HciEvent → Nat
  | .commandComplete => commandCompleteLength buffer
  | .commandStatus => commandStatusLength buffer
  | .connectionRequest => 8
  | .connectionComplete => if buffer 2 = 0 then 11 else 3
  | .disconnectionComplete => if buffer 2 = 0 then 5 else 3
  | .remoteNameRequestComplete => remoteNameRequestCompleteLength buffer
  | _ => 1

def eventLength : Nat := (HciEvent.ofCode (buffer 0)).elim 1 (HciEvent.length buffer)

def signallingLength : Nat :=
  match L2capSignallingCommandCode.ofCode (buffer 8) with
  | some .connectionRequest => 16
  | some .configurationRequest => 14
  | some .configurationResponse => 14
  | some .disconnectionRequest => 16
  | _ => 9

def inputReportLength : Nat :=
  if buffer 8 ≠ 0xA1 then 9
  else if buffer 9 ≠ 0x01 then 10
  else if buffer 10 = 0xFF then 11
  else 35

def packetLength : Nat :=
  if l2capIsControlChannel buffer then signallingLength buffer else inputReportLength buffer

end

end WireShock
