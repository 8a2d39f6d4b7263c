import WireShock.Driver.Framework

namespace WireShock

def ds3HidInputReportSize : Nat := 0x27
def ds3HidOutputReportSize : Nat := 0x32

def ds3HidOutputReport : List BYTE :=
  [0x52, 0x01, 0x00, 0xFF, 0x00, 0xFF, 0x00, 0x00,
   0x00, 0x00, 0x00, 0x1E, 0xFF, 0x27, 0x10, 0x00,
   0x32, 0xFF, 0x27, 0x10, 0x00, 0x32, 0xFF, 0x27,
   0x10, 0x00, 0x32, 0xFF, 0x27, 0x10, 0x00, 0x32,
   0x00, 0x00, 0x00, 0x00, 0x00, 0x00, 0x00, 0x00,
   0x00, 0x00, 0x00, 0x00, 0x00, 0x00, 0x00, 0x00,
   0x00, 0x00]

def hatPosition (raw : BYTE) : BYTE :=
  if raw = 0x10 then 0
  else if raw = 0x30 then 1
  else if raw = 0x20 then 2
  else if raw = 0x60 then 3
  else if raw = 0x40 then 4
  else if raw = 0xC0 then 5
  else if raw = 0x80 then 6
  else if raw = 0x90 then 7
  else 8

-- the body the split and the single translation share, after each has set its own report ID
def ds3RawToHidInputReport (input : Buffer) (output : List BYTE)
    (muteDigitalPressureButtons : Bool) : List BYTE := Id.run do
  let mut output := output
  output := output.modify 5 (· &&& ~~~0x0F)
  output := output.modify 5 (· &&& ~~~0xF0)
  output := output.modify 6 (· &&& ~~~0xFF)
  if !muteDigitalPressureButtons then
    output := output.modify 5 (· ||| hatPosition (input 2 &&& ~~~0x0F))
    output := output.modify 5 (· ||| (input 3 &&& 0xF0))
    output := output.modify 6 (· ||| (input 2 &&& 0x0F))
    output := output.modify 6 (· ||| ((input 3 &&& 0x0F) <<< 4))
  else
    output := output.modify 5 (· ||| 8)
  output := output.set 1 (input 6)
  output := output.set 2 (input 7)
  output := output.set 3 (input 8)
  output := output.set 4 (input 9)
  output := output.set 8 (input 18)
  output := output.set 9 (input 19)
  output := output.set 7 (input 4)
  output := output.set 10 (input 14)
  output := output.set 11 (input 15)
  output := output.set 12 (input 16)
  output := output.set 13 (input 17)
  output := output.set 14 (input 20)
  output := output.set 15 (input 21)
  output := output.set 16 (input 22)
  output := output.set 17 (input 23)
  output := output.set 18 (input 24)
  output := output.set 19 (input 25)
  return output

def ds3RawToSplitHidInputReport01 (input : Buffer) (output : List BYTE)
    (muteDigitalPressureButtons : Bool) : List BYTE :=
  ds3RawToHidInputReport input (output.set 0 0x01) muteDigitalPressureButtons

def ds3RawToSingleHidInputReport (input : Buffer) (output : List BYTE)
    (muteDigitalPressureButtons : Bool) : List BYTE :=
  ds3RawToHidInputReport input (output.set 0 (input 0)) muteDigitalPressureButtons

def ds3RawToSplitHidInputReport02 (input : Buffer) (output : List BYTE) : List BYTE := Id.run do
  let mut output := output
  output := output.set 0 0x02
  output := output.set 1 (input 14)
  output := output.set 2 (input 15)
  output := output.set 3 (input 16)
  output := output.set 4 (input 17)
  output := output.set 5 (input 22)
  output := output.set 6 (input 23)
  output := output.set 7 (input 24)
  output := output.set 8 (input 25)
  output := output.set 9 (input 20)
  output := output.set 10 (input 21)
  return output

end WireShock
