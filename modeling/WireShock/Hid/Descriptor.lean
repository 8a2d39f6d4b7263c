import Mathlib.Algebra.Order.Ring.Int
import Mathlib.Data.List.Basic

namespace Hid

abbrev Byte := BitVec 8

structure Item where
  type : Nat
  tag : Nat
  data : List Byte
deriving DecidableEq, Repr

def dataSize (head : Byte) : Nat :=
  if head.toNat % 4 = 3 then 4 else head.toNat % 4

-- every item takes its first byte at least, so the length of the descriptor is fuel enough; a
-- long item (first byte 0xFE) carries nothing a layout depends on
def items : Nat → List Byte → Option (List Item)
  | _, [] => some []
  | 0, _ :: _ => none
  | fuel + 1, head :: rest =>
    if head = 0xFE then
      match rest with
      | size :: _ :: rest => if rest.length < size.toNat then none
          else items fuel (rest.drop size.toNat)
      | _ => none
    else if rest.length < dataSize head then none
    else (items fuel (rest.drop (dataSize head))).map
      (⟨head.toNat / 4 % 4, head.toNat / 16, rest.take (dataSize head)⟩ :: ·)

def littleEndian : List Byte → Nat
  | [] => 0
  | byte :: rest => byte.toNat + 256 * littleEndian rest

def signed (data : List Byte) : Int :=
  if 2 * littleEndian data < 256 ^ data.length then littleEndian data
  else littleEndian data - 256 ^ data.length

structure Usage where
  page : Nat
  id : Nat
deriving DecidableEq, Repr

inductive FieldKind where
  | input
  | output
  | feature
deriving DecidableEq, Repr

structure Field where
  kind : FieldKind
  reportId : Nat
  usage : Option Usage
  offset : Nat
  size : Nat
  logicalMinimum : Int
  logicalMaximum : Int
  nullState : Bool
deriving DecidableEq, Repr

structure Globals where
  usagePage : Nat
  logicalMinimum : Int
  logicalMaximum : Int
  reportSize : Nat
  reportId : Nat
  reportCount : Nat
deriving DecidableEq, Repr

-- a usage of one or two bytes gets the page that holds at the main item, one of four bytes
-- brings its own
structure Locals where
  usages : List (List Byte)
  usageMinimum : Option (List Byte)
  usageMaximum : Option (List Byte)
deriving DecidableEq, Repr

structure State where
  globals : Globals
  saved : List Globals
  locals : Locals
  depth : Nat
  fields : List Field
deriving DecidableEq, Repr

def State.initial : State := ⟨⟨0, 0, 0, 0, 0, 0⟩, [], ⟨[], none, none⟩, 0, []⟩

def State.update (s : State) (change : Globals → Globals) : State :=
  { s with globals := change s.globals }

def State.main (s : State) : State := { s with locals := ⟨[], none, none⟩ }

def Globals.resolve (g : Globals) (data : List Byte) : Usage :=
  if data.length = 4 then ⟨littleEndian data / 65536, littleEndian data % 65536⟩
  else ⟨g.usagePage, littleEndian data⟩

def State.usages (s : State) : List Usage :=
  match s.locals.usageMinimum.map s.globals.resolve, s.locals.usageMaximum.map s.globals.resolve with
  | some first, some last => s.locals.usages.map s.globals.resolve ++
      (List.range' first.id (last.id + 1 - first.id)).map (⟨first.page, ·⟩)
  | _, _ => s.locals.usages.map s.globals.resolve

def State.used (s : State) (kind : FieldKind) : Nat :=
  ((s.fields.filter fun f => f.kind = kind ∧ f.reportId = s.globals.reportId).map Field.size).sum

-- with more fields than usages the last usage stands for the rest
def State.fieldAt (s : State) (kind : FieldKind) (flags index : Nat) : Field :=
  { kind := kind
    reportId := s.globals.reportId
    usage := if flags.testBit 0 then none else (s.usages[index]?).orElse fun _ => s.usages.getLast?
    offset := s.used kind + index * s.globals.reportSize
    size := s.globals.reportSize
    logicalMinimum := s.globals.logicalMinimum
    logicalMaximum := s.globals.logicalMaximum
    nullState := flags.testBit 6 }

-- array fields, whose values are indices of usages, are outside of what this reads
def State.declare (s : State) (kind : FieldKind) (flags : Nat) : Option State :=
  if flags.testBit 0 || flags.testBit 1 then
    some { s.main with fields := s.fields ++
      (List.range s.globals.reportCount).map (s.fieldAt kind flags) }
  else none

def State.step (s : State) (item : Item) : Option State :=
  match item.type, item.tag with
  | 0, 0x8 => s.declare .input (littleEndian item.data)
  | 0, 0x9 => s.declare .output (littleEndian item.data)
  | 0, 0xB => s.declare .feature (littleEndian item.data)
  | 0, 0xA => some { s.main with depth := s.depth + 1 }
  | 0, 0xC => if s.depth = 0 then none else some { s.main with depth := s.depth - 1 }
  | 1, 0x0 => some (s.update ({ · with usagePage := littleEndian item.data }))
  | 1, 0x1 => some (s.update ({ · with logicalMinimum := signed item.data }))
  | 1, 0x2 => some (s.update ({ · with logicalMaximum := signed item.data }))
  | 1, 0x3 | 1, 0x4 | 1, 0x5 | 1, 0x6 => some s
  | 1, 0x7 => some (s.update ({ · with reportSize := littleEndian item.data }))
  | 1, 0x8 => some (s.update ({ · with reportId := littleEndian item.data }))
  | 1, 0x9 => some (s.update ({ · with reportCount := littleEndian item.data }))
  | 1, 0xA => some { s with saved := s.globals :: s.saved }
  | 1, 0xB => match s.saved with
    | [] => none
    | globals :: saved => some { s with globals := globals, saved := saved }
  | 2, 0x0 => some { s with locals := { s.locals with usages := s.locals.usages ++ [item.data] } }
  | 2, 0x1 => some { s with locals := { s.locals with usageMinimum := some item.data } }
  | 2, 0x2 => some { s with locals := { s.locals with usageMaximum := some item.data } }
  | 2, _ => some s
  | _, _ => none

def State.run (s : State) : List Item → Option State
  | [] => if s.depth = 0 then some s else none
  | item :: rest => (s.step item).bind (·.run rest)

def layout (descriptor : List Byte) : Option (List Field) :=
  ((items descriptor.length descriptor).bind State.initial.run).map State.fields

end Hid
