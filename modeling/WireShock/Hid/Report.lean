import WireShock.Hid.Descriptor

namespace Hid

def bitAt (body : List Byte) (position : Nat) : Bool :=
  (body.getD (position / 8) 0).getLsbD (position % 8)

def readBits (body : List Byte) (offset : Nat) : Nat → Nat
  | 0 => 0
  | size + 1 => (bitAt body offset).toNat + 2 * readBits body (offset + 1) size

theorem shiftRight_mod_two_pow_succ (x k size : Nat) :
    (x >>> k) % 2 ^ (size + 1) = (x.testBit k).toNat + 2 * ((x >>> (k + 1)) % 2 ^ size) := by
  have hbit : (x >>> k) % 2 = (x.testBit k).toNat := by
    rw [Nat.toNat_testBit, Nat.shiftRight_eq_div_pow]
  rw [Nat.pow_succ', Nat.mod_mul, hbit, Nat.shiftRight_succ]

theorem readBits_within (body : List Byte) (n : Nat) {k size : Nat} (h : k + size ≤ 8) :
    readBits body (8 * n + k) size = ((body.getD n 0).toNat >>> k) % 2 ^ size := by
  induction size generalizing k with
  | zero => simp [readBits, Nat.mod_one]
  | succ size ih =>
    have hbit : bitAt body (8 * n + k) = (body.getD n 0).toNat.testBit k := by
      have hdiv : (8 * n + k) / 8 = n := by omega
      have hmod : (8 * n + k) % 8 = k := by omega
      rw [bitAt, hdiv, hmod, BitVec.getLsbD]
    rw [readBits, hbit, Nat.add_assoc, ih (by omega), shiftRight_mod_two_pow_succ]

theorem readBits_byte (body : List Byte) (n : Nat) :
    readBits body (8 * n) 8 = (body.getD n 0).toNat := by
  have h := readBits_within body n (show 0 + 8 ≤ 8 by omega)
  rw [Nat.add_zero, Nat.shiftRight_zero] at h
  exact h.trans (Nat.mod_eq_of_lt (body.getD n 0).isLt)

-- the bytes of a report after its ID, a last incomplete byte filled up
def reportBytes (fields : List Field) (kind : FieldKind) (reportId : Nat) : Nat :=
  (((fields.filter fun f => f.kind = kind ∧ f.reportId = reportId).map Field.size).sum + 7) / 8

structure Value where
  value : Int
  null : Bool
deriving DecidableEq, Repr

def Field.number (f : Field) (body : List Byte) : Int :=
  let bits := readBits body f.offset f.size
  if f.logicalMinimum < 0 ∧ 2 ^ f.size ≤ 2 * bits then bits - 2 ^ f.size else bits

def Field.read (f : Field) (body : List Byte) : Value :=
  let number := f.number body
  ⟨number, f.nullState && !(f.logicalMinimum ≤ number && number ≤ f.logicalMaximum)⟩

def inputs (fields : List Field) (reportId : Nat) (usage : Usage) : List Field :=
  fields.filter fun f => f.kind = .input ∧ f.reportId = reportId ∧ f.usage = some usage

def values (fields : List Field) (report : List Byte) (usage : Usage) : List Value :=
  match report with
  | [] => []
  | reportId :: body => (inputs fields reportId.toNat usage).map (·.read body)

def valueOf (fields : List Field) (report : List Byte) (usage : Usage) : Option Value :=
  match values fields report usage with
  | [value] => some value
  | _ => none

section Reading

variable {fields : List Field} (reportId : Byte) (body : List Byte)

theorem Field.read_of_unsigned {f : Field} (h : 0 ≤ f.logicalMinimum) (hn : f.nullState = false) :
    f.read body = ⟨readBits body f.offset f.size, false⟩ := by
  have hlt : ¬ f.logicalMinimum < 0 := by omega
  simp [Field.read, Field.number, hlt, hn]

theorem values_cons {usage : Usage} {found : List Field}
    (h : inputs fields reportId.toNat usage = found) :
    values fields (reportId :: body) usage = found.map (·.read body) := by
  rw [values, h]

theorem valueOf_cons {usage : Usage} {f : Field}
    (h : inputs fields reportId.toNat usage = [f]) :
    valueOf fields (reportId :: body) usage = some (f.read body) := by
  rw [valueOf, values_cons reportId body h]
  rfl

theorem mapM_valueOf {usages : List Usage} {found : List Field}
    (h : usages.map (inputs fields reportId.toNat) = found.map ([·])) :
    usages.mapM (valueOf fields (reportId :: body)) = some (found.map (·.read body)) := by
  induction usages generalizing found with
  | nil =>
    cases found with
    | nil => rfl
    | cons f found => simp at h
  | cons usage usages ih =>
    cases found with
    | nil => simp at h
    | cons f found =>
      rw [List.map_cons, List.map_cons, List.cons.injEq] at h
      simp [valueOf_cons reportId body h.1, ih h.2]

end Reading

end Hid
