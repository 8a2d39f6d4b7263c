import Mathlib.Logic.Basic

namespace Text

def hexDigit (n : Nat) : Char := if n < 10 then .ofNat (48 + n) else .ofNat (55 + n)

def hexValue (c : Char) : Option Nat :=
  if 48 ≤ c.toNat ∧ c.toNat < 58 then some (c.toNat - 48)
  else if 65 ≤ c.toNat ∧ c.toNat < 71 then some (c.toNat - 55)
  else none

def byteText (b : BitVec 8) : List Char := [hexDigit (b.toNat / 16), hexDigit (b.toNat % 16)]

def byteValue (high low : Char) : Option (BitVec 8) := do
  let high ← hexValue high
  let low ← hexValue low
  return .ofNat 8 (16 * high + low)

def joined (separator : Char) : List (BitVec 8) → List Char
  | [] => []
  | [b] => byteText b
  | b :: c :: bs => byteText b ++ separator :: joined separator (c :: bs)

def separated (separator : Char) : List Char → Option (List (BitVec 8))
  | [] => some []
  | [high, low] => (byteValue high low).map fun b => [b]
  | high :: low :: mark :: rest =>
    if mark = separator then do
      let b ← byteValue high low
      let bs ← separated separator rest
      return b :: bs
    else none
  | _ => none

theorem hexValue_hexDigit : ∀ n < 16, hexValue (hexDigit n) = some n := by decide

theorem byteValue_byteText (b : BitVec 8) :
    byteValue (hexDigit (b.toNat / 16)) (hexDigit (b.toNat % 16)) = some b := by
  have hb := b.isLt
  have hhigh : b.toNat / 16 < 16 := by omega
  have hlow : b.toNat % 16 < 16 := Nat.mod_lt _ (by decide)
  have hsum : 16 * (b.toNat / 16) + b.toNat % 16 = b.toNat := Nat.div_add_mod _ _
  simp [byteValue, hexValue_hexDigit _ hhigh, hexValue_hexDigit _ hlow, hsum]

theorem separated_joined (separator : Char) (bs : List (BitVec 8)) :
    separated separator (joined separator bs) = some bs := by
  induction bs with
  | nil => rfl
  | cons b bs ih =>
    cases bs with
    | nil =>
      rw [joined, byteText, separated, byteValue_byteText]
      rfl
    | cons c bs =>
      have hj : joined separator (b :: c :: bs) = hexDigit (b.toNat / 16) ::
          hexDigit (b.toNat % 16) :: separator :: joined separator (c :: bs) := rfl
      rw [hj, separated, if_pos rfl, byteValue_byteText, ih]
      rfl

theorem joined_injective (separator : Char) {bs cs : List (BitVec 8)}
    (h : joined separator bs = joined separator cs) : bs = cs :=
  Option.some.inj ((separated_joined separator bs).symm.trans
    ((congrArg (separated separator) h).trans (separated_joined separator cs)))

theorem length_joined (separator : Char) (bs : List (BitVec 8)) :
    (joined separator bs).length = 3 * bs.length - 1 := by
  induction bs with
  | nil => rfl
  | cons b bs ih =>
    cases bs with
    | nil => rfl
    | cons c bs =>
      have hj : (joined separator (b :: c :: bs)).length =
          3 + (joined separator (c :: bs)).length := by
        simp [joined, byteText]
        omega
      rw [hj, ih]
      simp only [List.length_cons]
      omega

end Text
