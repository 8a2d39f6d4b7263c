import Mathlib.Data.List.Basic
import Mathlib.Logic.Function.Basic

namespace Interaction

structure Layer (β : Type) where
  header : Nat
  declared : List β → Nat

namespace Layer

variable {β : Type} (l : Layer β)

def strip (packet : List β) : Option (List β) :=
  if l.header ≤ packet.length ∧ l.declared packet = packet.length - l.header then
    some (packet.drop l.header)
  else none

def stripAll : List (Layer β) → List β → Option (List β)
  | [], packet => some packet
  | l :: rest, packet => (l.strip packet).bind (stripAll rest)

@[simp] theorem stripAll_nil (packet : List β) : stripAll [] packet = some packet := rfl

theorem stripAll_cons (rest : List (Layer β)) (packet : List β) :
    stripAll (l :: rest) packet = (l.strip packet).bind (stripAll rest) := rfl

theorem stripAll_append (layers rest : List (Layer β)) (packet : List β) :
    stripAll (layers ++ rest) packet = (stripAll layers packet).bind (stripAll rest) := by
  induction layers generalizing packet with
  | nil => rfl
  | cons l layers ih =>
    rw [List.cons_append, stripAll_cons, stripAll_cons]
    cases l.strip packet with
    | none => rfl
    | some payload => exact ih payload

end Layer

section

variable {β γ : Type}

-- two contents of one receive buffer: the same received part, and the same memory past its end
def AgreeUpTo (limit n : Nat) (b b' : Nat → β) : Prop := ∀ i, i < n ∨ limit ≤ i → b' i = b i

def DependsOnPrefix (limit n : Nat) (f : (Nat → β) → γ) (b : Nat → β) : Prop :=
  ∀ b', AgreeUpTo limit n b b' → f b' = f b

section

variable {limit n m i : Nat} {b b' b'' : Nat → β} {f : (Nat → β) → γ}

theorem AgreeUpTo.at (h : AgreeUpTo limit n b b') (hi : i < n) : b' i = b i := h i (.inl hi)

theorem AgreeUpTo.past (h : AgreeUpTo limit n b b') (hi : limit ≤ i) : b' i = b i := h i (.inr hi)

theorem AgreeUpTo.refl (b : Nat → β) : AgreeUpTo limit n b b := fun _ _ => rfl

theorem AgreeUpTo.update (h : AgreeUpTo limit n b b') (hi : n ≤ i) (hlimit : i < limit) (v : β) :
    AgreeUpTo limit n b (Function.update b' i v) := by
  intro j hj
  have hji : j ≠ i := by omega
  rw [Function.update_of_ne hji, h j hj]

theorem not_dependsOnPrefix (h : AgreeUpTo limit n b b') (hf : f b' ≠ f b) :
    ¬ DependsOnPrefix limit n f b := fun hd => hf (hd b' h)

theorem dependsOnPrefix_iff {required : Nat} (hreads : required ≤ n → DependsOnPrefix limit n f b)
    (hneeds : n < required → ¬ DependsOnPrefix limit n f b) :
    DependsOnPrefix limit n f b ↔ required ≤ n :=
  ⟨fun h => Nat.le_of_not_lt fun hlt => hneeds hlt h, hreads⟩

end

end

section

variable {β : Type}

-- the segment of an array between two places, both included, read from its other end
def mirror (b : Nat → β) (lo hi : Nat) : Nat → β := fun i =>
  if lo ≤ i ∧ i ≤ hi then b (lo + hi - i) else b i

def exchange (b : Nat → β) (i j : Nat) : Nat → β :=
  Function.update (Function.update b i (b j)) j (b i)

section

variable {b : Nat → β} {lo hi i : Nat}

theorem mirror_of_le (h : hi ≤ lo) : mirror b lo hi = b := by
  funext i
  rw [mirror]
  split
  · rename_i hbetween
    have he : lo + hi - i = i := by omega
    rw [he]
  · rfl

theorem mirror_of_outside (h : i < lo ∨ hi < i) : mirror b lo hi i = b i := by
  rw [mirror, if_neg]
  omega

theorem mirror_of_inside (hl : lo ≤ i) (hh : i ≤ hi) : mirror b lo hi i = b (lo + hi - i) :=
  if_pos ⟨hl, hh⟩

theorem mirror_of_past {size : Nat} (h : i < lo ∨ lo + size ≤ i) :
    mirror b lo (lo + size - 1) i = b i := by
  cases size with
  | zero => exact congrFun (mirror_of_le (Nat.sub_le lo 1)) i
  | succ size => exact mirror_of_outside (by omega)

theorem exchange_left (h : lo ≠ hi) : exchange b lo hi lo = b hi := by
  rw [exchange, Function.update_of_ne h, Function.update_self]

theorem exchange_right : exchange b lo hi hi = b lo := Function.update_self ..

theorem exchange_other (hl : i ≠ lo) (hh : i ≠ hi) : exchange b lo hi i = b i := by
  rw [exchange, Function.update_of_ne hh, Function.update_of_ne hl]

-- one step of the loop: what is left to mirror lies between the two places exchanged
theorem mirror_exchange (h : lo < hi) :
    mirror (exchange b lo hi) (lo + 1) (hi - 1) = mirror b lo hi := by
  funext i
  rcases Nat.lt_trichotomy i lo with hi' | rfl | hi'
  · rw [mirror_of_outside (by omega), mirror_of_outside (by omega),
      exchange_other (by omega) (by omega)]
  · rw [mirror_of_outside (by omega), mirror_of_inside (Nat.le_refl i) (Nat.le_of_lt h),
      exchange_left (Nat.ne_of_lt h), Nat.add_sub_cancel_left]
  · rcases Nat.lt_trichotomy i hi with hlt | rfl | hgt
    · have hsum : lo + 1 + (hi - 1) - i = lo + hi - i := by omega
      rw [mirror_of_inside (by omega) (by omega), mirror_of_inside (by omega) (by omega), hsum,
        exchange_other (by omega) (by omega)]
    · rw [mirror_of_outside (by omega), mirror_of_inside (by omega) (Nat.le_refl i),
        exchange_right, Nat.add_sub_cancel]
    · rw [mirror_of_outside (by omega), mirror_of_outside (by omega),
        exchange_other (by omega) (by omega)]

theorem mirror_mirror : mirror (mirror b lo hi) lo hi = b := by
  funext i
  by_cases h : lo ≤ i ∧ i ≤ hi
  · have he : lo + hi - (lo + hi - i) = i := by omega
    rw [mirror_of_inside h.1 h.2, mirror_of_inside (by omega) (by omega), he]
  · rw [mirror_of_outside (by omega), mirror_of_outside (by omega)]

theorem map_mirror (b : Nat → β) (lo size : Nat) :
    (List.range size).map (fun i => mirror b lo (lo + size - 1) (lo + i)) =
      ((List.range size).map fun i => b (lo + i)).reverse := by
  refine List.ext_getElem (by simp) fun i hi hi' => ?_
  have hlt : i < size := by simpa using hi
  have he : lo + (lo + size - 1) - (lo + i) = lo + (size - 1 - i) := by omega
  rw [List.getElem_map, List.getElem_range, List.getElem_reverse, List.getElem_map,
    List.getElem_range, mirror_of_inside (by omega) (by omega), he, List.length_map,
    List.length_range]

end

end

end Interaction
