import WireShock.Semantics.Exec

namespace WireShock

def Output.isTransfer : Output → Bool
  | .control .. => true
  | .bulk .. => true
  | _ => false

def statusThen (status : NTSTATUS) (rest : Nat → NTSTATUS) : Nat → NTSTATUS
  | 0 => status
  | n + 1 => rest n

-- a way to look at a world through which its children and its pool are seen as they are
structure World.Clear (view : World → World) : Prop where
  children : ∀ w, (view w).children = w.children
  withChildren : ∀ w list, { view w with children := list } = view { w with children := list }
  free : ∀ w p, (view w).free p = view (w.free p)

namespace World.Clear

variable {view : World → World} (h : Clear view) (w : World)
include h

theorem free? (p : Option Pointer) : p.elim (view w) (view w).free = view (p.elim w w.free) := by
  cases p with
  | none => rfl
  | some p => exact h.free w p

theorem cleanup (device : BthDevice) : (view w).cleanup device = view (w.cleanup device) := by
  unfold World.cleanup
  dsimp only
  rw [h.free?, h.free?]

theorem remove (a : BdAddr) : (view w).remove a = view (w.remove a) := by
  unfold World.remove
  rw [h.children]
  cases w.children.lookup a with
  | none => rfl
  | some device =>
    dsimp only
    rw [h.withChildren, h.cleanup]

theorem removeAll : (view w).removeAll = view w.removeAll := by
  unfold World.removeAll
  rw [h.children]
  generalize w.children.entries.map Child.address = addresses
  induction addresses generalizing w with
  | nil => rfl
  | cons a rest ih => rw [List.foldl_cons, h.remove, ih, List.foldl_cons]

end World.Clear
end WireShock
