import Mathlib.Data.List.TakeWhile
import WireShock.Semantics.Routing

namespace WireShock

def Child.Answers (handle : BthHandle) (c : Child) : Prop :=
  c.created = true ∧ c.device.hciConnectionHandle = handle

instance (handle : BthHandle) (c : Child) : Decidable (c.Answers handle) :=
  inferInstanceAs (Decidable (_ ∧ _))

theorem firstWithHandle_eq (handle : BthHandle) (children : List Child) :
    firstWithHandle handle children =
      ((children.takeWhile Child.created).find? fun c => c.device.hciConnectionHandle = handle).map
        fun c => (c.address, c.device) := by
  induction children with
  | nil => rfl
  | cons c rest ih =>
    rw [firstWithHandle]
    cases hc : c.created with
    | false => simp [hc]
    | true =>
      by_cases hh : c.device.hciConnectionHandle = handle
      · simp [hc, hh]
      · simp [hc, hh, ih]

namespace World

structure FindsHandle (w : World) (handle : BthHandle) : Prop where
  complete : (exec (wireBusGetPdoAddressDescriptionByHandle handle) w).1.isSome = true ↔
    ∃ c ∈ w.children.entries, c.Answers handle
  sound : ∀ entry ∈ (exec (wireBusGetPdoAddressDescriptionByHandle handle) w).1,
    ∃ c ∈ w.children.entries, c.Answers handle ∧ c.address = entry.1 ∧ c.device = entry.2

def AnsweredInFront (w : World) (handle : BthHandle) : Prop :=
  (∃ c ∈ w.children.entries, c.Answers handle) →
    ∃ c ∈ w.children.entries.takeWhile Child.created, c.device.hciConnectionHandle = handle

section

variable {w : World} {handle : BthHandle}

theorem findByHandle_isSome_iff :
    (w.children.findByHandle handle).isSome = true ↔
      ∃ c ∈ w.children.entries.takeWhile Child.created, c.device.hciConnectionHandle = handle := by
  simp [ChildList.findByHandle, firstWithHandle_eq]

theorem child_of_findByHandle {entry : BdAddr × BthDevice}
    (h : w.children.findByHandle handle = some entry) :
    ∃ c ∈ w.children.entries, c.Answers handle ∧ c.address = entry.1 ∧ c.device = entry.2 := by
  rw [ChildList.findByHandle, firstWithHandle_eq] at h
  obtain ⟨c, hc, rfl⟩ := Option.map_eq_some_iff.mp h
  have hm := List.mem_of_find?_eq_some hc
  have hh : c.device.hciConnectionHandle = handle := by simpa using List.find?_some hc
  exact ⟨c, (List.takeWhile_sublist _).mem hm, ⟨List.mem_takeWhile_imp hm, hh⟩, rfl, rfl⟩

end

theorem finds_handle_iff (w : World) (handle : BthHandle) :
    w.FindsHandle handle ↔ w.AnsweredInFront handle := by
  have hfound : (exec (wireBusGetPdoAddressDescriptionByHandle handle) w).1 =
      w.children.findByHandle handle := by rw [exec_wireBusGetPdoAddressDescriptionByHandle]
  constructor
  · rintro ⟨hcomplete, -⟩ ha
    rw [hfound] at hcomplete
    exact findByHandle_isSome_iff.mp (hcomplete.mpr ha)
  · intro hfront
    refine ⟨?_, ?_⟩
    · rw [hfound]
      constructor
      · intro hs
        obtain ⟨entry, he⟩ := Option.isSome_iff_exists.mp hs
        obtain ⟨c, hc, ha, -⟩ := child_of_findByHandle he
        exact ⟨c, hc, ha⟩
      · exact fun ha => findByHandle_isSome_iff.mpr (hfront ha)
    · rw [hfound]
      exact fun entry he => child_of_findByHandle he

def otherAddress : BdAddr := ⟨[0x0A, 0x0B, 0x0C, 0x0D, 0x0E, 0x0F], rfl⟩

def besideUncreated : World :=
  { initial .succeeding with
    children := ⟨[⟨otherAddress, .zero, false⟩,
      ⟨someAddress, { BthDevice.zero with hciConnectionHandle := ⟨0x2A, 0x20⟩ }, true⟩],
      by decide⟩ }

theorem handle_behind_uncreated_missed :
    ¬ ∀ (w : World) (handle : BthHandle), w.FindsHandle handle := by
  intro h
  have hs := (h besideUncreated ⟨0x2A, 0x20⟩).complete.mpr
    ⟨_, List.mem_cons_of_mem _ List.mem_cons_self, rfl, rfl⟩
  revert hs
  decide +kernel

end World
end WireShock
