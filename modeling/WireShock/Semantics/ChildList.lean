import Mathlib.Data.List.Nodup
import WireShock.Driver.Types

namespace WireShock

structure Child where
  address : BdAddr
  device : BthDevice
  created : Bool

structure ChildList where
  entries : List Child
  nodup : (entries.map Child.address).Nodup

namespace ChildList

def empty : ChildList := ⟨[], by simp⟩

def lookup (list : ChildList) (a : BdAddr) : Option BthDevice :=
  (list.entries.find? fun c => c.address = a).map Child.device

def Present (list : ChildList) (a : BdAddr) : Prop := (list.lookup a).isSome

instance (list : ChildList) (a : BdAddr) : Decidable (list.Present a) :=
  inferInstanceAs (Decidable (_ = true))

def AllCreated (list : ChildList) : Prop := ∀ c ∈ list.entries, c.created = true

instance (list : ChildList) : Decidable list.AllCreated :=
  inferInstanceAs (Decidable (∀ c ∈ list.entries, c.created = true))

def update (list : ChildList) (a : BdAddr) (device : BthDevice) : ChildList where
  entries := list.entries.map fun c => if c.address = a then { c with device := device } else c
  nodup := by
    have h : ∀ c : Child, (if c.address = a then { c with device := device } else c).address =
        c.address := fun c => by split <;> rfl
    simpa [List.map_map, Function.comp_def, h] using list.nodup

def markCreated (list : ChildList) (a : BdAddr) : ChildList where
  entries := list.entries.map fun c => if c.address = a then { c with created := true } else c
  nodup := by
    have h : ∀ c : Child, (if c.address = a then { c with created := true } else c).address =
        c.address := fun c => by split <;> rfl
    simpa [List.map_map, Function.comp_def, h] using list.nodup

def add (list : ChildList) (a : BdAddr) (device : BthDevice) : ChildList :=
  if h : ∃ c ∈ list.entries, c.address = a then list
  else {
    entries := list.entries ++ [⟨a, device, false⟩]
    nodup := by
      rw [List.map_append, List.nodup_append]
      refine ⟨list.nodup, by simp, ?_⟩
      rintro b hb c hc rfl
      obtain ⟨e, he, rfl⟩ := List.mem_map.mp hb
      exact h ⟨e, he, by simpa using hc⟩ }

def addOrUpdate (list : ChildList) (a : BdAddr) (device : BthDevice) : ChildList :=
  if list.Present a then list.update a device else list.add a device

def remove (list : ChildList) (a : BdAddr) : ChildList where
  entries := list.entries.filter fun c => c.address ≠ a
  nodup := (List.filter_sublist.map Child.address).nodup list.nodup

theorem lookup_eq_some {list : ChildList} {a : BdAddr} {device : BthDevice} :
    list.lookup a = some device ↔ ∃ c ∈ list.entries, c.address = a ∧ c.device = device := by
  constructor
  · intro h
    obtain ⟨c, hc, rfl⟩ := Option.map_eq_some_iff.mp h
    exact ⟨c, List.mem_of_find?_eq_some hc, by simpa using List.find?_some hc, rfl⟩
  · rintro ⟨c, hc, rfl, rfl⟩
    have hs : (list.entries.find? fun e => e.address = c.address).isSome := by
      simpa using ⟨c, hc, rfl⟩
    obtain ⟨e, he⟩ := Option.isSome_iff_exists.mp hs
    have hm := List.mem_of_find?_eq_some he
    have ha : e.address = c.address := by simpa using List.find?_some he
    rw [lookup, he, List.inj_on_of_nodup_map list.nodup hm hc ha]
    rfl

theorem lookup_eq_none {list : ChildList} {a : BdAddr} :
    list.lookup a = none ↔ ∀ c ∈ list.entries, c.address ≠ a := by
  simp [lookup]

theorem lookup_update (list : ChildList) (a b : BdAddr) (device : BthDevice) :
    (list.update a device).lookup b =
      if b = a then (list.lookup a).map fun _ => device else list.lookup b := by
  obtain ⟨entries, nodup⟩ := list
  simp only [update, lookup]
  clear nodup
  induction entries with
  | nil => simp
  | cons c entries ih =>
    simp only [List.map_cons, List.find?_cons]
    by_cases hb : c.address = b
    · subst hb
      by_cases ha : c.address = a <;> simp [ha]
    · by_cases ha : c.address = a
      · subst ha
        have hne : b ≠ c.address := Ne.symm hb
        simpa [hb, hne] using ih
      · by_cases hba : b = a
        · subst hba
          simpa [ha] using ih
        · simpa [ha, hb, hba] using ih

theorem lookup_add {list : ChildList} {a : BdAddr} (h : list.lookup a = none) (b : BdAddr)
    (device : BthDevice) :
    (list.add a device).lookup b = if b = a then some device else list.lookup b := by
  have hn : ¬ ∃ c ∈ list.entries, c.address = a := by
    simpa using lookup_eq_none.mp h
  simp only [add, dif_neg hn, lookup, List.find?_append]
  by_cases hb : b = a
  · subst hb
    have hf : list.entries.find? (fun c => c.address = b) = none := by
      simpa [lookup] using h
    simp [hf]
  · have hab : ¬ a = b := fun e => hb e.symm
    simp [hb, hab]

theorem lookup_addOrUpdate (list : ChildList) (a b : BdAddr) (device : BthDevice) :
    (list.addOrUpdate a device).lookup b = if b = a then some device else list.lookup b := by
  unfold addOrUpdate
  split
  · rename_i h
    obtain ⟨d, hd⟩ := Option.isSome_iff_exists.mp h
    simp [lookup_update, hd]
  · rename_i h
    exact lookup_add (by simpa [Present] using h) b device

theorem lookup_remove (list : ChildList) (a b : BdAddr) :
    (list.remove a).lookup b = if b = a then none else list.lookup b := by
  obtain ⟨entries, nodup⟩ := list
  simp only [remove, lookup]
  clear nodup
  induction entries with
  | nil => simp
  | cons c entries ih =>
    by_cases ha : c.address = a
    · subst ha
      by_cases hb : b = c.address
      · simp [hb]
      · have hcb : c.address ≠ b := Ne.symm hb
        simpa [hb, hcb] using ih
    · by_cases hb : c.address = b
      · subst hb
        simp [ha]
      · simpa [ha, hb] using ih

theorem lookup_markCreated (list : ChildList) (a b : BdAddr) :
    (list.markCreated a).lookup b = list.lookup b := by
  obtain ⟨entries, nodup⟩ := list
  simp only [markCreated, lookup]
  clear nodup
  induction entries with
  | nil => rfl
  | cons c entries ih =>
    simp only [List.map_cons, List.find?_cons]
    by_cases ha : c.address = a <;> by_cases hb : c.address = b <;> simp_all

end ChildList
end WireShock
