import WireShock.Interaction.Ledger
import WireShock.Semantics.Bus

namespace WireShock
open Interaction

def BthDevice.blocks (device : BthDevice) : List Pointer :=
  device.remoteName.toList ++ device.outputReportBuffer.toList

def World.blocks (w : World) (a : BdAddr) : List Pointer :=
  (w.children.lookup a).elim [] BthDevice.blocks

def World.ledger (w : World) : Ledger BdAddr := ⟨w.pool.live, w.pool.next, w.blocks⟩

section

variable (w : World)

@[simp] theorem ledger_live : w.ledger.live = w.pool.live := rfl
@[simp] theorem ledger_next : w.ledger.next = w.pool.next := rfl
@[simp] theorem ledger_owned : w.ledger.owned = w.blocks := rfl

end

structure World.Owned (w : World) : Prop where
  frees : ∀ p valid, Output.free p valid ∈ w.log → valid = true
  sound : w.ledger.Sound

structure World.Managed (w : World) : Prop where
  fresh : w.ledger.Fresh
  remoteName : w.environment.unwritten.remoteName = none
  outputReportBuffer : w.environment.unwritten.outputReportBuffer = none

section

variable {w : World} {a : BdAddr}

theorem fresh_free {p : Pointer} (h : w.ledger.Fresh) : (w.free p).ledger.Fresh :=
  ⟨(h.release p).nodup, (h.release p).below⟩

theorem fresh_remove (h : w.ledger.Fresh) : (w.remove a).ledger.Fresh :=
  World.remove_invariant (I := fun v => v.ledger.Fresh) (fun _ _ hv => fresh_free hv)
    (fun _ _ hv => ⟨hv.nodup, hv.below⟩) h a

theorem fresh_respond (c : Call) (h : w.ledger.Fresh) : (respond c w).2.ledger.Fresh := by
  cases c with
  | childListUpdateAsMissing a => exact fresh_remove h
  | childListScan =>
    exact World.removeAll_invariant (I := fun v => v.ledger.Fresh) (fun _ _ hv => fresh_remove hv) h
  | exFreePoolWithTag p => exact fresh_free h
  | exAllocatePoolWithTag size => exact ⟨h.allocate.nodup, h.allocate.below⟩
  | ioQueueCreate | timerCreate =>
    have hp : w.createHandle.2.pool = w.pool := congrArg Memory.pool (memory_createHandle w)
    refine ⟨?_, ?_⟩ <;> simp only [respond, World.ledger, hp]
    · exact h.nodup
    · exact h.below
  | ioQueueRetrieveNextRequest queue =>
    obtain ⟨queues, hq⟩ := w.retrieveNextRequest_world queue
    rw [respond, hq]
    exact ⟨h.nodup, h.below⟩
  | _ => exact ⟨h.nodup, h.below⟩

theorem managed_exec {α : Type} (p : Driver α) (h : w.Managed) : (exec p w).2.Managed := by
  have hu : (exec p w).2.environment.unwritten = w.environment.unwritten := unwritten_exec p
  refine ⟨?_, hu ▸ h.remoteName, hu ▸ h.outputReportBuffer⟩
  exact exec_invariant (I := fun v => v.ledger.Fresh) (fun c _ _ hv => fresh_respond c hv)
    (Program.uses_true p) h.fresh

end

section

variable {w v : World} {a : BdAddr} {device : BthDevice}

theorem mem_frees {p : Pointer} {valid : Bool} :
    (p, valid) ∈ w.memory.frees ↔ Output.free p valid ∈ w.log := by
  simp only [World.memory, List.mem_filterMap]
  constructor
  · rintro ⟨o, ho, hf⟩
    cases o <;> cases hf
    exact ho
  · exact fun h => ⟨_, h, rfl⟩

theorem owned_congr (hw : w.Owned) (hf : v.memory.frees = w.memory.frees)
    (hl : v.pool.live = w.pool.live) (hb : v.blocks = w.blocks) : v.Owned := by
  refine ⟨fun p valid h => hw.frees p valid ?_, hw.sound.congr hl hb⟩
  rw [← mem_frees, hf, mem_frees] at h
  exact h

theorem owned_of_memory (hm : v.memory = w.memory) (hw : w.Owned) : v.Owned := by
  refine owned_congr hw (congrArg Memory.frees hm) (congrArg (fun m => m.pool.live) hm) ?_
  exact congrArg (fun m a => (m.children.lookup a).elim [] BthDevice.blocks) hm

theorem blocks_of_lookup (h : w.children.lookup a = some device) : w.blocks a = device.blocks := by
  rw [World.blocks, h]
  rfl

theorem blocks_addOrUpdate (b : BdAddr) :
    (w.addOrUpdate a device).blocks b = if b = a then device.blocks else w.blocks b := by
  rw [World.blocks, World.addOrUpdate, ChildList.lookup_addOrUpdate]
  split <;> rfl

theorem blocks_addOrUpdate_of_eq (h : device.blocks = w.blocks a) :
    (w.addOrUpdate a device).blocks = w.blocks := by
  funext b
  rw [blocks_addOrUpdate]
  split
  · rename_i hb
    rw [h, hb]
  · rfl

theorem owned_request (hw : w.Owned) (hm : w.Managed) : (w.request a).Owned := by
  refine owned_congr hw rfl rfl (blocks_addOrUpdate_of_eq ?_)
  cases hd : w.children.lookup a with
  | none => simp [World.blocks, hd, BthDevice.blocks, hm.remoteName, hm.outputReportBuffer]
  | some device => simp [World.blocks, hd]

theorem owned_modify {g : BthDevice → Driver BthDevice} (hw : w.Owned)
    (hg : ∀ device, (exec (g device) w).2 = w ∧ (exec (g device) w).1.blocks = device.blocks) :
    (w.modify a g).Owned := by
  cases hd : w.children.lookup a with
  | none => rwa [modify_of_none w a hd]
  | some device =>
    rw [modify_of_some w a hd, (hg device).1]
    exact owned_congr hw rfl rfl
      (blocks_addOrUpdate_of_eq ((hg device).2.trans (blocks_of_lookup hd).symm))

theorem frees_free? {p : Option Pointer}
    (hw : ∀ q valid, Output.free q valid ∈ w.log → valid = true) (hp : ∀ q ∈ p, q ∈ w.pool.live) :
    ∀ q valid, Output.free q valid ∈ (w.free? p).log → valid = true := by
  intro q valid h
  cases p with
  | none => exact hw q valid h
  | some p =>
    have hl := hp p rfl
    rcases List.mem_append.mp h with h | h
    · exact hw q valid h
    · cases List.mem_singleton.mp h
      exact decide_eq_true hl

theorem live_of_lookup (hw : w.Owned) (hd : w.children.lookup a = some device) :
    ∀ p ∈ device.blocks, p ∈ w.pool.live := by
  rw [← blocks_of_lookup hd]
  exact hw.sound.live a

theorem owned_exchange (hw : w.Owned) (hf : w.ledger.Fresh)
    (hd : w.children.lookup a = some device) {old : Option Pointer} {rest : List Pointer}
    {p : Pointer} {data : List BYTE} {other : BthDevice}
    (hold : device.blocks.Perm (old.toList ++ rest))
    (hnew : other.blocks.Perm (w.pool.next :: rest)) :
    (((w.free? old).allocate.copy p data).addOrUpdate a other).Owned := by
  have hlive : ∀ q ∈ old, q ∈ w.pool.live := by
    intro q hq
    refine live_of_lookup hw hd q (hold.mem_iff.mpr ?_)
    rw [Option.mem_def.mp hq]
    exact List.mem_cons_self
  have hblocks : ∀ b, (((w.free? old).allocate.copy p data).addOrUpdate a other).blocks b =
      if b = a then other.blocks else w.blocks b := by
    intro b
    rw [blocks_addOrUpdate]
    cases old <;> rfl
  refine ⟨frees_free? hw.frees hlive, hw.sound.exchange hf a old rest ?_ ?_ ?_ ?_⟩
  · rwa [ledger_owned, blocks_of_lookup hd]
  · intro b hb
    rw [ledger_owned, hblocks, if_neg hb]
    rfl
  · cases old <;> rfl
  · rwa [ledger_owned, hblocks, if_pos rfl]

theorem next_free? {p : Option Pointer} : (w.free? p).pool.next = w.pool.next := by
  cases p <;> rfl

theorem owned_setRemoteName {name : List BYTE} (hw : w.Owned) (hf : w.ledger.Fresh) :
    (w.modify a (setRemoteName name)).Owned := by
  cases hd : w.children.lookup a with
  | none => rwa [modify_of_none w a hd]
  | some device =>
    rw [modify_of_some w a hd]
    simp only [setRemoteName, exec_bind, exec_freeIfPresent, exec_exAllocatePoolWithTag,
      exec_assign, exec_rtlCopyMemory, exec_pure, Assignment.apply, next_free?]
    exact owned_exchange hw hf hd (List.Perm.refl _) (List.Perm.refl _)

theorem owned_initOutputReport (hw : w.Owned) (hf : w.ledger.Fresh)
    (hd : w.children.lookup a = some device) :
    (w.modify a initOutputReport).Owned ↔
      (device.outputReportBuffer.isSome → device.deviceType = .ps3Dualshock) := by
  rw [modify_of_some w a hd]
  by_cases ht : device.deviceType = .ps3Dualshock
  · simp only [initOutputReport, ht, exec_bind, exec_freeIfPresent, exec_exAllocatePoolWithTag,
      exec_assign, exec_rtlCopyMemory, exec_pure, Assignment.apply, next_free?]
    refine iff_of_true (owned_exchange hw hf hd List.perm_append_comm ?_) fun _ => trivial
    exact List.perm_append_singleton _ _
  · have he : exec (initOutputReport device) w = (device, w.free? device.outputReportBuffer) := by
      cases hc : device.deviceType <;> first | exact absurd hc ht | simp [initOutputReport, hc]
    rw [he]
    cases ho : device.outputReportBuffer with
    | none =>
      refine iff_of_true (owned_congr hw rfl rfl (blocks_addOrUpdate_of_eq ?_)) fun h => ?_
      · exact (blocks_of_lookup hd).symm
      · cases h
    | some p =>
      refine iff_of_false (fun h => ?_) fun h => ht (h rfl)
      have hb := h.sound.live a p
      rw [ledger_owned, blocks_addOrUpdate, if_pos rfl, BthDevice.blocks, ho] at hb
      exact hf.not_mem_release (p := p) (hb (by simp))

theorem mem_live_free? {p : Pointer} {q : Option Pointer} (hp : p ∈ w.pool.live)
    (hq : some p ≠ q) : p ∈ (w.free? q).pool.live := by
  have h : (w.free? q).pool.live = (w.ledger.release? q).live := by cases q <;> rfl
  rw [h]
  exact Ledger.mem_release? hp hq

theorem mem_blocks_remoteName {p : Pointer} (h : device.remoteName = some p) :
    p ∈ device.blocks := by
  simp [BthDevice.blocks, h]

theorem mem_blocks_outputReportBuffer {p : Pointer} (h : device.outputReportBuffer = some p) :
    p ∈ device.blocks := by
  simp [BthDevice.blocks, h]

theorem ne_of_nodup {p : Pointer} (hn : device.blocks.Nodup)
    (h : device.outputReportBuffer = some p) : some p ≠ device.remoteName := by
  intro hr
  have hd := (List.nodup_append.mp hn).2.2 p
  rw [← hr, h] at hd
  exact hd List.mem_cons_self p List.mem_cons_self rfl

theorem owned_remove (hw : w.Owned) (hf : w.ledger.Fresh) : (w.remove a).Owned := by
  cases hd : w.children.lookup a with
  | none => simpa [World.remove, hd] using hw
  | some device =>
    have hblocks : ∀ b, (w.remove a).blocks b = if b = a then [] else w.blocks b := by
      intro b
      rw [World.blocks, lookup_remove_world]
      split <;> rfl
    have hr : w.remove a = (({ w with children := w.children.remove a } : World).free?
        device.remoteName).free? device.outputReportBuffer := by
      rw [World.remove, hd]
      rfl
    have hl := live_of_lookup hw hd
    have hn : device.blocks.Nodup := blocks_of_lookup hd ▸ hw.sound.nodup a
    refine ⟨?_, hw.sound.discard hf a (fun b hb => ?_) (fun p hp hpa => ?_) ?_⟩
    · rw [hr]
      refine frees_free? (frees_free? hw.frees fun p hp => ?_) fun p hp => ?_
      · exact hl p (mem_blocks_remoteName hp)
      · exact mem_live_free? (hl p (mem_blocks_outputReportBuffer hp)) (ne_of_nodup hn hp)
    · rw [ledger_owned, hblocks, if_neg hb]
      rfl
    · rw [ledger_owned, blocks_of_lookup hd] at hpa
      rw [hr]
      refine mem_live_free? (mem_live_free? hp fun h => ?_) fun h => ?_
      · exact hpa (mem_blocks_remoteName h.symm)
      · exact hpa (mem_blocks_outputReportBuffer h.symm)
    · rw [ledger_owned, hblocks, if_pos rfl]

end

end WireShock
