import WireShock.Ownership.Release

namespace WireShock
open Interaction

def Output.isEffect : Output → Bool
  | .control _ _ => true
  | .bulk _ _ => true
  | .free _ _ => true
  | _ => false

namespace World

def withUnwritten (w : World) (contents : BthDevice) : World :=
  { w with environment := { w.environment with unwritten := contents } }

-- the world after an event whose handler's local held the given contents
def startedWith (w : World) (e : Event) (contents : BthDevice) : World :=
  ((w.withUnwritten contents).step e).withUnwritten w.environment.unwritten

-- the packets sent and the blocks freed in a run, one list for each event
def effects : World → List Event → List (List Output)
  | _, [] => []
  | w, e :: es => (w.step e).log.filter Output.isEffect :: effects (w.step e) es

structure StartsDefined (w : World) (e : Event) (a : BdAddr) (contents contents' : BthDevice) :
    Prop where
  stored : (w.startedWith e contents).children.lookup a =
    (w.startedWith e contents').children.lookup a
  continued : ∀ es, (w.startedWith e contents).effects es = (w.startedWith e contents').effects es

section

variable {w : World} {a : BdAddr} {buffer : Buffer} {n : Nat}

theorem children_connectionRequest (he : receivedEvent buffer n = some .connectionRequest) :
    (w.step (.hci buffer n)).children =
      (w.clearLog.request (BdAddr.fromBuffer buffer 2)).children := by
  rw [step_hci, he]
  exact congrArg Memory.children (memory_hciConnectionRequestEv w.clearLog buffer)

theorem lookup_startedWith (he : receivedEvent buffer n = some .connectionRequest)
    (habsent : w.children.lookup (BdAddr.fromBuffer buffer 2) = none) (contents : BthDevice) :
    (w.startedWith (.hci buffer n) contents).children.lookup (BdAddr.fromBuffer buffer 2) =
      some contents := by
  have hchildren : (w.startedWith (.hci buffer n) contents).children =
      ((w.withUnwritten contents).step (.hci buffer n)).children := rfl
  have hnone : (w.withUnwritten contents).clearLog.children.lookup (BdAddr.fromBuffer buffer 2) =
      none := habsent
  rw [hchildren, children_connectionRequest he, request, addOrUpdate, ChildList.lookup_addOrUpdate,
    if_pos rfl, hnone]
  rfl

end

theorem starts_defined_iff (w : World) (buffer : Buffer) (n : Nat) (contents contents' : BthDevice)
    (he : receivedEvent buffer n = some .connectionRequest)
    (habsent : w.children.lookup (BdAddr.fromBuffer buffer 2) = none) :
    w.StartsDefined (.hci buffer n) (BdAddr.fromBuffer buffer 2) contents contents' ↔
      contents = contents' := by
  constructor
  · intro h
    have hstored := h.stored
    rw [lookup_startedWith he habsent, lookup_startedWith he habsent] at hstored
    exact Option.some.inj hstored
  · rintro rfl
    exact ⟨rfl, fun _ => rfl⟩

def staleRecord : BthDevice := { BthDevice.zero with remoteName := some 7 }

theorem starts_defined_stale :
    (initial .succeeding).StartsDefined
        (.hci (Buffer.ofList [0x04, 0x0A, 0x01, 0x02, 0x03, 0x04, 0x05, 0x06]) 12) someAddress
        .zero staleRecord ↔ BthDevice.zero = staleRecord :=
  starts_defined_iff (initial .succeeding) _ 12 .zero staleRecord rfl rfl

section

variable {w : World} {a : BdAddr} {device : BthDevice}

theorem log_prefix_respond (w : World) (c : Call) : w.log <+: (respond c w).2.log := by
  have hfree : ∀ (v : World) (p : Pointer), w.log <+: v.log → w.log <+: (v.free p).log :=
    fun v _ h => h.trans (List.prefix_append v.log _)
  have hremove : ∀ (v : World) (a : BdAddr), w.log <+: v.log → w.log <+: (v.remove a).log :=
    fun v a h => remove_invariant (I := fun v => w.log <+: v.log) hfree (fun _ _ h => h) h a
  cases c with
  | childListUpdateAsMissing a => exact hremove w a (List.prefix_refl _)
  | childListScan =>
    exact removeAll_invariant (I := fun v => w.log <+: v.log) hremove (List.prefix_refl _)
  | ioQueueCreate =>
    rw [respond, createHandle]
    split <;> exact List.prefix_refl _
  | timerCreate =>
    rw [respond, createHandle]
    split <;> exact List.prefix_refl _
  | ioQueueRetrieveNextRequest queue =>
    obtain ⟨queues, hq⟩ := w.retrieveNextRequest_world queue
    have hlog : (respond (.ioQueueRetrieveNextRequest queue) w).2.log = w.log := by
      rw [respond, hq]
    exact ⟨[], by rw [hlog, List.append_nil]⟩
  | _ => first | exact List.prefix_append w.log _ | exact List.prefix_refl _

theorem log_prefix_modify (w : World) (a : BdAddr) (g : BthDevice → Driver BthDevice) :
    w.log <+: (w.modify a g).log := by
  cases hl : w.children.lookup a with
  | none =>
    exact (modify_of_none w a hl).symm ▸ List.prefix_refl w.log
  | some device =>
    rw [modify_of_some w a hl]
    exact exec_invariant (I := fun v => w.log <+: v.log)
      (fun c v _ hv => hv.trans (log_prefix_respond v c)) (Program.uses_true _) (List.prefix_refl _)

theorem freed_rename {p : Pointer} (hl : w.children.lookup a = some device)
    (hp : device.remoteName = some p) (name : List BYTE) (letter : BYTE) :
    .free p (p ∈ w.pool.live) ∈ (w.rename a name letter).log := by
  have hname : .free p (p ∈ w.pool.live) ∈ (w.modify a (setRemoteName name)).log := by
    rw [modify_of_some w a hl]
    simp [setRemoteName, hp, addOrUpdate, copy, allocate, free?, free]
  have hreport (v : World) (hv : .free p (p ∈ w.pool.live) ∈ v.log) :
      .free p (p ∈ w.pool.live) ∈ (v.modify a initOutputReport).log :=
    (log_prefix_modify v a initOutputReport).subset hv
  rw [rename]
  cases deviceTypeOfRemoteName letter with
  | none => exact hreport _ hname
  | some type => exact hreport _ ((log_prefix_modify _ a _).subset hname)

end

-- the first remote name of the new child frees whatever the local held as its RemoteName
theorem freed_started {w : World} {buffer name : Buffer} {n m : Nat} {contents : BthDevice}
    {p : Pointer} (he : receivedEvent buffer n = some .connectionRequest)
    (habsent : w.children.lookup (BdAddr.fromBuffer buffer 2) = none)
    (hp : contents.remoteName = some p) (hn : receivedEvent name m = some .remoteNameRequestComplete)
    (h₂ : name 2 = 0) (ha : BdAddr.fromBuffer name 3 = BdAddr.fromBuffer buffer 2) :
    ∃ valid, .free p valid ∈
      ((w.startedWith (.hci buffer n) contents).step (.hci name m)).log := by
  have hl : (w.startedWith (.hci buffer n) contents).clearLog.children.lookup
      (BdAddr.fromBuffer name 3) = some contents := by
    rw [ha]
    exact lookup_startedWith he habsent contents
  rw [step_hci, hn, Option.elim_some, dispatchEvent, exec_hciRemoteNameRequestCompleteEv, if_pos h₂]
  exact ⟨_, freed_rename hl hp _ _⟩

theorem stale_pointer_freed :
    ¬ ∀ (w : World) (buffer : Buffer) (n : Nat) (contents contents' : BthDevice),
      receivedEvent buffer n = some .connectionRequest →
        w.children.lookup (BdAddr.fromBuffer buffer 2) = none →
          w.StartsDefined (.hci buffer n) (BdAddr.fromBuffer buffer 2) contents contents' := by
  intro h
  let request := Buffer.ofList [0x04, 0x0A, 0x01, 0x02, 0x03, 0x04, 0x05, 0x06]
  let name := Buffer.ofList [0x07, 0xFF, 0x00, 0x01, 0x02, 0x03, 0x04, 0x05, 0x06, 0x50, 0x00]
  have hs := (h (initial .succeeding) request 12 .zero staleRecord rfl rfl).continued
    [.hci name 11]
  have heq := (List.cons.inj hs).1
  obtain ⟨valid, hfreed⟩ : ∃ valid, .free 7 valid ∈
      (((initial .succeeding).startedWith (.hci request 12) staleRecord).step (.hci name 11)).log :=
    freed_started rfl rfl rfl rfl rfl rfl
  have hstale := List.mem_filter.mpr ⟨hfreed, (rfl : Output.isEffect (.free 7 valid) = true)⟩
  rw [← heq] at hstale
  have hnone : ∀ valid, .free 7 valid ∉ (((initial .succeeding).startedWith
      (.hci request 12) .zero).step (.hci name 11)).log.filter Output.isEffect := by
    decide +kernel
  exact hnone valid hstale

end World
end WireShock
