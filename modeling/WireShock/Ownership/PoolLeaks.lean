import WireShock.Interaction.Leaks
import WireShock.Interaction.Run
import WireShock.Connections.Handles
import WireShock.Ownership.Blocks

namespace WireShock
open Interaction

-- a handler that gives back the blocks it takes for its own use
def Tidy {α : Type} (p : Driver α) : Prop := ∀ w, (exec p w).2.pool.live = w.pool.live

section

variable {α β : Type} {p q : Driver α}

theorem tidy_pure (a : α) : Tidy (pure a : Driver α) := fun _ => rfl

theorem tidy_bind {f : α → Driver β} (hp : Tidy p) (hf : ∀ a, Tidy (f a)) :
    Tidy (p >>= f) := fun w => by
  rw [exec_bind, hf, hp]

theorem tidy_ite {c : Prop} [Decidable c] (hp : Tidy p) (hq : Tidy q) :
    Tidy (if c then p else q) := by
  split
  · exact hp
  · exact hq

def Call.LeavesPool : Call → Prop
  | .childListUpdateAsMissing _ => False
  | .childListScan => False
  | .exAllocatePoolWithTag _ => False
  | .exFreePoolWithTag _ => False
  | _ => True

theorem live_respond {c : Call} (hc : c.LeavesPool) (w : World) :
    (respond c w).2.pool.live = w.pool.live := by
  cases c with
  | ioQueueCreate | timerCreate =>
    exact congrArg (fun m => m.pool.live) (memory_createHandle w)
  | ioQueueRetrieveNextRequest queue =>
    obtain ⟨queues, hq⟩ := w.retrieveNextRequest_world queue
    rw [respond, hq]
  | _ => first | rfl | exact hc.elim

theorem tidy_uses (hp : p.Uses Call.LeavesPool) : Tidy p := fun w =>
  exec_invariant (I := fun v => v.pool.live = w.pool.live)
    (fun _ v hc hv => (live_respond hc v).trans hv) hp rfl

theorem tidy_call {c : Call} (hc : c.LeavesPool) : Tidy (call c) :=
  tidy_uses (uses_call hc)

theorem tidy_hidCommand (handle : BthHandle) (channel : L2capCid) (data : List BYTE) :
    Tidy (hidCommand handle channel data) := fun w => by
  simp [hidCommand, World.free, World.sendBulk, World.copy, World.allocate]

end

section

variable {device : BthDevice} {buffer : Buffer}

theorem tidy_assign {value : Assignment} : Tidy (device.assign value) := fun _ => rfl

theorem tidy_assignIf {c : Prop} [Decidable c] {value : Assignment} :
    Tidy (device.assignIf c value) := tidy_ite tidy_assign (tidy_pure device)

theorem tidy_enableHid : Tidy (enableHid device) := by
  refine tidy_bind (tidy_hidCommand _ _ _) fun status => ?_
  refine tidy_ite (tidy_pure _) (tidy_bind (tidy_hidCommand _ _ _) fun status => ?_)
  exact tidy_ite (tidy_pure _) (tidy_bind (tidy_call trivial) fun _ => tidy_pure _)

theorem tidy_ds3ConfigurationResponse : Tidy (ds3ConfigurationResponse device buffer) := by
  refine tidy_bind tidy_assignIf fun device => tidy_bind tidy_assignIf fun device => ?_
  exact tidy_ite (tidy_bind tidy_enableHid fun _ => tidy_pure _) (tidy_pure _)

theorem tidy_ds3ConfigurationRequest : Tidy (ds3ConfigurationRequest device buffer) := by
  refine tidy_bind (tidy_bind (tidy_call trivial) fun _ => tidy_pure _) fun scid => ?_
  refine tidy_bind tidy_assignIf fun device => tidy_bind tidy_assignIf fun device => ?_
  exact tidy_bind (tidy_call trivial) fun _ => tidy_pure _

theorem tidy_l2capSetConnectionType {type : Option L2capPsm} {scid dcid : L2capCid} :
    Tidy (l2capSetConnectionType device type scid dcid) := by
  cases type with
  | none => exact tidy_pure _
  | some psm =>
    cases psm <;>
      exact tidy_bind (tidy_bind (tidy_call trivial) fun _ => tidy_bind (tidy_call trivial) fun _ =>
        tidy_pure _) fun _ => tidy_bind tidy_assign fun _ => tidy_bind tidy_assign fun _ =>
          tidy_pure _

theorem tidy_acceptConnection {handle : BthHandle} {id : BYTE} {scid dcid : L2capCid} :
    Tidy (acceptConnection handle id scid dcid) := by
  refine tidy_bind (tidy_call trivial) fun status => tidy_ite (tidy_pure _) ?_
  refine tidy_bind (tidy_call trivial) fun status => tidy_ite (tidy_pure _) ?_
  exact tidy_bind (tidy_call trivial) fun id => tidy_bind (tidy_call trivial) fun _ =>
    tidy_call trivial

theorem tidy_ds3ConnectionRequest : Tidy (ds3ConnectionRequest device buffer) := by
  refine tidy_bind (tidy_bind (tidy_call trivial) fun _ => tidy_pure _) fun dcid => ?_
  refine tidy_bind tidy_l2capSetConnectionType fun channel => ?_
  exact tidy_bind tidy_acceptConnection fun _ => tidy_pure _

theorem tidy_ds3DisconnectionRequest : Tidy (ds3DisconnectionRequest device buffer) := by
  refine tidy_ite (tidy_bind ?_ fun _ => tidy_call trivial) (tidy_call trivial)
  exact tidy_bind (tidy_call trivial) fun _ => tidy_call trivial

theorem tidy_dispatchSignalling : Tidy (dispatchSignalling device buffer) := by
  unfold dispatchSignalling
  cases L2capSignallingCommandCode.ofCode (buffer 8) with
  | none => exact tidy_pure _
  | some code =>
    cases code with
    | connectionRequest => exact tidy_bind tidy_ds3ConnectionRequest fun _ => tidy_pure _
    | configurationRequest => exact tidy_bind tidy_ds3ConfigurationRequest fun _ => tidy_pure _
    | configurationResponse => exact tidy_bind tidy_ds3ConfigurationResponse fun _ => tidy_pure _
    | disconnectionRequest => exact tidy_bind tidy_ds3DisconnectionRequest fun _ => tidy_pure _
    | _ => exact tidy_pure _

theorem tidy_completeHidInputReport {queue : Option Handle} {f : List BYTE → List BYTE} :
    Tidy (completeHidInputReport queue f) := by
  refine tidy_bind (tidy_call trivial) fun request => ?_
  cases request with
  | error failure => exact tidy_pure _
  | ok request =>
    refine tidy_bind (tidy_call trivial) fun output => ?_
    cases output <;> exact tidy_bind (tidy_call trivial) fun _ => tidy_pure _

theorem tidy_ds3ProcessHidInputReport : Tidy (ds3ProcessHidInputReport device buffer) := by
  refine tidy_ite (tidy_pure _) (tidy_bind tidy_completeHidInputReport fun first => ?_)
  cases first with
  | error status => exact tidy_pure _
  | ok status =>
    refine tidy_ite (tidy_bind tidy_completeHidInputReport fun second => ?_) (tidy_pure _)
    cases second <;> exact tidy_pure _

theorem tidy_dispatchPacket : Tidy (dispatchPacket device buffer) := by
  refine tidy_ite tidy_dispatchSignalling (tidy_ite ?_ (tidy_pure _))
  cases device.deviceType with
  | ps3Dualshock => exact tidy_bind tidy_ds3ProcessHidInputReport fun _ => tidy_pure _
  | _ => exact tidy_pure _

end

structure World.Tracked (w : World) : Prop where
  balanced : w.ledger.Balanced
  fresh : w.ledger.Fresh

section

variable {w v : World} {a : BdAddr}

theorem tracked_congr (h : w.Tracked) (hl : v.pool.live = w.pool.live)
    (hb : v.blocks = w.blocks) (hf : v.ledger.Fresh) : v.Tracked :=
  ⟨h.balanced.congr hl hb, hf⟩

theorem fresh_of_pool (h : w.ledger.Fresh) (hp : v.pool = w.pool) : v.ledger.Fresh := by
  refine ⟨?_, ?_⟩ <;> simp only [World.ledger, hp]
  · exact h.nodup
  · exact h.below

theorem tracked_of_memory (h : w.Tracked) (hm : v.memory = w.memory) : v.Tracked := by
  refine tracked_congr h (congrArg (fun m => m.pool.live) hm) ?_
    (fresh_of_pool h.fresh (congrArg Memory.pool hm))
  exact congrArg (fun m a => (m.children.lookup a).elim [] BthDevice.blocks) hm

theorem tracked_request (h : w.Tracked) : (w.request a).Tracked := by
  refine ⟨h.balanced.exchange h.fresh a none (fun p hp => .inr hp) (fun b hb => ?_)
    (fun p hp _ => ?_), fresh_of_pool h.fresh rfl⟩
  · exact (blocks_addOrUpdate b).trans (if_neg hb)
  · have hs : (w.request a).blocks a =
        ((w.children.lookup a).getD w.environment.unwritten).blocks :=
      (blocks_addOrUpdate a).trans (if_pos rfl)
    have hp : p ∈ w.blocks a := hp
    show p ∈ (w.request a).blocks a
    rw [hs]
    cases hd : w.children.lookup a with
    | none => simp [World.blocks, hd] at hp
    | some device => rwa [blocks_of_lookup hd] at hp

theorem tracked_modify {g : BthDevice → Driver BthDevice} (h : w.Tracked)
    (hg : ∀ device, (exec (g device) w).2 = w ∧ (exec (g device) w).1.blocks = device.blocks) :
    (w.modify a g).Tracked := by
  cases hd : w.children.lookup a with
  | none => rwa [modify_of_none w a hd]
  | some device =>
    rw [modify_of_some w a hd, (hg device).1]
    exact tracked_congr h rfl
      (blocks_addOrUpdate_of_eq ((hg device).2.trans (blocks_of_lookup hd).symm))
      (fresh_of_pool h.fresh rfl)

theorem live_free? (p : Option Pointer) :
    (w.free? p).pool.live = (w.ledger.release? p).live := by
  cases p <;> rfl

theorem tracked_replace {device other : BthDevice} (old : Option Pointer) (h : w.Tracked)
    (hd : w.children.lookup a = some device) (hv : v.ledger.Fresh)
    (hlive : ∀ p ∈ v.pool.live, p ∈ other.blocks ∨ p ∈ (w.free? old).pool.live)
    (hc : v.children = w.children)
    (hself : ∀ p ∈ device.blocks, some p ≠ old → p ∈ other.blocks) :
    (v.addOrUpdate a other).Tracked := by
  have hb : ∀ b, b ≠ a → (v.addOrUpdate a other).blocks b = w.blocks b := fun b hb =>
    ((blocks_addOrUpdate b).trans (if_neg hb)).trans (by rw [World.blocks, hc]; rfl)
  have ha : (v.addOrUpdate a other).ledger.owned a = other.blocks :=
    (blocks_addOrUpdate a).trans (if_pos rfl)
  refine ⟨h.balanced.exchange h.fresh a old (fun p hp => ?_) hb (fun p hp hne => ?_),
    fresh_of_pool hv rfl⟩
  · rcases hlive p hp with hp | hp
    · exact .inl (by rwa [ha])
    · exact .inr (live_free? old ▸ hp)
  · have hp : p ∈ w.blocks a := hp
    rw [blocks_of_lookup hd] at hp
    rw [ha]
    exact hself p hp hne

theorem fresh_exec {α : Type} (p : Driver α) (h : w.ledger.Fresh) : (exec p w).2.ledger.Fresh :=
  exec_invariant (I := fun v => v.ledger.Fresh) (fun c _ _ hv => fresh_respond c hv)
    (Program.uses_true p) h

theorem tracked_setRemoteName {name : List BYTE} (h : w.Tracked) :
    (w.modify a (setRemoteName name)).Tracked := by
  cases hd : w.children.lookup a with
  | none => rwa [modify_of_none w a hd]
  | some device =>
    rw [modify_of_some w a hd]
    refine tracked_replace device.remoteName h hd (fresh_exec _ h.fresh) ?_ ?_ ?_
    · simp only [setRemoteName, exec_bind, exec_freeIfPresent, exec_exAllocatePoolWithTag,
        exec_assign, exec_rtlCopyMemory, exec_pure, Assignment.apply]
      intro p hp
      rcases List.mem_cons.mp hp with rfl | hp
      · exact .inl (mem_blocks_remoteName rfl)
      · exact .inr hp
    · cases hr : device.remoteName <;> simp [setRemoteName, hr, World.free?] <;> rfl
    · intro p hp hne
      rcases List.mem_append.mp hp with hp | hp
      · exact absurd (Option.mem_toList.mp hp).symm hne
      · refine List.mem_append_right _ ?_
        simpa [setRemoteName, Assignment.apply] using hp

theorem tracked_initOutputReport (h : w.Tracked) : (w.modify a initOutputReport).Tracked := by
  cases hd : w.children.lookup a with
  | none => rwa [modify_of_none w a hd]
  | some device =>
    rw [modify_of_some w a hd]
    by_cases ht : device.deviceType = .ps3Dualshock
    · refine tracked_replace device.outputReportBuffer h hd (fresh_exec _ h.fresh) ?_ ?_ ?_
      · simp only [initOutputReport, ht, exec_bind, exec_freeIfPresent, exec_exAllocatePoolWithTag,
          exec_assign, exec_rtlCopyMemory, exec_pure, Assignment.apply]
        intro p hp
        rcases List.mem_cons.mp hp with rfl | hp
        · exact .inl (mem_blocks_outputReportBuffer rfl)
        · exact .inr hp
      · cases hr : device.outputReportBuffer <;> simp [initOutputReport, ht, hr, World.free?] <;> rfl
      · intro p hp hne
        rcases List.mem_append.mp hp with hp | hp
        · refine List.mem_append_left _ ?_
          simpa [initOutputReport, ht, Assignment.apply] using hp
        · exact absurd (Option.mem_toList.mp hp).symm hne
    · have he : exec (initOutputReport device) w = (device, w.free? device.outputReportBuffer) := by
        cases hc : device.deviceType <;> first | exact absurd hc ht | simp [initOutputReport, hc]
      refine tracked_replace device.outputReportBuffer h hd (fresh_exec _ h.fresh) ?_ ?_ ?_
      · exact fun p hp => .inr (by rwa [he] at hp)
      · rw [he]
        exact children_free?
      · exact fun p hp _ => by rwa [he]

theorem tracked_rename {name : List BYTE} {letter : BYTE} (h : w.Tracked) :
    (w.rename a name letter).Tracked := by
  have hn : (w.modify a (setRemoteName name)).Tracked := tracked_setRemoteName h
  rw [World.rename]
  cases deviceTypeOfRemoteName letter with
  | none => exact tracked_initOutputReport hn
  | some type => exact tracked_initOutputReport (tracked_modify hn fun _ => ⟨rfl, rfl⟩)

theorem tracked_remove (h : w.Tracked) : (w.remove a).Tracked := by
  refine ⟨?_, fresh_remove h.fresh⟩
  cases hd : w.children.lookup a with
  | none => simpa [World.remove, hd] using h.balanced
  | some device =>
    have hr : w.remove a = (({ w with children := w.children.remove a } : World).free?
        device.remoteName).free? device.outputReportBuffer := by
      rw [World.remove, hd]
      rfl
    refine h.balanced.discard a (fun p hp => ?_) fun b hb => ?_
    · have hp : p ∈ (w.remove a).pool.live := hp
      rw [hr, live_free?] at hp
      have hf : (({ w with children := w.children.remove a } : World).free?
          device.remoteName).ledger.Fresh := by
        cases device.remoteName with
        | none => exact fresh_of_pool h.fresh rfl
        | some q => exact fresh_free (fresh_of_pool h.fresh rfl)
      obtain ⟨hp, ho⟩ := hf.ne_of_mem_release? hp
      have hp : p ∈ (({ w with children := w.children.remove a } : World).free?
          device.remoteName).pool.live := hp
      rw [live_free?] at hp
      obtain ⟨hp, hn⟩ := (fresh_of_pool (v := { w with children := w.children.remove a })
        h.fresh rfl).ne_of_mem_release? hp
      refine ⟨hp, fun hb => ?_⟩
      rw [ledger_owned, blocks_of_lookup hd, BthDevice.blocks, List.mem_append,
        Option.mem_toList, Option.mem_toList] at hb
      rcases hb with hb | hb
      · exact hn hb.symm
      · exact ho hb.symm
    · show ((w.remove a).children.lookup b).elim [] BthDevice.blocks = w.blocks b
      rw [lookup_remove_world, if_neg hb]
      rfl

theorem tracked_setup {α : Type} {p : Driver α} (hp : p.Uses Call.Setup) (h : w.Tracked) :
    (exec p w).2.Tracked := by
  refine exec_invariant (I := World.Tracked) (fun c v hc hv => ?_) hp h
  cases c with
  | childListScan =>
    exact World.removeAll_invariant (I := World.Tracked) (fun _ _ hv => tracked_remove hv) hv
  | sendControlRequest packet => exact tracked_of_memory hv (memory_sendControl v packet)
  | _ => first | exact tracked_congr hv rfl rfl (fresh_of_pool hv.fresh rfl) | exact hc.elim

theorem tracked_dispatchEvent {event : HciEvent} {buffer : Buffer} {n : Nat} (h : w.Tracked) :
    (exec (dispatchEvent event buffer n) w).2.Tracked := by
  cases event with
  | commandComplete => exact tracked_setup setup_hciCommandCompleteEv h
  | commandStatus => exact tracked_setup setup_hciCommandStatusEv h
  | connectionRequest =>
    exact tracked_of_memory (tracked_request h) (memory_hciConnectionRequestEv w buffer)
  | connectionComplete =>
    have hm := memory_hciConnectionCompleteEv w buffer
    split at hm
    · exact tracked_of_memory (tracked_modify h fun _ => ⟨rfl, rfl⟩) hm
    · exact tracked_of_memory h hm
  | disconnectionComplete =>
    rw [dispatchEvent, exec_hciDisconnectionCompleteEv]
    split
    · cases w.children.findByHandle ⟨buffer 3, buffer 4 ||| 0x20⟩ with
      | none => exact h
      | some entry => exact tracked_remove h
    · exact h
  | remoteNameRequestComplete =>
    rw [dispatchEvent, exec_hciRemoteNameRequestCompleteEv]
    split
    · exact tracked_rename h
    · exact h
  | _ => exact h

theorem tracked_clearLog (h : w.Tracked) : w.clearLog.Tracked :=
  tracked_congr h rfl rfl (fresh_of_pool h.fresh rfl)

theorem tracked_createDevice (h : w.Tracked) (a : BdAddr) : (w.step (.createDevice a)).Tracked := by
  have h := tracked_clearLog h
  have hc : (exec (wireShockEvtWdfChildListCreateDevice a) w.clearLog).2.Tracked := by
    rcases memory_wireShockEvtWdfChildListCreateDevice w.clearLog a with hm | ⟨d, q, t, hd, hm⟩
    · exact tracked_of_memory h hm
    · refine tracked_of_memory (tracked_congr (v := w.clearLog.update a (d.created q t)) h rfl ?_
        (fresh_of_pool h.fresh rfl)) hm
      funext b
      rw [World.blocks, World.update, ChildList.lookup_update, hd]
      split
      · rename_i hb
        rw [hb, blocks_of_lookup hd]
        rfl
      · rfl
  refine step_createDevice_invariant w (fun v hv => tracked_congr hv rfl ?_
    (fresh_of_pool hv.fresh rfl)) hc
  funext b
  rw [World.blocks, World.markCreated, ChildList.lookup_markCreated]
  rfl

theorem tracked_acl (h : w.Tracked) (buffer : Buffer) (n : Nat) :
    (w.step (.acl buffer n)).Tracked := by
  have h := tracked_clearLog h
  rw [step_acl]
  split
  · exact h
  · cases hf : w.children.findByHandle (BthHandle.fromBuffer buffer 0) with
    | none => exact h
    | some entry =>
      obtain ⟨a, device⟩ := entry
      have hl : w.clearLog.children.lookup a = some device := (lookup_of_findByHandle hf).1
      have hs : device.SameUpToChannels (exec (dispatchPacket device buffer) w.clearLog).1 :=
        Program.run_result traffic_dispatchPacket w.clearLog
      have huses : (dispatchPacket device buffer).Uses (Call.Traffic device.hciConnectionHandle) :=
        Program.ensures_uses traffic_dispatchPacket
      have hc := children_exec huses w.clearLog
      have hb : (exec (dispatchPacket device buffer) w.clearLog).1.blocks = device.blocks :=
        (congrArg BthDevice.blocks hs :)
      have hfresh := fresh_exec (dispatchPacket device buffer) h.fresh
      refine tracked_replace none h hl hfresh (fun p hp => .inr ?_) hc fun p hp _ => hb ▸ hp
      rwa [tidy_dispatchPacket w.clearLog] at hp

theorem tracked_timer (h : w.Tracked) (a : BdAddr) : (w.step (.timer a)).Tracked := by
  have h := tracked_clearLog h
  rw [step_timer]
  cases hl : w.children.lookup a with
  | none => exact h
  | some device =>
    dsimp only
    split
    · refine tracked_congr h (tidy_hidCommand _ _ _ w.clearLog) ?_ (fresh_exec _ h.fresh)
      funext b
      rw [World.blocks, children_exec (traffic_of_transmit (transmit_of_signal signal_hidCommand))]
      rfl
    · exact h

theorem tracked_step (e : Event) (h : w.Tracked) : (w.step e).Tracked := by
  cases e with
  | hci buffer n =>
    rw [step_hci]
    cases receivedEvent buffer n with
    | none => exact tracked_clearLog h
    | some event => exact tracked_dispatchEvent (tracked_clearLog h)
  | acl buffer n => exact tracked_acl h buffer n
  | createDevice a => exact tracked_createDevice h a
  | timer a => exact tracked_timer h a
  | d0Entry => exact tracked_setup setup_wireShockEvtDeviceD0Entry (tracked_clearLog h)
  | d0Exit => exact tracked_setup setup_wireShockEvtDeviceD0Exit (tracked_clearLog h)

end

namespace World

def Referenced (w : World) (p : Pointer) : Prop :=
  ∃ a device, w.children.lookup a = some device ∧
    (device.remoteName = some p ∨ device.outputReportBuffer = some p)

theorem referenced_of_blocks {w : World} {p : Pointer} {a : BdAddr} (h : p ∈ w.blocks a) :
    w.Referenced p := by
  rw [blocks] at h
  cases hd : w.children.lookup a with
  | none => simp [hd] at h
  | some device =>
    rw [hd, Option.elim_some, BthDevice.blocks, List.mem_append, Option.mem_toList,
      Option.mem_toList] at h
    exact ⟨a, device, hd, h⟩

theorem tracked_initial (environment : Environment) : (initial environment).Tracked :=
  ⟨nofun, List.nodup_nil, nofun⟩

theorem lookup_d0Exit (w : World) (a : BdAddr) : (w.step .d0Exit).children.lookup a = none := by
  have h : (w.step .d0Exit).children = w.clearLog.removeAll.children := by
    simp [step, react, wireShockEvtDeviceD0Exit, hciCommandReset]
    rfl
  rw [h, lookup_removeAll]

-- where allocations succeed and the records of listed children can be read and stored, a block that
-- is still allocated is one that a listed child holds, whatever the unwritten locals hold and
-- whichever sends, queues and timers fail, so that none is left when the radio is powered down
theorem nothing_leaks (environment : Environment) (es : List Event) :
    Always step (fun w => ∀ p ∈ w.pool.live, w.Referenced p) (initial environment) es ∧
      ((runs step (initial environment) es).step .d0Exit).pool.live = [] := by
  have hstep : ∀ w e, w.Tracked → True → (step w e).Tracked := fun _ e h _ => tracked_step e h
  have hL : Along step (fun _ _ => True) (initial environment) es :=
    along_of_forall fun _ _ => trivial
  have href : ∀ w : World, w.Tracked → ∀ p ∈ w.pool.live, w.Referenced p := fun w h p hp => by
    obtain ⟨a, ha⟩ := h.balanced p hp
    exact referenced_of_blocks ha
  refine ⟨always_of_invariant hstep href (tracked_initial environment) hL, ?_⟩
  have he := tracked_step .d0Exit (runs_invariant hstep (tracked_initial environment) hL)
  refine List.eq_nil_iff_forall_not_mem.mpr fun p hp => ?_
  obtain ⟨a, device, hl, -⟩ := href _ he p hp
  rw [lookup_d0Exit] at hl
  cases hl

end World
end WireShock
