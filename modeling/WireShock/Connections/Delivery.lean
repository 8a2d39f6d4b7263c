import WireShock.Connections.Piconet
import WireShock.Interaction.Run

namespace WireShock
open Interaction

def Output.RoutedTo (handle : BthHandle) : Output → Prop
  | .control packet _ => commandOfPacket packet = some .disconnect ∧
      (⟨packet.getD 3 0, packet.getD 4 0⟩ : BthHandle) = handle
  | .bulk packet _ => AclHeader.read (Buffer.ofList packet) = .firstOf handle
  | _ => True

def Output.Untargeted : Output → Prop
  | .control packet _ => commandOfPacket packet ≠ some .disconnect
  | .bulk _ _ => False
  | _ => True

theorem routedTo_of_carries {o : Output} {handle : BthHandle} (hh : handle.Is12Bit)
    (h : o.Carries handle.flagged) : o.RoutedTo handle := by
  have hall : ∀ x : BYTE, x &&& 0x0F = x → (x ||| 0x20) ^^^ 0x20 = x ∧ (x ||| 0x20) &&& 0x0F = x ∧
      ((x ||| 0x20) >>> 4) &&& 0x03 = 0x02 ∧ (x ||| 0x20) >>> 6 = 0x00 ∧
        (x ||| 0x20) ||| 0x20 = x ||| 0x20 := by decide +kernel
  obtain ⟨lsb, msb⟩ := handle
  obtain ⟨hx, ha, hb, hc, ho⟩ := hall msb hh
  cases o with
  | control packet status =>
    obtain ⟨hd, hl, hm⟩ := h
    refine ⟨hd, ?_⟩
    rw [hl, hm]
    exact congrArg (BthHandle.mk lsb) hx
  | bulk packet status =>
    obtain ⟨hl, hm⟩ := h
    have hm : packet.getD 1 0 = msb ||| 0x20 := by
      rcases hm with hm | hm
      · exact hm
      · exact hm.trans ho
    have hl : packet.getD 0 0 = lsb := hl
    rw [Output.RoutedTo, AclHeader.read, AclHeader.firstOf]
    simp only [Buffer.ofList, hl, hm, ha, hb, hc]
  | _ => trivial

section

variable {w : World} {α : Type} {p : Driver α}

theorem untargeted_remove {a : BdAddr} (hw : ∀ o ∈ w.log, o.Untargeted) :
    ∀ o ∈ (w.remove a).log, o.Untargeted :=
  World.remove_invariant (I := fun v => ∀ o ∈ v.log, o.Untargeted)
    (fun _ _ hv => forall_log_append hv trivial) (fun _ _ hv => hv) hw a

theorem untargeted_removeAll (hw : ∀ o ∈ w.log, o.Untargeted) :
    ∀ o ∈ w.removeAll.log, o.Untargeted :=
  World.removeAll_invariant (I := fun v => ∀ o ∈ v.log, o.Untargeted)
    (fun _ _ hv => untargeted_remove hv) hw

theorem untargeted_createHandle (hw : ∀ o ∈ w.log, o.Untargeted) :
    ∀ o ∈ w.createHandle.2.log, o.Untargeted := by
  unfold World.createHandle
  split <;> exact hw

theorem untargeted_link (hp : p.Uses (Call.Link fun _ => True)) (hw : ∀ o ∈ w.log, o.Untargeted) :
    ∀ o ∈ (exec p w).2.log, o.Untargeted := by
  refine exec_invariant (I := fun v => ∀ o ∈ v.log, o.Untargeted) (fun c v hc hv => ?_) hp hw
  cases c with
  | updateContext => exact hc.elim
  | writeBulkPipe => exact hc.elim
  | childListScan => exact hc.elim
  | sendControlRequest packet =>
    obtain ⟨c, a, hp, hm, -⟩ := hc
    have hd : ∀ c ∈ connectionCommands, c ≠ .disconnect := by decide
    exact forall_log_append hv fun h => hd c hm (Option.some.inj (hp.symm.trans h))
  | childListUpdateAsMissing a => exact untargeted_remove hv
  | ioQueueCreate => exact untargeted_createHandle hv
  | timerCreate => exact untargeted_createHandle hv
  | timerStart timer => exact forall_log_append hv trivial
  | exFreePoolWithTag p => exact forall_log_append hv trivial
  | _ => first | exact hv | exact hc.elim

theorem untargeted_setup (hp : p.Uses Call.Setup) (hw : ∀ o ∈ w.log, o.Untargeted) :
    ∀ o ∈ (exec p w).2.log, o.Untargeted := by
  refine exec_invariant (I := fun v => ∀ o ∈ v.log, o.Untargeted) (fun c v hc hv => ?_) hp hw
  cases c with
  | sendControlRequest packet => exact forall_log_append hv hc
  | childListScan => exact untargeted_removeAll hv
  | _ => first | exact hv | exact hc.elim

theorem untargeted_dispatchEvent {event : HciEvent} {buffer : Buffer} {n : Nat}
    (hw : ∀ o ∈ w.log, o.Untargeted) :
    ∀ o ∈ (exec (dispatchEvent event buffer n) w).2.log, o.Untargeted := by
  cases event with
  | commandComplete => exact untargeted_setup setup_hciCommandCompleteEv hw
  | commandStatus => exact untargeted_setup setup_hciCommandStatusEv hw
  | connectionRequest => exact untargeted_link (link_hciConnectionRequestEv trivial) hw
  | connectionComplete => exact untargeted_link (link_hciConnectionCompleteEv trivial) hw
  | disconnectionComplete => exact untargeted_link (link_hciDisconnectionCompleteEv fun _ => trivial) hw
  | remoteNameRequestComplete => exact untargeted_link (link_hciRemoteNameRequestCompleteEv trivial) hw
  | _ => exact hw

end

namespace Piconet

def Concerns (s : Piconet) (a : BdAddr) : Event → Prop
  | .acl buffer n => (s.world.received a (buffer, n)).isSome
  | .timer b => b = a
  | _ => False

-- a packet that is received for a child is dispatched with its record, which is then stored; one
-- that is received for none changes nothing
structure Delivers (s : Piconet) (e : Event) : Prop where
  dispatched : ∀ buffer n a handle, e = .acl buffer n → n ≠ 0 →
    AclHeader.read buffer = .firstOf handle →
      ((s.world.received a (buffer, n)).isSome ↔
        s.world.children.Present a ∧ s.links a = some handle)
  handled : ∀ buffer n a device, e = .acl buffer n →
    s.world.received a (buffer, n) = some device →
      s.world.children.lookup a = some device ∧
        (s.step e).world = (exec (dispatchPacket device buffer) s.world.clearLog).2.addOrUpdate a
          (exec (dispatchPacket device buffer) s.world.clearLog).1
  dropped : ∀ buffer n, e = .acl buffer n → (∀ a, s.world.received a (buffer, n) = none) →
    (s.step e).world = s.world.clearLog
  sent : ∀ a handle, s.Concerns a e → s.links a = some handle →
    ∀ o ∈ (s.step e).world.log, o.RoutedTo handle
  unlinked : ∀ buffer n a, e = .acl buffer n → s.Concerns a e → s.links a = none →
    BthHandle.fromBuffer buffer 0 = .unset
  silent : (∀ a, ¬ s.Concerns a e) → ∀ o ∈ (s.step e).world.log, o.Untargeted
  ended : ∀ a handle, e.linkEvent = some (.closed handle) → s.links a = some handle →
    ∀ b, (s.step e).world.children.lookup b = if b = a then none else s.world.children.lookup b

section

variable {s : Piconet} {e : Event} {a : BdAddr} {handle : BthHandle}

theorem received_iff (hs : s.Tracked) (hc : s.world.children.AllCreated) {buffer : Buffer} {n : Nat}
    (hn : n ≠ 0) (hh : AclHeader.read buffer = .firstOf handle) :
    (s.world.received a (buffer, n)).isSome ↔
      s.world.children.Present a ∧ s.links a = some handle := by
  obtain ⟨h12, hb⟩ := read_eq_firstOf hh
  constructor
  · intro hr
    obtain ⟨device, hd⟩ := Option.isSome_iff_exists.mp hr
    have hl := World.lookup_of_received hd
    have hf := (lookup_of_findByHandle (World.findByHandle_of_received hd).2).2
    rw [hb] at hf
    refine ⟨by rw [ChildList.Present, hl]; rfl, linked_of_flagged hs h12 ?_⟩
    rw [handle_of_lookup hl, hf]
  · rintro ⟨hp, hl⟩
    obtain ⟨device, hd⟩ := Option.isSome_iff_exists.mp hp
    have hf := findByHandle_of_linked hs hc hl
    rw [hd, ← hb] at hf
    rw [World.received_of_findByHandle hn hf]
    rfl

theorem carries_step (hv : s.Concerns a e) {o : Output} (ho : o ∈ (s.world.step e).log) :
    ∃ device, s.world.children.lookup a = some device ∧ o.Carries device.hciConnectionHandle := by
  cases e with
  | acl buffer n =>
    obtain ⟨device, hd⟩ := Option.isSome_iff_exists.mp hv
    rw [World.step_acl_of_received hd] at ho
    exact ⟨device, World.lookup_of_received hd,
      carries_exec (Program.ensures_uses traffic_dispatchPacket) rfl o ho⟩
  | timer b =>
    cases hv
    rw [step_timer] at ho
    cases hd : s.world.children.lookup a with
    | none =>
      rw [hd] at ho
      cases ho
    | some device =>
      rw [hd] at ho
      dsimp only at ho
      split at ho
      · exact ⟨device, rfl, carries_exec (traffic_of_transmit (transmit_of_signal signal_hidCommand)) rfl o ho⟩
      · cases ho
  | _ => exact hv.elim

theorem routedTo_step (hs : s.Tracked) (hv : s.Concerns a e) (hl : s.links a = some handle)
    {o : Output} (ho : o ∈ (s.world.step e).log) : o.RoutedTo handle := by
  obtain ⟨device, hd, hc⟩ := carries_step hv ho
  have hh : device.hciConnectionHandle = handle.flagged := by
    have hstored := hs.stored a _ (handle_of_lookup hd)
    rwa [hl] at hstored
  exact routedTo_of_carries (hs.is12Bit a handle hl) (hh ▸ hc)

theorem header_of_unlinked (hs : s.Tracked) {buffer : Buffer} {n : Nat}
    (hv : s.Concerns a (.acl buffer n)) (hl : s.links a = none) :
    BthHandle.fromBuffer buffer 0 = .unset := by
  obtain ⟨device, hd⟩ := Option.isSome_iff_exists.mp hv
  have hh := hs.stored a _ (handle_of_lookup (World.lookup_of_received hd))
  rw [hl] at hh
  exact (lookup_of_findByHandle (World.findByHandle_of_received hd).2).2.symm.trans hh

theorem untargeted_step (hv : ∀ a, ¬ s.Concerns a e) :
    ∀ o ∈ (s.world.step e).log, o.Untargeted := by
  have h₀ : ∀ o ∈ s.world.clearLog.log, o.Untargeted := by
    intro o ho
    cases ho
  cases e with
  | hci buffer n =>
    rw [step_hci]
    cases receivedEvent buffer n with
    | none => exact h₀
    | some event => exact untargeted_dispatchEvent h₀
  | acl buffer n =>
    have hr : ∀ a, s.world.received a (buffer, n) = none := fun a =>
      Option.not_isSome_iff_eq_none.mp (hv a)
    rw [World.step_acl_of_not_received hr]
    exact h₀
  | createDevice a =>
    have hu : (wireShockEvtWdfChildListCreateDevice a).Uses (Call.Link fun _ => True) :=
      link_wireShockEvtWdfChildListCreateDevice trivial
    exact step_createDevice_invariant s.world (I := fun v => ∀ o ∈ v.log, o.Untargeted)
      (fun _ hv => hv) (untargeted_link hu h₀)
  | timer a => exact absurd rfl (hv a)
  | d0Entry => exact untargeted_setup setup_wireShockEvtDeviceD0Entry h₀
  | d0Exit => exact untargeted_setup setup_wireShockEvtDeviceD0Exit h₀

theorem delivers_of_tracked (hs : s.Tracked) (hl : s.Legal e) : s.Delivers e where
  dispatched := by
    rintro buffer n a handle rfl hn hh
    exact received_iff hs (hl.created rfl) hn hh
  handled := by
    rintro buffer n a device rfl hr
    exact ⟨World.lookup_of_received hr, World.step_acl_of_received hr⟩
  dropped := by
    rintro buffer n rfl hr
    exact World.step_acl_of_not_received hr
  sent a handle hv ha o ho := routedTo_step hs hv ha ho
  unlinked := by
    rintro buffer n a rfl hv ha
    exact header_of_unlinked hs hv ha
  silent hv := untargeted_step hv
  ended a handle he ha := lookup_step_closed hs (hl.created (isTransfer_of_linkEvent he)) he ha

end

theorem delivers_along (environment : Environment)
    (hu : environment.unwritten.hciConnectionHandle = .unset) (es : List Event)
    (hl : Along step Legal (initial environment) es) :
    Along step Delivers (initial environment) es :=
  along_of_invariant (fun _ _ => tracked_step) (fun _ _ => delivers_of_tracked)
    (tracked_initial hu) hl

def connectionEvents : List Event :=
  [.hci (Buffer.ofList [0x04, 0x0A, 0x01, 0x02, 0x03, 0x04, 0x05, 0x06]) 12,
   .createDevice someAddress,
   .hci (Buffer.ofList [0x03, 0x0B, 0x00, 0x2A, 0x00, 0x01, 0x02, 0x03, 0x04, 0x05, 0x06]) 13,
   .acl (Buffer.ofList [0x2A, 0x20, 0x0C, 0x00, 0x08, 0x00, 0x01, 0x00, 0x02, 0x01, 0x04, 0x00, 0x11,
     0x00, 0x70, 0x00]) 16,
   .hci (Buffer.ofList [0x05, 0x04, 0x00, 0x2A, 0x00, 0x13]) 6]

theorem delivers_along_connection :
    Along step Delivers (initial .succeeding) connectionEvents := by
  refine delivers_along .succeeding rfl connectionEvents ⟨?_, ?_, ?_, ?_, ?_, trivial⟩
  · exact legal_of_link (.requested someAddress) (by decide +kernel) rfl (by decide +kernel)
  · exact legal_of_none (by decide +kernel) fun h => nomatch h
  · refine legal_of_link (.opened someAddress ⟨0x2A, 0x00⟩) (by decide +kernel) ?_ (by decide +kernel)
    exact ⟨rfl, by decide +kernel, fun _ h => nomatch h⟩
  · exact legal_of_none (by decide +kernel) fun _ => by decide +kernel
  · refine legal_of_link (.closed ⟨0x2A, 0x00⟩) (by decide +kernel) ?_ (by decide +kernel)
    exact ⟨someAddress, by decide +kernel⟩

end Piconet
end WireShock
