import WireShock.Connections.Piconet
import WireShock.Connections.Presence
import WireShock.Isolation.Queues

namespace WireShock
open Interaction

namespace ChildList

section

variable {list later : ChildList} {a b : BdAddr} {device : BthDevice}

theorem ext_entries (h : later.entries = list.entries) : later = list := by
  cases later
  cases list
  cases h
  rfl

theorem remove_update : (list.update a device).remove a = list.remove a := by
  refine ext_entries ?_
  simp only [remove, update]
  induction list.entries with
  | nil => rfl
  | cons c entries ih =>
    rcases eq_or_ne c.address a with ha | ha
    · simpa [ha] using ih
    · simpa [ha] using ih

theorem remove_add : (list.add a device).remove a = list.remove a := by
  refine ext_entries ?_
  unfold add
  split
  · rfl
  · simp [remove]

theorem remove_addOrUpdate : (list.addOrUpdate a device).remove a = list.remove a := by
  unfold addOrUpdate
  split
  · exact remove_update
  · exact remove_add

theorem remove_remove : (list.remove a).remove a = list.remove a :=
  ext_entries (by simp [remove])

theorem lookup_of_remove (h : later.remove a = list.remove a) (hb : b ≠ a) :
    later.lookup b = list.lookup b := by
  have hl := lookup_remove later a b
  rw [h, lookup_remove, if_neg hb, if_neg hb] at hl
  exact hl.symm

theorem created_remove (hb : b ≠ a) : (list.remove a).Created b ↔ list.Created b := by
  constructor
  · rintro ⟨c, hc, hcb, hcreated⟩
    exact ⟨c, List.mem_of_mem_filter hc, hcb, hcreated⟩
  · rintro ⟨c, hc, rfl, hcreated⟩
    exact ⟨c, List.mem_filter.mpr ⟨hc, by simpa using hb⟩, rfl, hcreated⟩

theorem created_of_remove (h : later.remove a = list.remove a) (hb : b ≠ a) :
    later.Created b ↔ list.Created b := by
  rw [← created_remove hb, h, created_remove hb]

theorem eq_empty (h : ∀ a, ¬ list.Present a) : list = .empty := by
  refine ext_entries (List.eq_nil_iff_forall_not_mem.mpr fun c hc => h c.address ?_)
  rw [Present, device_of_mem hc]
  rfl

theorem created_of_findByHandle {handle : BthHandle}
    (h : list.findByHandle handle = some (a, device)) : list.Created a := by
  obtain ⟨c, hc, ha, -, -, hcreated⟩ := firstWithHandle_mem h
  exact ⟨c, hc, ha, hcreated⟩

end
end ChildList

-- the bits of a handle that name the connection
def BthHandle.connection (handle : BthHandle) : BthHandle := ⟨handle.lsb, handle.msb &&& 0x0F⟩

def Output.Names (a : BdAddr) (handle : Option BthHandle) : Output → Prop
  | .control packet _ => CarriesAddress a packet ∨ commandOfPacket packet = some .disconnect ∧
      handle.map BthHandle.connection =
        some (BthHandle.connection ⟨packet.getD 3 0, packet.getD 4 0⟩)
  | .bulk packet _ =>
      handle.map BthHandle.connection = some (AclHeader.read (Buffer.ofList packet)).handle
  | _ => True

theorem names_of_carries {a : BdAddr} {handle : BthHandle} {o : Output} (h : o.Carries handle) :
    o.Names a (some handle) := by
  have hall : ∀ x : BYTE, (x ^^^ 0x20) &&& 0x0F = x &&& 0x0F ∧ (x ||| 0x20) &&& 0x0F = x &&& 0x0F := by
    decide +kernel
  cases o with
  | control packet status =>
    obtain ⟨hc, hl, hm⟩ := h
    refine .inr ⟨hc, ?_⟩
    rw [hl, hm, Option.map_some, BthHandle.connection, BthHandle.connection, (hall handle.msb).1]
  | bulk packet status =>
    obtain ⟨hl, hm⟩ := h
    have hm : packet.getD 1 0 &&& 0x0F = handle.msb &&& 0x0F := by
      rcases hm with hm | hm
      · rw [hm]
      · rw [hm, (hall handle.msb).2]
    exact congrArg some (congrArg₂ BthHandle.mk hl.symm hm.symm)
  | _ => trivial

-- what comes from a remote device rather than from the radio's own command processing
def Event.isRemote : Event → Bool
  | .hci buffer n =>
    receivedEvent buffer n ≠ some .commandComplete && receivedEvent buffer n ≠ some .commandStatus
  | .acl _ _ => true
  | .timer _ => true
  | _ => false

namespace World

-- the child an event is about: the one it names, or the one its handle is looked up to
def subject (w : World) : Event → Option BdAddr
  | .hci buffer n =>
    match receivedEvent buffer n with
    | some .connectionRequest => some (BdAddr.fromBuffer buffer 2)
    | some .connectionComplete => some (BdAddr.fromBuffer buffer 5)
    | some .remoteNameRequestComplete => some (BdAddr.fromBuffer buffer 3)
    | some .disconnectionComplete =>
      (w.children.findByHandle ⟨buffer 3, buffer 4 ||| 0x20⟩).map Prod.fst
    | _ => none
  | .acl buffer n =>
    if n = 0 then none
    else (w.children.findByHandle (BthHandle.fromBuffer buffer 0)).map Prod.fst
  | .timer a => some a
  | _ => none

-- only a created child has a queue object behind the handle in its record
def Owns (w : World) (a : BdAddr) (queue : Option Handle) : Prop :=
  w.children.Created a ∧ (w.children.lookup a).bind BthDevice.hidInputReportQueue = queue

-- every other child is as it was, and what was sent carries a's address or connection handle
structure Confines (w : World) (a : BdAddr) (v : World) : Prop where
  children : v.children.remove a = w.children.remove a
  sent : ∀ o ∈ v.log, o.Names a (w.handle a)

end World

section

variable {w v : World} {a : BdAddr} {α : Type} {p : Driver α}

theorem confines_clearLog (w : World) (a : BdAddr) : w.Confines a w.clearLog :=
  ⟨rfl, fun _ ho => nomatch ho⟩

theorem children_remove_self : (w.remove a).children.remove a = w.children.remove a := by
  unfold World.remove
  cases w.children.lookup a with
  | none => rfl
  | some device =>
    rw [children_cleanup]
    exact ChildList.remove_remove

theorem names_remove {b : BdAddr} {handle : Option BthHandle}
    (h : ∀ o ∈ w.log, o.Names a handle) : ∀ o ∈ (w.remove b).log, o.Names a handle :=
  World.remove_invariant (I := fun v => ∀ o ∈ v.log, o.Names a handle)
    (fun _ _ hv => forall_log_append hv trivial) (fun _ _ hv => hv) h b

theorem confines_createHandle (h : w.Confines a v) : w.Confines a v.createHandle.2 := by
  unfold World.createHandle
  split <;> exact ⟨h.children, h.sent⟩

theorem confines_respond {c : Call} (hc : c.Link (· = a)) (h : w.Confines a v) :
    w.Confines a (respond c v).2 := by
  cases c with
  | childListAddOrUpdateAsPresent b device =>
    obtain rfl : b = a := hc
    exact ⟨ChildList.remove_addOrUpdate.trans h.children, h.sent⟩
  | childListUpdateAsMissing b =>
    obtain rfl : b = a := hc
    exact ⟨children_remove_self.trans h.children, names_remove h.sent⟩
  | pdoUpdateAddressDescription b device =>
    obtain rfl : b = a := hc
    exact ⟨ChildList.remove_update.trans h.children, h.sent⟩
  | sendControlRequest packet =>
    obtain ⟨command, b, -, -, rfl, hb⟩ := hc
    exact ⟨h.children, forall_log_append h.sent (.inl hb)⟩
  | ioQueueCreate | timerCreate => exact confines_createHandle h
  | timerStart timer => exact ⟨h.children, forall_log_append h.sent trivial⟩
  | exFreePoolWithTag p => exact ⟨h.children, forall_log_append h.sent trivial⟩
  | _ => first | exact h | exact hc.elim | exact ⟨h.children, h.sent⟩

theorem confines_link (hp : p.Uses (Call.Link (· = a))) (w : World) :
    w.Confines a (exec p w.clearLog).2 :=
  exec_invariant (fun _ _ hc hv => confines_respond hc hv) hp (confines_clearLog w a)

theorem confines_traffic {device : BthDevice} (hl : w.children.lookup a = some device)
    (hp : p.Uses (Call.Traffic device.hciConnectionHandle)) :
    w.Confines a (exec p w.clearLog).2 := by
  refine ⟨congrArg (ChildList.remove · a) (children_exec hp w.clearLog), fun o ho => ?_⟩
  rw [handle_of_lookup hl]
  exact names_of_carries (carries_exec hp rfl o ho)

theorem confines_remove (w : World) (a : BdAddr) : w.Confines a (w.clearLog.remove a) :=
  ⟨children_remove_self, names_remove fun _ ho => nomatch ho⟩

theorem confines_dispatchEvent {buffer : Buffer} {n : Nat} {event : HciEvent}
    (he : receivedEvent buffer n = some event) (h : w.subject (.hci buffer n) = some a) :
    w.Confines a (exec (dispatchEvent event buffer n) w.clearLog).2 := by
  rw [World.subject, he] at h
  cases event with
  | connectionRequest =>
    obtain rfl : _ = a := Option.some.inj h
    exact confines_link (link_hciConnectionRequestEv rfl) w
  | connectionComplete =>
    obtain rfl : _ = a := Option.some.inj h
    exact confines_link (link_hciConnectionCompleteEv rfl) w
  | remoteNameRequestComplete =>
    obtain rfl : _ = a := Option.some.inj h
    exact confines_link (link_hciRemoteNameRequestCompleteEv rfl) w
  | disconnectionComplete =>
    obtain ⟨⟨b, device⟩, hf, rfl⟩ := Option.map_eq_some_iff.mp h
    have hf' : w.clearLog.children.findByHandle ⟨buffer 3, buffer 4 ||| 0x20⟩ = some (b, device) := hf
    rw [dispatchEvent, exec_hciDisconnectionCompleteEv, hf']
    split
    · exact confines_remove w b
    · exact confines_clearLog w b
  | _ => cases h

theorem received_of_subject {buffer : Buffer} {n : Nat}
    (h : w.subject (.acl buffer n) = some a) : ∃ device, w.received a (buffer, n) = some device := by
  rcases eq_or_ne n 0 with rfl | hn
  · simp [World.subject] at h
  · rw [World.subject, if_neg hn] at h
    obtain ⟨⟨b, device⟩, hf, rfl⟩ := Option.map_eq_some_iff.mp h
    exact ⟨device, World.received_of_findByHandle hn hf⟩

theorem confines_step {e : Event} (h : w.subject e = some a) : w.Confines a (w.step e) := by
  cases e with
  | hci buffer n =>
    rw [step_hci]
    cases he : receivedEvent buffer n with
    | none => exact confines_clearLog w a
    | some event => exact confines_dispatchEvent he h
  | acl buffer n =>
    obtain ⟨device, hd⟩ := received_of_subject h
    obtain ⟨hn, hf⟩ := World.findByHandle_of_received hd
    have hl := World.lookup_of_received hd
    rw [step_acl, if_neg hn, hf]
    have hc := confines_traffic (p := dispatchPacket device buffer) hl
      (Program.ensures_uses traffic_dispatchPacket)
    exact ⟨ChildList.remove_addOrUpdate.trans hc.children, hc.sent⟩
  | timer b =>
    obtain rfl : b = a := Option.some.inj h
    rw [step_timer]
    cases hl : w.children.lookup b with
    | none => exact confines_clearLog w b
    | some device =>
      dsimp only
      split
      · exact confines_traffic hl (traffic_of_transmit (transmit_of_signal signal_hidCommand))
      · exact confines_clearLog w b
  | _ => cases h

theorem draws_of_subject {e : Event} (h : w.subject e = some a) :
    w.clearLog.Draws (w.Owns a) none (w.step e) := by
  cases e with
  | hci buffer n =>
    rw [step_hci]
    cases receivedEvent buffer n with
    | none => exact Custody.Drawn.refl _ _
    | some event => exact draws_exec finishes_dispatchEvent w.clearLog
  | acl buffer n =>
    obtain ⟨device, hd⟩ := received_of_subject h
    obtain ⟨hn, hf⟩ := World.findByHandle_of_received hd
    have ho : w.Owns a device.hidInputReportQueue :=
      ⟨ChildList.created_of_findByHandle hf, by rw [World.lookup_of_received hd]; rfl⟩
    rw [step_acl, if_neg hn, hf]
    exact draws_exec (finishes_dispatchPacket ho) w.clearLog
  | timer b => exact draws_exec finishes_wireChildOutputReportEvtTimerFunc w.clearLog
  | _ => cases h

theorem step_of_unresolved {e : Event} (he : e.isRemote = true) (h : w.subject e = none) :
    w.step e = w.clearLog := by
  cases e with
  | hci buffer n =>
    rw [step_hci]
    cases hr : receivedEvent buffer n with
    | none => rfl
    | some event =>
      rw [World.subject, hr] at h
      simp only [Event.isRemote, hr] at he
      cases event with
      | disconnectionComplete =>
        have hf : w.clearLog.children.findByHandle ⟨buffer 3, buffer 4 ||| 0x20⟩ = none :=
          Option.map_eq_none_iff.mp h
        rw [Option.elim_some, dispatchEvent, exec_hciDisconnectionCompleteEv, hf]
        exact ite_self _
      | commandComplete | commandStatus => cases he
      | connectionRequest | connectionComplete | remoteNameRequestComplete => cases h
      | _ => rfl
  | acl buffer n =>
    rw [step_acl]
    split
    · rfl
    · rename_i hn
      rw [World.subject, if_neg hn] at h
      rw [Option.map_eq_none_iff.mp h]
  | timer b => cases h
  | _ => cases he

theorem children_step_commandComplete {buffer : Buffer} {n : Nat}
    (h : receivedEvent buffer n = some .commandComplete) :
    (w.step (.hci buffer n)).children =
      if w.clears (.hci buffer n) then .empty else w.children := by
  rw [step_hci, h, Option.elim_some, dispatchEvent, children_hciCommandCompleteEv]
  refine if_congr ?_ (ChildList.eq_empty fun _ => not_present_removeAll) rfl
  simp [World.clears, h, and_assoc, World.clearLog]

theorem children_step_hci {buffer : Buffer} {n : Nat} (h : w.subject (.hci buffer n) = none) :
    (w.step (.hci buffer n)).children =
      if w.clears (.hci buffer n) then .empty else w.children := by
  rcases eq_or_ne (receivedEvent buffer n) (some .commandComplete) with hc | hc
  · exact children_step_commandComplete hc
  have hn : w.clears (.hci buffer n) = false := by simp [World.clears, hc]
  rw [hn, if_neg Bool.false_ne_true]
  rcases eq_or_ne (receivedEvent buffer n) (some .commandStatus) with hs | hs
  · rw [step_hci, hs, Option.elim_some, dispatchEvent,
      children_exec_steady steady_hciCommandStatusEv]
    rfl
  · rw [step_of_unresolved (by simp [Event.isRemote, hc, hs]) h]
    rfl

end

namespace System

def Queued (s : System) (a : BdAddr) (r : Request) : Prop :=
  ∃ q, s.world.Owns a (some q) ∧ r ∈ s.world.queues q

-- event e, handled for the child at a, does nothing to the other children
structure Undisturbed (s : System) (a : BdAddr) (e : Event) : Prop where
  children : ∀ b, b ≠ a → (s.world.step e).children.lookup b = s.world.children.lookup b ∧
    ((s.world.step e).children.Created b ↔ s.world.children.Created b)
  queues : ∀ q, ¬ s.world.Owns a (some q) → (s.world.step e).queues q = s.world.queues q ∧
    ∀ r ∈ s.world.queues q, r ∉ (s.world.step e).completions
  requests : ∀ b, b ≠ a → ∀ r, s.Queued b r →
    r ∉ (s.world.step e).completions ∧ (s.step (.driver e)).Queued b r
  sent : ∀ o ∈ (s.world.step e).log, o.Names a (s.world.handle a)

structure Isolated (s : System) : Prop where
  subject : ∀ e a, s.world.subject e = some a → s.Undisturbed a e
  unresolved : ∀ e, e.isRemote = true → s.world.subject e = none →
    s.world.step e = s.world.clearLog
  commands : ∀ buffer n, s.world.subject (.hci buffer n) = none →
    (s.world.step (.hci buffer n)).children =
      if s.world.clears (.hci buffer n) then .empty else s.world.children

section

variable {s : System} {a b : BdAddr} {e : Event}

theorem owns_apart (h : s.world.Wired) (hb : b ≠ a) {q : Handle}
    (ho : s.world.Owns b (some q)) : ¬ s.world.Owns a (some q) := by
  rintro ⟨⟨c, hc, rfl, hcc⟩, hcq⟩
  obtain ⟨⟨d, hd, rfl, hdc⟩, hdq⟩ := ho
  rw [ChildList.device_of_mem hc] at hcq
  rw [ChildList.device_of_mem hd] at hdq
  exact hb (h.apart d hd c hc hdc hcc (hdq.trans hcq.symm))

theorem queues_of_subject (h : s.Routed) (he : s.world.subject e = some a) {q : Handle}
    (hq : ¬ s.world.Owns a (some q)) : (s.world.step e).queues q = s.world.queues q ∧
      ∀ r ∈ s.world.queues q, r ∉ (s.world.step e).completions := by
  have hd := draws_of_subject he
  refine ⟨hd.others q hq, fun r hr hc => ?_⟩
  rcases hd.source r (List.mem_append_left _ hc) with hn | ⟨q', ho, hr'⟩
  · cases hn
  · have hqq : q' = q :=
      Option.some.inj ((h.home q' r hr').2.symm.trans (h.home q r hr).2)
    exact hq (hqq ▸ ho)

theorem undisturbed_of_subject (h : s.Routed) (he : s.world.subject e = some a) :
    s.Undisturbed a e := by
  have hc := confines_step he
  have hchildren : ∀ b, b ≠ a →
      (s.world.step e).children.lookup b = s.world.children.lookup b ∧
        ((s.world.step e).children.Created b ↔ s.world.children.Created b) := fun b hb =>
    ⟨ChildList.lookup_of_remove hc.children hb, ChildList.created_of_remove hc.children hb⟩
  refine ⟨hchildren, fun q hq => queues_of_subject h he hq, fun b hb r hr => ?_, hc.sent⟩
  obtain ⟨q, ho, hr⟩ := hr
  obtain ⟨hl, hcreated⟩ := hchildren b hb
  obtain ⟨hq, hn⟩ := queues_of_subject h he (owns_apart h.wired hb ho)
  refine ⟨hn r hr, q, ⟨hcreated.mpr ho.1, ?_⟩, hq.symm ▸ hr⟩
  exact (congrArg (Option.bind · BthDevice.hidInputReportQueue) hl).trans ho.2

theorem controllers_isolated (environment : Environment) (requests : Request → HidRequest)
    (es : List SystemEvent) : (runs step (initial environment requests) es).Isolated where
  subject _ _ he := undisturbed_of_subject (routed_runs environment requests es) he
  unresolved _ he h := step_of_unresolved he h
  commands _ _ h := children_step_hci h

end
end System
end WireShock
