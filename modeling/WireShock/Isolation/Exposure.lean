import WireShock.Channels.Unanswered
import WireShock.Interaction.Episodes
import WireShock.Semantics.StackContents

namespace WireShock
open Interaction

namespace World

def Exposes (w : World) : Event → Prop
  | .hci buffer n => receivedEvent buffer n = some .commandComplete ∧
      AnswersHalfWritten buffer (commandOf buffer)
  | .acl buffer n => ∃ a device, w.received a (buffer, n) = some device ∧
      (packetOf buffer).Exposes device
  | _ => False

section

variable {f g : Output → Output} {loose : Prop} {w v : World}

theorem alike_clearLog (he : Alike f w v) : Alike g w.clearLog v.clearLog :=
  (congrArg World.clearLog he :)

theorem alike_children (he : Alike f w v) : w.children = v.children :=
  (congrArg World.children he :)

theorem step_alike (h : Presents f loose) (e : Event) (hx : loose ∨ ¬ v.Exposes e)
    (he : Alike f w.clearLog v.clearLog) : Alike f (w.step e) (v.step e) := by
  have hexec {α : Type} {p : Driver α} (hp : Blind f p) :
      (exec p w.clearLog).1 = (exec p v.clearLog).1 ∧
        Alike f (exec p w.clearLog).2 (exec p v.clearLog).2 := hp _ _ he
  cases e with
  | hci buffer n =>
    rw [step_hci, step_hci]
    cases hr : receivedEvent buffer n with
    | none => exact he
    | some event =>
      refine (hexec (blind_dispatchEvent h (hx.imp_right fun hn hc => hn ⟨?_, hc.2⟩))).2
      rw [hr, hc.1]
  | acl buffer n =>
    have hchildren : w.children = v.children := alike_children (w := w.clearLog) (v := v.clearLog) he
    rw [step_acl, step_acl, hchildren]
    split
    · exact he
    rename_i hn
    cases hf : v.children.findByHandle (BthHandle.fromBuffer buffer 0) with
    | none => exact he
    | some entry =>
      obtain ⟨a, device⟩ := entry
      have hblind : Blind f (dispatchPacket device buffer) :=
        blind_dispatchPacket h (hx.imp_right fun hn' hc => hn' ⟨a, device,
          received_of_findByHandle hn hf, hc⟩)
      obtain ⟨hr, he'⟩ := hexec hblind
      dsimp only
      exact (congrArg₂ (fun u d => u.addOrUpdate a d) he' hr :)
  | createDevice a =>
    have hblind : Blind f (wireShockEvtWdfChildListCreateDevice a) :=
      blind_records h records_wireShockEvtWdfChildListCreateDevice
    obtain ⟨hs, he'⟩ := hexec hblind
    rw [step, react, step, react]
    dsimp only
    rw [hs]
    split
    · exact (congrArg (markCreated · a) he' :)
    · exact he'
  | timer a => exact (hexec (blind_wireChildOutputReportEvtTimerFunc h)).2
  | d0Entry => exact (hexec (blind_wireShockEvtDeviceD0Entry h)).2
  | d0Exit => exact (hexec (blind_wireShockEvtDeviceD0Exit h)).2

theorem runs_alike (w : World) (stack : Nat → BYTE) (es : List Event) :
    Alike Output.redacted (runs step (w.withStack stack) es) (runs step w es) := by
  have he : Alike Output.redacted (w.withStack stack) w := rfl
  exact runs_related (fun _ _ e he => step_alike presents_redacted e (.inl trivial)
    (alike_clearLog he)) he es

theorem stack_createHandle (w : World) :
    w.createHandle.2.environment.stack = w.environment.stack := by
  unfold createHandle
  split <;> rfl

theorem stack_respond (c : Call) (w : World) :
    (respond c w).2.environment.stack = w.environment.stack := by
  have hremove : ∀ (v : World) a, v.environment.stack = w.environment.stack →
      (v.remove a).environment.stack = w.environment.stack := fun v a hv =>
    remove_invariant (I := fun v => v.environment.stack = w.environment.stack)
      (fun _ _ h => h) (fun _ _ h => h) hv a
  cases c with
  | childListUpdateAsMissing a => exact hremove w a rfl
  | childListScan =>
    exact removeAll_invariant (I := fun v => v.environment.stack = w.environment.stack) hremove rfl
  | ioQueueCreate => exact stack_createHandle w
  | timerCreate => exact stack_createHandle w
  | ioQueueRetrieveNextRequest queue =>
    obtain ⟨queues, hq⟩ := w.retrieveNextRequest_world queue
    rw [respond, hq]
  | _ => rfl

theorem stack_exec {α : Type} (p : Driver α) (w : World) :
    (exec p w).2.environment.stack = w.environment.stack :=
  exec_invariant (I := fun v => v.environment.stack = w.environment.stack)
    (fun c v _ hv => (stack_respond c v).trans hv) p.uses_true rfl

theorem stack_runs (w : World) (es : List Event) :
    (runs step w es).environment.stack = w.environment.stack :=
  runs_invariant (I := fun v : World => v.environment.stack = w.environment.stack)
    (L := fun _ _ => True) (fun v e hv _ =>
      step_invariant (I := fun u => u.environment.stack = w.environment.stack) v
        (fun p u hu => (stack_exec p u).trans hu) (fun p u hu => (stack_exec p u).trans hu)
        (fun _ _ hu => hu) hv e) rfl (along_of_forall fun _ _ => trivial)

end

section

variable {w v : World} {command : HciCommand} {size : Nat} {payload : List BYTE}

-- the first byte that a builder leaves unwritten is one of the stack's
theorem stack_of_hciPacket (hlt : 3 + payload.length < size)
    (he : hciPacket command (overlay (w.uninitialised size).val 3 payload) =
      hciPacket command (overlay (v.uninitialised size).val 3 payload)) :
    w.environment.stack (3 + payload.length) = v.environment.stack (3 + payload.length) := by
  have hw := (w.uninitialised size).property
  have hv := (v.uninitialised size).property
  rw [hciPacket_overlay (by omega), hciPacket_overlay (by omega), hw, hv] at he
  have hdrop := List.append_cancel_left (List.cons.inj (List.cons.inj (List.cons.inj he).2).2).2
  have hhead := congrArg (·[0]?) hdrop
  simpa [uninitialised, List.getElem?_drop, List.getElem?_range hlt] using hhead

theorem exec_answersHalfWritten {buffer : Buffer} {answered : Option HciCommand}
    (hx : AnswersHalfWritten buffer answered) :
    ∃ (command : HciCommand) (size : Nat) (payload : List BYTE), 3 + payload.length < size ∧
      ∀ w : World, (exec (hciCommandCompleteEv buffer answered) w).2 =
        w.sendControl (hciPacket command (overlay (w.uninitialised size).val 3 payload)) := by
  obtain ⟨hs, rfl | rfl⟩ := hx
  · refine ⟨.writeExtendedInquiryResponse, 244,
      [0x00, 0x08, 0x09, 0x45, 0x4E, 0x54, 0x52, 0x4F, 0x50, 0x59, 0x02, 0x0A], by decide, ?_⟩
    intro w
    simp [hciCommandCompleteEv, hs, hciCommandWriteExtendedInquiryResponse]
  · refine ⟨.writeLocalName, 251, [0x45, 0x4E, 0x54, 0x52, 0x4F, 0x50, 0x59], by decide, ?_⟩
    intro w
    simp [hciCommandCompleteEv, hs, hciCommandWriteLocalName]

theorem stack_of_hci {buffer : Buffer} {n : Nat} (hx : v.Exposes (.hci buffer n))
    (he : (w.step (.hci buffer n)).log = (v.step (.hci buffer n)).log) :
    ∃ i, w.environment.stack i = v.environment.stack i := by
  obtain ⟨hr, hx⟩ := hx
  obtain ⟨command, size, payload, hlt, hexec⟩ := exec_answersHalfWritten hx
  rw [step_hci, step_hci, hr] at he
  change (exec (hciCommandCompleteEv buffer (commandOf buffer)) w.clearLog).2.log =
    (exec (hciCommandCompleteEv buffer (commandOf buffer)) v.clearLog).2.log at he
  rw [hexec, hexec] at he
  have hpacket := (Output.control.inj (List.cons.inj he).1).1
  exact ⟨3 + payload.length, stack_of_hciPacket hlt hpacket⟩

theorem stack_of_connectionRequest {a : BdAddr} {p : AclPacket} {device : BthDevice}
    {scid : L2capCid} (hp : packetOf p.1 = .connectionRequest none scid)
    (hw : w.received a p = some device) (hv : v.received a p = some device)
    (he : (w.stepAcl p).log = (v.stepAcl p).log) :
    w.environment.stack 0 = v.environment.stack 0 := by
  rw [log_connectionRequest hw hp, log_connectionRequest hv hp] at he
  have hframe := (Output.bulk.inj (List.cons.inj he).1).1
  have hlsb := congrArg (·[12]?) hframe
  simpa [l2capFrame, l2capConnectionResponse, uninitialised] using hlsb

theorem log_configurationRequest_eq {a : BdAddr} {p : AclPacket} {device : BthDevice}
    {dcid : L2capCid} (hw : w.received a p = some device)
    (hp : packetOf p.1 = .configurationRequest dcid) :
    (w.stepAcl p).log = [.bulk (l2capFrame device.hciConnectionHandle (l2capConfigurationResponse
      (SignallingConfigurationRequest.read (p.1.shift 8)).identifier
      (l2capDeviceGetScid device dcid (exec localCid w).1))) (w.environment.bulkStatus 0)] := by
  obtain ⟨hd, hc⟩ := dispatchPacket_configurationRequest device hp
  have hstep : (w.stepAcl p).log =
      (exec (ds3ConfigurationRequest device p.1) w.clearLog).2.log := by
    rw [stepAcl_of_received hw, hd, exec_bind]
    rfl
  rw [hstep, exec_ds3ConfigurationRequest_eq, hc]
  exact List.nil_append _

theorem getScid_of_not_destination {device : BthDevice} {dcid : L2capCid}
    (hd : device.isDestination dcid = false) (scid : L2capCid) :
    l2capDeviceGetScid device dcid scid = scid := by
  obtain ⟨hi, hc⟩ := (Bool.or_eq_false_iff).mp hd
  have hi : ¬ device.l2capInterruptHandle.destination = dcid := of_decide_eq_false hi
  have hc : ¬ device.l2capCommandHandle.destination = dcid := of_decide_eq_false hc
  rw [l2capDeviceGetScid, if_neg hi, if_neg hc]

theorem stack_of_configurationRequest {a : BdAddr} {p : AclPacket} {device : BthDevice}
    {dcid : L2capCid} (hp : packetOf p.1 = .configurationRequest dcid)
    (hd : device.isDestination dcid = false)
    (hw : w.received a p = some device) (hv : v.received a p = some device)
    (he : (w.stepAcl p).log = (v.stepAcl p).log) :
    w.environment.stack 0 = v.environment.stack 0 := by
  rw [log_configurationRequest_eq hw hp, log_configurationRequest_eq hv hp,
    getScid_of_not_destination hd, getScid_of_not_destination hd] at he
  have hframe := (Output.bulk.inj (List.cons.inj he).1).1
  have hlsb := congrArg (·[12]?) hframe
  simpa [l2capFrame, l2capConfigurationResponse, uninitialised] using hlsb

theorem stack_of_exposes {e : Event} (hx : v.Exposes e) (hc : w.children = v.children)
    (he : (w.step e).log = (v.step e).log) :
    ∃ i, w.environment.stack i = v.environment.stack i := by
  cases e with
  | hci buffer n => exact stack_of_hci hx he
  | acl buffer n =>
    obtain ⟨a, device, hv, hx⟩ := hx
    have hw : w.received a (buffer, n) = some device := by
      rw [received, hc]
      exact hv
    cases hp : packetOf buffer with
    | connectionRequest psm scid =>
      rw [hp] at hx
      cases (hx : psm = none)
      exact ⟨0, stack_of_connectionRequest hp hw hv he⟩
    | configurationRequest dcid =>
      rw [hp] at hx
      exact ⟨0, stack_of_configurationRequest hp hx hw hv he⟩
    | _ =>
      rw [hp] at hx
      exact hx.elim
  | _ => exact hx.elim

end

-- whatever happens, what the driver keeps does not depend on what its locals hold before they are
-- written, and what it sends does so exactly where it leaves a part of a packet unwritten
theorem stack_exposed_iff (w : World) (es : List Event) (e : Event) :
    (∀ stack, Alike Output.redacted (runs step (w.withStack stack) (es ++ [e]))
      (runs step w (es ++ [e]))) ∧
    ((runs step w es).Exposes e ↔ ∃ stack, (runs step (w.withStack stack) (es ++ [e])).log ≠
      (runs step w (es ++ [e])).log) := by
  refine ⟨fun stack => runs_alike w stack (es ++ [e]), fun hx => ?_, fun ⟨stack, hne⟩ => ?_⟩
  · refine ⟨fun i => w.environment.stack i + 1, fun he => ?_⟩
    rw [runs_concat, runs_concat] at he
    obtain ⟨i, hi⟩ := stack_of_exposes hx (alike_children (runs_alike w _ es)) he
    rw [stack_runs, stack_runs] at hi
    have hsucc : w.environment.stack i + 1 = w.environment.stack i := hi
    simp at hsucc
  · by_contra hx
    apply hne
    rw [runs_concat, runs_concat]
    have he := step_alike presents_id e (.inr hx) (alike_clearLog (runs_alike w stack es))
    simpa [Alike, through] using congrArg World.log he

end World
end WireShock
