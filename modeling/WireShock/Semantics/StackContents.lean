import WireShock.Channels.Link
import WireShock.Interaction.Relational
import WireShock.Semantics.OwnCalls
import WireShock.Semantics.Views
import WireShock.Startup.CommandPackets

namespace WireShock
open Interaction

-- the world for who sees nothing of the stack and each output as it shows
def World.through (f : Output → Output) (w : World) : World :=
  { w.withStack fun _ => 0 with log := w.log.map f }

def World.Alike (f : Output → Output) (w v : World) : Prop := w.through f = v.through f

-- what is shown of an output: all of it, but for the bytes of a packet where the view is loose
structure Presents (f : Output → Output) (loose : Prop) : Prop where
  kept : ∀ o : Output, o.isTransfer = false → f o = o
  control : ∀ (p q : List BYTE) (status : NTSTATUS), p.length = q.length → loose ∨ p = q →
    f (.control p status) = f (.control q status)
  bulk : ∀ (p q : List BYTE) (status : NTSTATUS), p.length = q.length → loose ∨ p = q →
    f (.bulk p status) = f (.bulk q status)

theorem presents_id : Presents id False where
  kept _ _ := rfl
  control _ _ _ _ h := h.elim False.elim fun h => h ▸ rfl
  bulk _ _ _ _ h := h.elim False.elim fun h => h ▸ rfl

def Output.redacted : Output → Output
  | .control packet status => .control (List.replicate packet.length 0) status
  | .bulk packet status => .bulk (List.replicate packet.length 0) status
  | o => o

theorem presents_redacted : Presents Output.redacted True where
  kept o ho := by cases o <;> first | rfl | cases ho
  control p q status hl _ := by rw [Output.redacted, Output.redacted, hl]
  bulk p q status hl _ := by rw [Output.redacted, Output.redacted, hl]

section

variable {f : Output → Output} {loose : Prop} (h : Presents f loose)
include h

theorem map_append_kept (log : List Output) {o : Output} (ho : o.isTransfer = false) :
    (log ++ [o]).map f = log.map f ++ [o] := by
  rw [List.map_append, List.map_singleton, h.kept o ho]

theorem through_emit (w : World) {o : Output} (ho : o.isTransfer = false) :
    (w.emit o).through f = (w.through f).emit o :=
  congrArg (fun log => { w.through f with log := log }) (map_append_kept h w.log ho)

theorem through_free (w : World) (p : Pointer) : (w.free p).through f = (w.through f).free p :=
  congrArg (fun log => { (w.through f).free p with log := log }) (map_append_kept h w.log rfl)

theorem clear_through : World.Clear (World.through f) :=
  ⟨fun _ => rfl, fun _ _ => rfl, fun w p => (through_free h w p).symm⟩

omit h in
theorem through_createHandle (w : World) :
    (w.through f).createHandle = (w.createHandle.1, w.createHandle.2.through f) := by
  have hs : (w.through f).environment.frameworkStatus = w.environment.frameworkStatus := rfl
  unfold World.createHandle
  rw [hs]
  split <;> rfl

omit h in
theorem through_retrieveNextRequest (w : World) (queue : Option Handle) :
    (w.through f).retrieveNextRequest queue =
      ((w.retrieveNextRequest queue).1, (w.retrieveNextRequest queue).2.through f) := by
  cases queue with
  | none => rfl
  | some q =>
    have hq : (w.through f).queues = w.queues := rfl
    unfold World.retrieveNextRequest
    dsimp only
    rw [hq]
    cases w.queues q <;> rfl

theorem respond_through (w : World) {c : Call} (hc : c.Silent ∨ c.OnRequests) :
    respond c (w.through f) = ((respond c w).1, (respond c w).2.through f) := by
  cases c with
  | childListUpdateAsMissing a => exact congrArg (Prod.mk _) ((clear_through h).remove w a)
  | childListScan => exact congrArg (Prod.mk _) ((clear_through h).removeAll w)
  | ioQueueCreate => exact through_createHandle w
  | timerCreate => exact through_createHandle w
  | timerStart timer => exact congrArg (Prod.mk _) (through_emit h w rfl).symm
  | exFreePoolWithTag p => exact congrArg (Prod.mk _) (through_free h w p).symm
  | ioQueueRetrieveNextRequest queue => exact through_retrieveNextRequest w queue
  | requestComplete request status => exact congrArg (Prod.mk _) (through_emit h w rfl).symm
  | requestCompleteWithInformation request status information output =>
    exact congrArg (Prod.mk _) (through_emit h w rfl).symm
  | localArray size => exact (hc.elim id id).elim
  | sendControlRequest packet => exact (hc.elim id id).elim
  | writeBulkPipe packet => exact (hc.elim id id).elim
  | _ => rfl

end

abbrev Blind {α : Type} (f : Output → Output) (p : Driver α) : Prop :=
  p.Parallel respond (World.Alike f)

section

variable {f : Output → Output} {loose : Prop} (h : Presents f loose)
include h

theorem blind_silent {α : Type} {p : Driver α} (hp : p.Uses Call.Silent) : Blind f p :=
  Program.parallel_of_uses
    (fun _ hc => Program.parallel_of_view fun w => respond_through h w (.inl hc)) hp

theorem blind_onRequests {α : Type} {p : Driver α} (hp : p.Uses Call.OnRequests) : Blind f p :=
  Program.parallel_of_uses
    (fun _ hc => Program.parallel_of_view fun w => respond_through h w (.inr hc)) hp

theorem blind_records {α : Type} {p : Driver α} (hp : p.Uses Call.Records) : Blind f p :=
  blind_silent h (silent_of_records hp)

theorem blind_call {c : Call} (hc : c.Silent) : Blind f (call c) := blind_silent h (silent_call hc)

omit h in
theorem relates_localArray (n : Nat) :
    (localArray n).Relates respond (World.Alike f) (fun _ _ => True) (localArray n) :=
  fun _ _ he => ⟨trivial, he⟩

omit h in
theorem relates_localCid :
    localCid.Relates respond (World.Alike f) (fun _ _ => True) localCid :=
  Program.relates_bind (relates_localArray 2) fun _ _ _ => Program.relates_pure trivial

theorem relates_sendControlRequest {p q : List BYTE} (hl : p.length = q.length)
    (hpq : loose ∨ p = q) :
    (sendControlRequest p).Relates respond (World.Alike f) Eq (sendControlRequest q) := by
  intro w v he
  have hs : w.environment.controlStatus = v.environment.controlStatus :=
    congrArg (fun u => u.environment.controlStatus) he
  have hlog : w.log.map f = v.log.map f := congrArg World.log he
  refine ⟨congrFun hs 0, ?_⟩
  have ho := h.control p q (w.environment.controlStatus 0) hl hpq
  have hlog' : (w.sendControl p).log.map f = (v.sendControl q).log.map f := by
    rw [World.sendControl, World.sendControl, List.map_append, List.map_append, hlog, hs.symm]
    exact congrArg (fun o => v.log.map f ++ [o]) ho
  calc (w.sendControl p).through f
      = { (w.through f).sendControl [] with log := (w.sendControl p).log.map f } := rfl
    _ = { (v.through f).sendControl [] with log := (v.sendControl q).log.map f } := by
      rw [he, hlog']
    _ = (v.sendControl q).through f := rfl

theorem relates_writeBulkPipe {p q : List BYTE} (hl : p.length = q.length) (hpq : loose ∨ p = q) :
    (writeBulkPipe p).Relates respond (World.Alike f) Eq (writeBulkPipe q) := by
  intro w v he
  have hs : w.environment.bulkStatus = v.environment.bulkStatus :=
    congrArg (fun u => u.environment.bulkStatus) he
  have hlog : w.log.map f = v.log.map f := congrArg World.log he
  refine ⟨congrFun hs 0, ?_⟩
  have ho := h.bulk p q (w.environment.bulkStatus 0) hl hpq
  have hlog' : (w.sendBulk p).log.map f = (v.sendBulk q).log.map f := by
    rw [World.sendBulk, World.sendBulk, List.map_append, List.map_append, hlog, hs.symm]
    exact congrArg (fun o => v.log.map f ++ [o]) ho
  calc (w.sendBulk p).through f
      = { (w.through f).sendBulk [] with log := (w.sendBulk p).log.map f } := rfl
    _ = { (v.through f).sendBulk [] with log := (v.sendBulk q).log.map f } := by
      rw [he, hlog']
    _ = (v.sendBulk q).through f := rfl

theorem blind_writeBulkPipe {p : List BYTE} : Blind f (writeBulkPipe p) :=
  relates_writeBulkPipe h rfl (.inr rfl)

theorem blind_hciCommandWith {c : HciCommand} {size : Nat} {payload : List BYTE}
    (hle : 3 + payload.length ≤ size) (hx : loose ∨ 3 + payload.length = size) :
    Blind f (hciCommandWith c size payload) := by
  refine Program.relates_bind (relates_localArray size) fun a b _ => ?_
  have ha := a.property
  have hb := b.property
  apply relates_sendControlRequest h
  · simp [hciPacket_overlay, ha, hb, hle]
  · apply hx.imp_right
    intro hs
    rw [hciPacket_overlay (by omega), hciPacket_overlay (by omega), ha, hb,
      List.drop_of_length_le (by omega), List.drop_of_length_le (by omega)]

theorem blind_full {c : HciCommand} {size : Nat} {payload : List BYTE}
    (hs : 3 + payload.length = size) : Blind f (hciCommandWith c size payload) :=
  blind_hciCommandWith h (Nat.le_of_eq hs) (.inr hs)

end

-- the signalling packets that are answered with a channel identifier no one has written
def Packet.Exposes (device : BthDevice) : Packet → Prop
  | .connectionRequest psm _ => psm = none
  | .configurationRequest dcid => device.isDestination dcid = false
  | _ => False

section

variable {f : Output → Output} {loose : Prop} (h : Presents f loose)
  {device : BthDevice} {handle : BthHandle} {scid d₁ d₂ : L2capCid} {buffer : Buffer}
include h

theorem blind_hidCommand {channel : L2capCid} {data : List BYTE} :
    Blind f (hidCommand handle channel data) := by
  refine Program.parallel_bind (blind_call h id) fun _ => ?_
  refine Program.parallel_bind (blind_call h id) fun _ => ?_
  refine Program.parallel_bind (blind_writeBulkPipe h) fun _ => ?_
  exact Program.parallel_bind (blind_call h id) fun _ => Program.parallel_pure _

theorem blind_assignIf {c : Prop} {_ : Decidable c} {value : Assignment} :
    Blind f (device.assignIf c value) := blind_records h records_assignIf

theorem blind_enableHid : Blind f (enableHid device) := by
  refine Program.parallel_bind (blind_hidCommand h) fun _ => ?_
  refine Program.relates_ite (fun _ => Program.parallel_pure _) fun _ => ?_
  refine Program.parallel_bind (blind_hidCommand h) fun _ => ?_
  refine Program.relates_ite (fun _ => Program.parallel_pure _) fun _ => ?_
  exact Program.parallel_bind (blind_call h id) fun _ => Program.parallel_pure _

theorem relates_connectionResponse {identifier : BYTE} {result : L2capConnectionResponseResult}
    (hd : loose ∨ d₁ = d₂) :
    (l2capCommandConnectionResponse handle identifier scid d₁ result).Relates respond
      (World.Alike f) Eq (l2capCommandConnectionResponse handle identifier scid d₂ result) :=
  relates_writeBulkPipe h rfl (hd.imp_right fun hd => by rw [hd])

theorem relates_acceptConnection {identifier : BYTE} (hd : loose ∨ d₁ = d₂) :
    (acceptConnection handle identifier scid d₁).Relates respond (World.Alike f) Eq
      (acceptConnection handle identifier scid d₂) := by
  refine Program.relates_bind (relates_connectionResponse h hd) fun status _ hs => ?_
  cases hs
  refine Program.relates_ite (fun _ => Program.parallel_pure _) fun _ => ?_
  refine Program.relates_bind (relates_connectionResponse h hd) fun status _ hs => ?_
  cases hs
  refine Program.relates_ite (fun _ => Program.parallel_pure _) fun _ => ?_
  refine Program.parallel_bind (blind_call h id) fun _ => ?_
  exact Program.parallel_bind (blind_call h id) fun _ => blind_writeBulkPipe h

theorem relates_l2capSetConnectionType {psm : Option L2capPsm} (hd : loose ∨ psm ≠ none) :
    (l2capSetConnectionType device psm scid d₁).Relates respond (World.Alike f)
      (fun x y => x.1 = y.1 ∧ (loose ∨ x.2 = y.2)) (l2capSetConnectionType device psm scid d₂) := by
  cases psm with
  | none => exact Program.relates_pure ⟨rfl, hd.imp_right fun hn => absurd rfl hn⟩
  | some psm =>
    have hs : l2capSetConnectionType device (some psm) scid d₁ =
        l2capSetConnectionType device (some psm) scid d₂ := by cases psm <;> rfl
    rw [hs]
    intro w v he
    obtain ⟨hr, he'⟩ := blind_records h records_l2capSetConnectionType w v he
    exact ⟨⟨congrArg Prod.fst hr, .inr (congrArg Prod.snd hr)⟩, he'⟩

theorem blind_ds3ConnectionRequest
    (hx : loose ∨ L2capPsm.ofUshort (SignallingConnectionRequest.read (buffer.shift 8)).psm ≠ none) :
    Blind f (ds3ConnectionRequest device buffer) := by
  refine Program.relates_bind relates_localCid fun d₁ d₂ _ => ?_
  refine Program.relates_bind (relates_l2capSetConnectionType h hx) fun x y hxy => ?_
  obtain ⟨x₁, x₂⟩ := x
  obtain ⟨y₁, y₂⟩ := y
  obtain ⟨hdevice, hd⟩ := hxy
  cases hdevice
  refine Program.relates_bind (relates_acceptConnection h hd) fun status _ hs => ?_
  exact Program.relates_pure (congrArg (·, x₁) hs)

omit h in
theorem getScid_of_destination {dcid s₁ s₂ : L2capCid} (hd : device.isDestination dcid = true) :
    l2capDeviceGetScid device dcid s₁ = l2capDeviceGetScid device dcid s₂ := by
  unfold l2capDeviceGetScid
  rcases (Bool.or_eq_true _ _).mp hd with hd | hd
  · have hd : device.l2capInterruptHandle.destination = dcid := of_decide_eq_true hd
    simp [hd]
  · have hd : device.l2capCommandHandle.destination = dcid := of_decide_eq_true hd
    simp [hd]

theorem blind_ds3ConfigurationRequest (hx : loose ∨ device.isDestination
      (SignallingConfigurationRequest.read (buffer.shift 8)).dcid = true) :
    Blind f (ds3ConfigurationRequest device buffer) := by
  refine Program.relates_bind relates_localCid fun s₁ s₂ _ => ?_
  refine Program.relates_bind (blind_assignIf h) fun once _ hd => ?_
  cases hd
  refine Program.relates_bind (blind_assignIf h) fun configured _ hd => ?_
  cases hd
  refine Program.relates_bind (relates_writeBulkPipe h rfl ?_) fun status _ hs =>
    Program.relates_pure (congrArg (·, configured) hs)
  exact hx.imp_right fun hd => by rw [getScid_of_destination hd]

theorem blind_ds3ConfigurationResponse : Blind f (ds3ConfigurationResponse device buffer) := by
  refine Program.parallel_bind (blind_assignIf h) fun _ => ?_
  refine Program.parallel_bind (blind_assignIf h) fun _ => ?_
  refine Program.relates_ite (fun _ => ?_) fun _ => Program.parallel_pure _
  exact Program.parallel_bind (blind_enableHid h) fun _ => Program.parallel_pure _

theorem blind_ds3DisconnectionRequest : Blind f (ds3DisconnectionRequest device buffer) := by
  refine Program.relates_ite (fun _ => ?_) fun _ => blind_writeBulkPipe h
  exact Program.parallel_bind (blind_full h rfl) fun _ => blind_writeBulkPipe h

theorem blind_dispatchPacket (hx : loose ∨ ¬ (packetOf buffer).Exposes device) :
    Blind f (dispatchPacket device buffer) := by
  unfold packetOf at hx
  unfold dispatchPacket dispatchSignalling
  split
  · rename_i hcontrol
    rw [if_pos hcontrol] at hx
    cases hcode : L2capSignallingCommandCode.ofCode (buffer 8) with
    | none => exact Program.parallel_pure _
    | some code =>
      rw [hcode] at hx
      cases code with
      | connectionRequest =>
        exact Program.parallel_bind (blind_ds3ConnectionRequest h hx) fun _ =>
          Program.parallel_pure _
      | configurationRequest =>
        exact Program.parallel_bind (blind_ds3ConfigurationRequest h
          (hx.imp_right fun hd => eq_true_of_ne_false hd)) fun _ => Program.parallel_pure _
      | configurationResponse =>
        exact Program.parallel_bind (blind_ds3ConfigurationResponse h) fun _ =>
          Program.parallel_pure _
      | disconnectionRequest =>
        exact Program.parallel_bind (blind_ds3DisconnectionRequest h) fun _ =>
          Program.parallel_pure _
      | _ => exact Program.parallel_pure _
  · refine Program.relates_ite (fun _ => ?_) fun _ => Program.parallel_pure _
    cases device.deviceType with
    | ps3Dualshock =>
      exact Program.parallel_bind (blind_onRequests h onRequests_ds3ProcessHidInputReport) fun _ =>
        Program.parallel_pure _
    | _ => exact Program.parallel_pure _

end
-- the answers upon which the driver sends a packet that it has not written to its end
def AnswersHalfWritten (buffer : Buffer) (command : Option HciCommand) : Prop :=
  hciCommandSuccess buffer = true ∧
    (command = some .writeClassOfDevice ∨ command = some .writeExtendedInquiryResponse)

section

variable {f : Output → Output} {loose : Prop} (h : Presents f loose) {c : HciCommand}
  {buffer : Buffer} {command : Option HciCommand}
include h

theorem blind_sendNext (hc : c ∈ startupCommands)
    (hx : loose ∨ c ≠ .writeExtendedInquiryResponse ∧ c ≠ .writeLocalName) :
    Blind f (sendNext c) := by
  refine Program.parallel_bind ?_ fun _ => Program.parallel_pure _
  cases c <;> first
    | exact blind_full h rfl
    | exact blind_hciCommandWith h (by decide) (.inl (hx.resolve_right (by simp)))
    | exact absurd hc (by decide)

theorem blind_withoutPairing : Blind f withoutPairing :=
  Program.parallel_bind (blind_call h id) fun _ => blind_sendNext h (by decide) (by simp)

theorem blind_versionsRead : Blind f (versionsRead buffer) := by
  refine Program.parallel_bind (blind_call h id) fun _ => ?_
  refine Program.parallel_bind (blind_call h id) fun _ => ?_
  refine Program.parallel_bind (blind_call h id) fun context => ?_
  refine Program.relates_ite (fun _ => ?_) fun _ => Program.relates_ite (fun _ => ?_) fun _ => ?_
  · refine Program.parallel_bind (blind_full h rfl) fun status => ?_
    exact Program.relates_ite
      (fun _ => Program.parallel_bind (blind_call h id) fun _ => Program.parallel_pure _)
      fun _ => Program.parallel_pure _
  · exact blind_sendNext h (by decide) (by simp)
  · exact blind_sendNext h (by decide) (by simp)

theorem blind_commandDone {context : DeviceContext}
    (hx : loose ∨ ¬ AnswersHalfWritten buffer (some c)) : Blind f (commandDone buffer context c) := by
  have hloose (hs : hciCommandSuccess buffer = true)
      (hc : c = .writeClassOfDevice ∨ c = .writeExtendedInquiryResponse) : loose :=
    hx.resolve_right fun hn => hn ⟨hs, hc.imp (congrArg some) (congrArg some)⟩
  cases c with
  | reset =>
    refine Program.relates_ite (fun _ => ?_) fun _ => Program.parallel_pure _
    refine Program.parallel_bind (blind_call h id) fun _ => ?_
    exact Program.parallel_bind (blind_call h id) fun _ =>
      blind_sendNext h (by decide) (by simp)
  | readBdAddr =>
    refine Program.relates_ite (fun _ => ?_) fun _ => Program.parallel_pure _
    exact Program.parallel_bind (blind_call h id) fun _ =>
      blind_sendNext h (by decide) (by simp)
  | readLocalVersionInfo =>
    exact Program.relates_ite (fun _ => blind_versionsRead h) fun _ => Program.parallel_pure _
  | writeSimplePairingDebugMode => exact blind_sendNext h (by decide) (by simp)
  | writeScanEnable =>
    exact Program.relates_ite (fun _ => blind_call h id) fun _ => Program.parallel_pure _
  | writeClassOfDevice | writeExtendedInquiryResponse =>
    refine Program.relates_ite (fun hs => ?_) fun _ =>
      Program.relates_ite (fun _ => blind_withoutPairing h) fun _ => Program.parallel_pure _
    exact blind_sendNext h (by decide) (.inl (hloose hs (by simp)))
  | _ =>
    refine Program.relates_ite (fun _ => ?_) fun _ =>
      Program.relates_ite (fun _ => blind_withoutPairing h) fun _ => Program.parallel_pure _
    first
      | exact blind_sendNext h (by decide) (by simp)
      | exact Program.parallel_pure _

theorem blind_hciCommandCompleteEv (hx : loose ∨ ¬ AnswersHalfWritten buffer command) :
    Blind f (hciCommandCompleteEv buffer command) := by
  rw [hciCommandCompleteEv_eq]
  refine Program.parallel_bind (blind_call h id) fun context => ?_
  cases command with
  | none => exact Program.parallel_pure _
  | some c => exact blind_commandDone h hx

theorem blind_hciCommandStatusEv : Blind f (hciCommandStatusEv buffer command) := by
  rw [hciCommandStatusEv_eq]
  exact Program.relates_ite (fun _ => blind_withoutPairing h) fun _ => Program.parallel_pure _

theorem blind_addressed {d : HciCommand} {a : BdAddr} {rest : List BYTE} {size : Nat}
    (hs : 9 + rest.length = size) : Blind f (hciCommandWith d size (a.address ++ rest)) := by
  apply blind_full h
  rw [List.length_append, a.size]
  omega

theorem blind_hciConnectionRequestEv : Blind f (hciConnectionRequestEv buffer) := by
  refine Program.parallel_bind (blind_call h id) fun _ => ?_
  refine Program.parallel_bind (blind_call h id) fun _ => ?_
  refine Program.parallel_bind (blind_call h id) fun _ => ?_
  refine Program.relates_ite (fun _ => Program.parallel_pure _) fun _ => ?_
  refine Program.parallel_bind (blind_addressed h rfl) fun _ => ?_
  refine Program.relates_ite (fun _ => Program.parallel_pure _) fun _ => ?_
  exact Program.parallel_bind (blind_addressed h rfl) fun _ => Program.parallel_pure _

theorem blind_hciConnectionCompleteEv : Blind f (hciConnectionCompleteEv buffer) := by
  refine Program.relates_ite (fun _ => ?_) fun _ => Program.parallel_pure _
  refine Program.parallel_bind (blind_records h records_wireBusSetChildHandle) fun _ => ?_
  exact Program.parallel_bind (blind_addressed h rfl) fun _ => Program.parallel_pure _

theorem blind_dispatchEvent {event : HciEvent} {n : Nat} (hx : loose ∨
      ¬ (event = .commandComplete ∧ AnswersHalfWritten buffer (commandOf buffer))) :
    Blind f (dispatchEvent event buffer n) := by
  cases event with
  | commandComplete =>
    exact blind_hciCommandCompleteEv h (hx.imp_right fun hn hc => hn ⟨rfl, hc⟩)
  | commandStatus => exact blind_hciCommandStatusEv h
  | connectionRequest => exact blind_hciConnectionRequestEv h
  | connectionComplete => exact blind_hciConnectionCompleteEv h
  | disconnectionComplete => exact blind_records h records_hciDisconnectionCompleteEv
  | remoteNameRequestComplete => exact blind_records h records_hciRemoteNameRequestCompleteEv
  | _ => exact Program.parallel_pure _

theorem blind_wireChildOutputReportEvtTimerFunc {a : BdAddr} :
    Blind f (wireChildOutputReportEvtTimerFunc a) := by
  refine Program.parallel_bind (blind_call h id) fun r => ?_
  cases r with
  | error => exact Program.parallel_pure _
  | ok device =>
    dsimp only
    cases device.deviceType with
    | ps3Dualshock =>
      exact Program.parallel_bind (blind_call h id) fun _ =>
        Program.parallel_bind (blind_hidCommand h) fun _ => Program.parallel_pure _
    | _ => exact Program.parallel_pure _

theorem blind_wireShockEvtDeviceD0Entry : Blind f wireShockEvtDeviceD0Entry := by
  refine Program.parallel_bind (blind_silent h silent_startTargets) fun _ => ?_
  exact Program.parallel_bind (blind_full h rfl) fun _ => Program.parallel_pure _

theorem blind_wireShockEvtDeviceD0Exit : Blind f wireShockEvtDeviceD0Exit := by
  refine Program.parallel_bind (blind_call h id) fun _ => ?_
  refine Program.parallel_bind (blind_full h rfl) fun _ => ?_
  refine Program.parallel_bind (blind_call h id) fun _ => ?_
  refine Program.parallel_bind (blind_call h id) fun _ => ?_
  exact Program.parallel_bind (blind_call h id) fun _ => Program.parallel_pure _

end
end WireShock
