import WireShock.Interaction.Monitor
import WireShock.Semantics.Footprint

namespace WireShock
open Interaction

inductive DraftReport where
  | kept (pointer : Option Pointer)
  | allocated (pointer : Pointer)
  | filled (pointer : Pointer)
deriving DecidableEq

structure Draft where
  address : BdAddr
  name : Option Pointer
  report : DraftReport

def Draft.of (address : BdAddr) (device : BthDevice) : Draft :=
  ⟨address, device.remoteName, .kept device.outputReportBuffer⟩

def Draft.fill (q : Pointer) (d : Draft) : Draft :=
  if d.report = .allocated q then { d with report := .filled q } else d

-- what one callback is working on: the record it changes, the block it has allocated and not yet
-- handed on, and the source of the output report it is about to send
structure Workspace where
  draft : Option Draft
  block : Option Pointer
  pending : Option (Option Pointer)

namespace Workspace

def empty : Workspace := ⟨none, none, none⟩

def MayFree (m : Workspace) (q : Pointer) : Prop :=
  m.block = some q ∨ ∃ d ∈ m.draft, d.name = some q ∨ d.report = .kept (some q)

def MayWrite (m : Workspace) (q : Pointer) (data : List BYTE) : Prop :=
  m.block = some q ∨
    ∃ d ∈ m.draft, d.name = some q ∨ d.report = .allocated q ∧ data = ds3HidOutputReport

def MayPublish (m : Workspace) (a : BdAddr) (device : BthDevice) : Prop :=
  ∃ d ∈ m.draft, d.address = a ∧ d.name = device.remoteName ∧
    (d.report = .kept device.outputReportBuffer ∨
      ∃ q, d.report = .filled q ∧ device.outputReportBuffer = some q)

def retrieve (m : Workspace) (a : BdAddr) (r : Except NTSTATUS BthDevice) : Workspace :=
  { m with draft := r.toOption.map (Draft.of a) }

def tick (m : Workspace) (r : Except NTSTATUS BthDevice) : Workspace :=
  { m with pending := r.toOption.bind fun device =>
      if device.deviceType = .ps3Dualshock then some device.outputReportBuffer else none }

def free (m : Workspace) (q : Pointer) : Workspace :=
  if m.block = some q then { m with block := none } else m

def write (m : Workspace) (q : Pointer) : Workspace := { m with draft := m.draft.map (Draft.fill q) }

def name (m : Workspace) (q : Pointer) : Workspace :=
  { m with block := none, draft := m.draft.map fun d => { d with name := some q } }

def renew (m : Workspace) (q : Pointer) : Workspace :=
  { m with block := none, draft := m.draft.map fun d => { d with report := .allocated q } }

end Workspace

def workspaceMonitor : Monitor framework Workspace where
  allowed
    | .childListAddOrUpdateAsPresent a device, m => m.MayPublish a device
    | .childListUpdateAsMissing _, _ => False
    | .childListScan, _ => False
    | .pdoUpdateAddressDescription _ _, _ => False
    | .assign (.remoteName p), m => p.isSome ∧ p = m.block
    | .assign (.outputReportBuffer p), m => p.isSome ∧ p = m.block
    | .rtlCopyMemory q data, m => m.MayWrite q data
    | .exFreePoolWithTag q, m => m.MayFree q
    | .readPool source size, m => m.pending = some source ∧ size = ds3HidOutputReportSize
    | _, _ => True
  admits _ _ := True
  observe
    | .childListRetrieveAddressDescription a, r, m => m.retrieve a r
    | .childListAddOrUpdateAsPresent _ _, _, m => { m with draft := none }
    | .pdoRetrieveAddressDescription _, r, m => m.tick r
    | .assign (.remoteName (some q)), _, m => m.name q
    | .assign (.outputReportBuffer (some q)), _, m => m.renew q
    | .exAllocatePoolWithTag _, q, m => { m with block := some q }
    | .rtlCopyMemory q _, _, m => m.write q
    | .exFreePoolWithTag q, _, m => m.free q
    | .readPool _ _, _, m => { m with pending := none }
    | _, _, m => m

def Assignment.Pointerless : Assignment → Prop
  | .remoteName _ => False
  | .outputReportBuffer _ => False
  | _ => True

def Call.Unpooled : Call → Prop
  | .assign value => value.Pointerless
  | .getGlobalCid => True
  | .setGlobalCid _ => True
  | .getSignallingId => True
  | .setSignallingId _ => True
  | .localArray _ => True
  | .childListIterate => True
  | .timerStart _ => True
  | .sendControlRequest _ => True
  | .writeBulkPipe _ => True
  | .ioQueueRetrieveNextRequest _ => True
  | .requestRetrieveOutputBuffer _ _ => True
  | .requestComplete _ _ => True
  | .requestCompleteWithInformation _ _ _ _ => True
  | _ => False

section

variable {handle : BthHandle} {device : BthDevice} {buffer : Buffer}

theorem unpooled_l2capCommand {data : List BYTE} : (l2capCommand handle data).Uses Call.Unpooled :=
  uses_call trivial

theorem unpooled_assign {value : Assignment} (h : value.Pointerless) :
    (device.assign value).Uses Call.Unpooled := Program.uses_bind (uses_call h) fun _ => trivial

theorem unpooled_assignIf {c : Prop} [Decidable c] {value : Assignment} (h : value.Pointerless) :
    (device.assignIf c value).Uses Call.Unpooled :=
  Program.uses_ite (fun _ => unpooled_assign h) fun _ => trivial

theorem unpooled_localCid : localCid.Uses Call.Unpooled :=
  Program.uses_bind (uses_call trivial) fun _ => trivial

theorem unpooled_l2capGetNewCid : l2capGetNewCid.Uses Call.Unpooled :=
  Program.uses_bind (uses_call trivial) fun _ => Program.uses_bind (uses_call trivial) fun _ =>
    trivial

theorem unpooled_l2capSetConnectionType {type : Option L2capPsm} {scid dcid : L2capCid} :
    (l2capSetConnectionType device type scid dcid).Uses Call.Unpooled := by
  cases type with
  | none => trivial
  | some psm =>
    cases psm <;>
      exact Program.uses_bind unpooled_l2capGetNewCid fun _ =>
        Program.uses_bind (unpooled_assign trivial) fun _ =>
          Program.uses_bind (unpooled_assign trivial) fun _ => trivial

theorem unpooled_acceptConnection {id : BYTE} {scid dcid : L2capCid} :
    (acceptConnection handle id scid dcid).Uses Call.Unpooled := by
  refine Program.uses_bind unpooled_l2capCommand fun status => ?_
  refine Program.uses_ite (fun _ => trivial) fun _ => ?_
  refine Program.uses_bind unpooled_l2capCommand fun status => ?_
  refine Program.uses_ite (fun _ => trivial) fun _ => ?_
  refine Program.uses_bind (uses_call trivial) fun id => ?_
  exact Program.uses_bind (uses_call trivial) fun _ => unpooled_l2capCommand

theorem unpooled_ds3ConnectionRequest : (ds3ConnectionRequest device buffer).Uses Call.Unpooled := by
  refine Program.uses_bind unpooled_localCid fun dcid => ?_
  refine Program.uses_bind unpooled_l2capSetConnectionType fun channel => ?_
  exact Program.uses_bind unpooled_acceptConnection fun _ => trivial

theorem unpooled_ds3ConfigurationRequest :
    (ds3ConfigurationRequest device buffer).Uses Call.Unpooled := by
  refine Program.uses_bind unpooled_localCid fun scid => ?_
  refine Program.uses_bind (unpooled_assignIf trivial) fun device => ?_
  refine Program.uses_bind (unpooled_assignIf trivial) fun device => ?_
  exact Program.uses_bind unpooled_l2capCommand fun _ => trivial

theorem unpooled_ds3DisconnectionRequest :
    (ds3DisconnectionRequest device buffer).Uses Call.Unpooled := by
  refine Program.uses_ite (fun _ => ?_) fun _ => unpooled_l2capCommand
  refine Program.uses_bind (Program.uses_bind (uses_call trivial) fun _ => uses_call trivial)
    fun _ => unpooled_l2capCommand

theorem unpooled_completeHidInputReport {queue : Option Handle} {f : List BYTE → List BYTE} :
    (completeHidInputReport queue f).Uses Call.Unpooled := by
  refine Program.uses_bind (uses_call trivial) fun r => ?_
  cases r with
  | error => trivial
  | ok request =>
    refine Program.uses_bind (uses_call trivial) fun r => ?_
    cases r <;> exact Program.uses_bind (uses_call trivial) fun _ => trivial

theorem unpooled_ds3ProcessHidInputReport :
    (ds3ProcessHidInputReport device buffer).Uses Call.Unpooled := by
  refine Program.uses_ite (fun _ => trivial) fun _ => ?_
  refine Program.uses_bind unpooled_completeHidInputReport fun r => ?_
  cases r with
  | error => trivial
  | ok status =>
    refine Program.uses_ite (fun _ => ?_) fun _ => trivial
    refine Program.uses_bind unpooled_completeHidInputReport fun r => ?_
    cases r <;> trivial

end

def Drafts (a : BdAddr) (device : BthDevice) (m : Workspace) : Prop :=
  m.draft = some (Draft.of a device)

section

variable {m : Workspace} {a : BdAddr} {device : BthDevice} {buffer : Buffer}

theorem neutral_of_unpooled {c : Call} (h : c.Unpooled) : workspaceMonitor.Neutral c := by
  cases c with
  | assign value => cases value <;> first | exact fun _ => ⟨trivial, fun _ => rfl⟩ | exact h.elim
  | _ => first | exact fun _ => ⟨trivial, fun _ => rfl⟩ | exact h.elim

theorem keeps_unpooled {α : Type} {p : Driver α} (hp : p.Uses Call.Unpooled) :
    workspaceMonitor.Follows p (fun _ n => n = m) m :=
  Monitor.follows_of_uses (fun _ => neutral_of_unpooled) hp

theorem drafts_unpooled {α : Type} {p : Driver α} (hp : p.Uses Call.Unpooled)
    (hm : Drafts a device m) : workspaceMonitor.Follows p (fun _ n => Drafts a device n) m :=
  Monitor.follows_mono (Q := fun _ n => n = m) (fun _ _ hn => hn ▸ hm) (keeps_unpooled hp)

theorem reports_hidCommand {handle : BthHandle} {channel : L2capCid} {data : List BYTE} :
    workspaceMonitor.Follows (hidCommand handle channel data)
      (fun _ n => ∃ q, n.draft = m.draft.map (Draft.fill q)) m := by
  refine Monitor.follows_then trivial fun q _ => ?_
  refine Monitor.follows_then (Or.inl rfl) fun _ _ => ?_
  refine Monitor.follows_then trivial fun _ _ => ?_
  refine Monitor.follows_then (Or.inl rfl) fun _ _ => Monitor.follows_pure ⟨q, ?_⟩
  exact congrArg Workspace.draft (if_pos rfl)

theorem drafts_hidCommand {handle : BthHandle} {channel : L2capCid} {data : List BYTE}
    (hm : Drafts a device m) : workspaceMonitor.Follows (hidCommand handle channel data)
      (fun _ n => Drafts a device n) m := by
  refine Monitor.follows_mono (fun _ n hn => ?_) reports_hidCommand
  obtain ⟨q, hq⟩ := hn
  rw [Drafts, hq, hm]
  rfl

theorem drafts_enableHid {other : BthDevice} (hm : Drafts a device m) :
    workspaceMonitor.Follows (enableHid other) (fun _ n => Drafts a device n) m := by
  refine Monitor.follows_bind (drafts_hidCommand hm) fun status n hn => ?_
  refine Monitor.follows_ite (fun _ => Monitor.follows_pure hn) fun _ => ?_
  refine Monitor.follows_bind (drafts_hidCommand hn) fun status n hn => ?_
  refine Monitor.follows_ite (fun _ => Monitor.follows_pure hn) fun _ => ?_
  exact drafts_unpooled (Program.uses_bind (uses_call trivial) fun _ => trivial) hn

theorem drafts_ds3ConfigurationResponse {other : BthDevice} (hm : Drafts a device m) :
    workspaceMonitor.Follows (ds3ConfigurationResponse other buffer)
      (fun _ n => Drafts a device n) m := by
  refine Monitor.follows_bind (drafts_unpooled (unpooled_assignIf trivial) hm) fun _ _ hn => ?_
  refine Monitor.follows_bind (drafts_unpooled (unpooled_assignIf trivial) hn) fun _ _ hn => ?_
  refine Monitor.follows_ite (fun _ => ?_) fun _ => Monitor.follows_pure hn
  exact Monitor.follows_bind (drafts_enableHid hn) fun _ _ hn => Monitor.follows_pure hn

theorem drafts_dispatchSignalling {other : BthDevice} (hm : Drafts a device m) :
    workspaceMonitor.Follows (dispatchSignalling other buffer) (fun _ n => Drafts a device n) m := by
  unfold dispatchSignalling
  cases L2capSignallingCommandCode.ofCode (buffer 8) with
  | none => exact Monitor.follows_pure hm
  | some code =>
    cases code with
    | connectionRequest =>
      exact Monitor.follows_bind (drafts_unpooled unpooled_ds3ConnectionRequest hm) fun _ _ hn =>
        Monitor.follows_pure hn
    | configurationRequest =>
      exact Monitor.follows_bind (drafts_unpooled unpooled_ds3ConfigurationRequest hm)
        fun _ _ hn => Monitor.follows_pure hn
    | configurationResponse =>
      exact Monitor.follows_bind (drafts_ds3ConfigurationResponse hm) fun _ _ hn =>
        Monitor.follows_pure hn
    | disconnectionRequest =>
      exact Monitor.follows_bind (drafts_unpooled unpooled_ds3DisconnectionRequest hm)
        fun _ _ hn => Monitor.follows_pure hn
    | _ => exact Monitor.follows_pure hm

theorem drafts_dispatchPacket {other : BthDevice} (hm : Drafts a device m) :
    workspaceMonitor.Follows (dispatchPacket other buffer) (fun _ n => Drafts a device n) m := by
  refine Monitor.follows_ite (fun _ => drafts_dispatchSignalling hm) fun _ => ?_
  refine Monitor.follows_ite (fun _ => ?_) fun _ => Monitor.follows_pure hm
  cases other.deviceType with
  | ps3Dualshock =>
    exact Monitor.follows_bind (drafts_unpooled unpooled_ds3ProcessHidInputReport hm)
      fun _ _ hn => Monitor.follows_pure hn
  | _ => exact Monitor.follows_pure hm

theorem drafts_wireBusGetPdoAddressDescription :
    workspaceMonitor.Follows (wireBusGetPdoAddressDescription a)
      (fun r n => ∀ device ∈ r, Drafts a device n) m := by
  refine Monitor.follows_then trivial fun r _ => ?_
  cases r with
  | error status => exact Monitor.follows_pure fun _ h => nomatch h
  | ok device =>
    refine Monitor.follows_pure fun other ho => ?_
    cases ho
    rfl

theorem drafts_retrieveNextDevice {handle : BthHandle} {list : List (BdAddr × Bool)} :
    workspaceMonitor.Follows (retrieveNextDevice handle list)
      (fun r n => ∀ entry ∈ r, Drafts entry.1 entry.2 n) m := by
  induction list generalizing m with
  | nil => exact Monitor.follows_pure fun _ h => nomatch h
  | cons entry rest ih =>
    obtain ⟨address, created⟩ := entry
    refine Monitor.follows_ite (fun _ => Monitor.follows_pure fun _ h => nomatch h) fun _ => ?_
    refine Monitor.follows_bind drafts_wireBusGetPdoAddressDescription fun r n hn => ?_
    cases r with
    | none => exact Monitor.follows_pure fun _ h => nomatch h
    | some device =>
      refine Monitor.follows_ite (fun _ => Monitor.follows_pure ?_) fun _ => ih
      rintro entry he
      cases he
      exact hn device rfl

theorem publishes_wireBusSetPdoAddressDescription (h : m.MayPublish a device) :
    workspaceMonitor.Follows (do let _ ← wireBusSetPdoAddressDescription a device : Driver Unit)
      (fun _ _ => True) m :=
  Monitor.follows_bind (Q := fun _ _ => True)
    (Monitor.follows_then h fun _ _ => Monitor.follows_pure trivial) fun _ _ _ =>
      Monitor.follows_pure trivial

theorem mayPublish_of_drafts {other : BthDevice} (hm : Drafts a device m)
    (h : device.SameUpToChannels other) : m.MayPublish a other :=
  ⟨_, hm, rfl, (congrArg BthDevice.remoteName h :).symm,
    Or.inl (congrArg (fun d => DraftReport.kept (BthDevice.outputReportBuffer d)) h :).symm⟩

theorem follows_bulkReadPipe {n : Nat} :
    workspaceMonitor.Follows (wireShockEvtUsbBulkReadPipeReadComplete buffer n) (fun _ _ => True)
      m := by
  refine Monitor.follows_ite (fun _ => Monitor.follows_pure trivial) fun _ => ?_
  refine Monitor.follows_bind (Q := fun r n => ∀ entry ∈ r, Drafts entry.1 entry.2 n) ?_
    fun r n hn => ?_
  · exact Monitor.follows_bind (keeps_unpooled (uses_call trivial)) fun _ _ _ =>
      drafts_retrieveNextDevice
  · cases r with
    | none => exact Monitor.follows_pure trivial
    | some entry =>
      have hd : workspaceMonitor.Follows (dispatchPacket entry.2 buffer)
          (fun other n => Drafts entry.1 entry.2 n ∧ entry.2.SameUpToChannels other) n :=
        Monitor.follows_ensures (drafts_dispatchPacket (hn entry rfl)) traffic_dispatchPacket
      exact Monitor.follows_bind hd fun other n h =>
        publishes_wireBusSetPdoAddressDescription (mayPublish_of_drafts h.1 h.2)

theorem follows_draftDevice {f : BthDevice → Driver Unit}
    (hf : ∀ device n, Drafts a device n → workspaceMonitor.Follows (f device) (fun _ _ => True) n) :
    workspaceMonitor.Follows (do match ← wireBusGetPdoAddressDescription a with
        | none => return
        | some device => f device : Driver Unit) (fun _ _ => True) m := by
  refine Monitor.follows_bind drafts_wireBusGetPdoAddressDescription fun r n hn => ?_
  cases r with
  | none => exact Monitor.follows_pure trivial
  | some device => exact hf device n (hn device rfl)

theorem drafts_freeIfPresent {p : Option Pointer} (hm : Drafts a device m)
    (hp : p = device.remoteName ∨ p = device.outputReportBuffer) :
    workspaceMonitor.Follows (freeIfPresent p) (fun _ n => Drafts a device n) m := by
  cases p with
  | none => exact Monitor.follows_pure hm
  | some q =>
    refine Monitor.follows_perform (Or.inr ⟨_, hm, ?_⟩) fun _ _ => ?_
    · rcases hp with hp | hp
      · exact Or.inl hp.symm
      · exact Or.inr (congrArg DraftReport.kept hp.symm)
    · change Drafts a device (m.free q)
      unfold Workspace.free
      split
      · exact hm
      · exact hm

theorem follows_remoteName {name : List BYTE} :
    workspaceMonitor.Follows (wireBusSetChildRemoteName a name) (fun _ _ => True) m := by
  refine follows_draftDevice fun device n hn => ?_
  refine Monitor.follows_bind (drafts_freeIfPresent hn (Or.inl rfl)) fun _ n hn => ?_
  refine Monitor.follows_then trivial fun q _ => ?_
  refine Monitor.follows_then ⟨rfl, rfl⟩ fun _ _ => ?_
  have hdraft : (({ n with block := some q } : Workspace).name q).draft =
      some { Draft.of a device with name := some q } :=
    congrArg (Option.map fun d : Draft => ({ d with name := some q } : Draft)) hn
  refine Monitor.follows_then (Or.inr ⟨_, hdraft, Or.inl rfl⟩) fun _ _ => ?_
  refine publishes_wireBusSetPdoAddressDescription
    ⟨{ Draft.of a device with name := some q }, ?_, rfl, rfl, Or.inl rfl⟩
  exact (congrArg (Option.map (Draft.fill q)) hdraft).trans rfl

theorem follows_deviceType {deviceType : DsDeviceType} :
    workspaceMonitor.Follows (wireBusSetChildDeviceType a deviceType) (fun _ _ => True) m := by
  refine follows_draftDevice fun device n hn => ?_
  refine Monitor.follows_then trivial fun _ _ => ?_
  exact publishes_wireBusSetPdoAddressDescription ⟨_, hn, rfl, rfl, Or.inl rfl⟩

theorem follows_outputReport :
    workspaceMonitor.Follows (wireBusInitChildOutputReport a) (fun _ _ => True) m := by
  refine follows_draftDevice fun device n hn => ?_
  refine Monitor.follows_bind (Q := fun other n => n.MayPublish a other) ?_
    fun _ _ h => publishes_wireBusSetPdoAddressDescription h
  refine Monitor.follows_bind (drafts_freeIfPresent hn (Or.inr rfl)) fun _ n hn => ?_
  cases device.deviceType with
  | ps3Dualshock =>
    refine Monitor.follows_then trivial fun q _ => ?_
    refine Monitor.follows_then ⟨rfl, rfl⟩ fun _ _ => ?_
    have hdraft : (({ n with block := some q } : Workspace).renew q).draft =
        some { Draft.of a device with report := .allocated q } :=
      congrArg (Option.map fun d : Draft => ({ d with report := .allocated q } : Draft)) hn
    refine Monitor.follows_then (Or.inr ⟨_, hdraft, Or.inr ⟨rfl, rfl⟩⟩) fun _ _ => ?_
    refine Monitor.follows_pure
      ⟨{ Draft.of a device with report := .filled q }, ?_, rfl, rfl, Or.inr ⟨q, rfl, rfl⟩⟩
    exact (congrArg (Option.map (Draft.fill q)) hdraft).trans (by simp [Draft.fill])
  | _ => exact Monitor.follows_pure ⟨_, hn, rfl, rfl, Or.inl rfl⟩

theorem follows_remoteNameEvent {n : Nat} :
    workspaceMonitor.Follows (hciRemoteNameRequestCompleteEv buffer n) (fun _ _ => True) m := by
  refine Monitor.follows_ite (fun _ => ?_) fun _ => Monitor.follows_pure trivial
  refine Monitor.follows_bind follows_remoteName fun _ _ _ => ?_
  refine Monitor.follows_bind (Q := fun _ _ => True) ?_ fun _ _ _ => follows_outputReport
  unfold setDeviceTypeOfRemoteName
  cases deviceTypeOfRemoteName (buffer 9) with
  | none => exact Monitor.follows_pure trivial
  | some deviceType => exact follows_deviceType

theorem follows_timer :
    workspaceMonitor.Follows (wireChildOutputReportEvtTimerFunc a) (fun _ _ => True) m := by
  refine Monitor.follows_bind (Q := fun r n => n = m.tick r)
    (Monitor.follows_perform trivial fun _ _ => rfl) fun r n hn => ?_
  cases r with
  | error status => exact Monitor.follows_pure trivial
  | ok device =>
    dsimp only
    cases ht : device.deviceType with
    | ps3Dualshock =>
      have hp : n.pending = some device.outputReportBuffer := by
        rw [hn]
        exact if_pos ht
      refine Monitor.follows_then ⟨hp, rfl⟩ fun report _ => ?_
      exact Monitor.follows_bind reports_hidCommand fun _ _ _ => Monitor.follows_pure trivial
    | _ => exact Monitor.follows_pure trivial

end

end WireShock
