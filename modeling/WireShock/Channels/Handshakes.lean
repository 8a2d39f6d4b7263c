import WireShock.Channels.Bookkeeping
import WireShock.Connections.ChildViews

namespace WireShock
open Interaction

-- what a controller and the driver have agreed on for a channel: the CID of each, and whether the
-- controller has answered the driver's own request on it
structure Handshake where
  peer : L2capCid
  assigned : L2capCid
  answered : Bool
deriving DecidableEq, Repr

def Handshake.answer (h : Handshake) (scid : L2capCid) : Handshake :=
  { h with answered := h.answered || scid = h.assigned }

abbrev Handshakes := L2capPsm → Option Handshake

-- a channel that the controller closes again has to be asked for again
def Handshakes.observe (hs : Handshakes) (cid : L2capCid) : Packet → Handshakes
  | .connectionRequest (some type) scid =>
    fun psm => if type = psm then some ⟨scid, cid, false⟩ else hs psm
  | .configurationResponse scid _ => fun psm => (hs psm).map fun h => h.answer scid
  | .disconnectionRequest dcid => fun psm => (hs psm).filter fun h => h.assigned ≠ dcid
  | _ => hs

def World.dispatched (w : World) (a : BdAddr) : Event → Option Packet
  | .acl buffer n => (w.received a (buffer, n)).map fun _ => packetOf buffer
  | _ => none

structure Watched where
  world : World
  handshakes : Handshakes

namespace Watched

def initial (w : World) : Watched := ⟨w, fun _ => none⟩

-- a child that is no longer listed has to begin anew
def step (a : BdAddr) (s : Watched) (e : Event) : Watched where
  world := s.world.step e
  handshakes :=
    if ((s.world.step e).children.lookup a).isSome then
      (s.world.dispatched a e).elim s.handshakes
        (s.handshakes.observe (newCid s.world.globalCid))
    else fun _ => none

end Watched

structure Openings where
  channel : L2capPsm → BthHandlePair
  established : L2capPsm → Bool

def openings : ChildView Openings where
  of device := ⟨device.channel, device.isEstablished⟩
  retype _ value := value
  handle _ _ := rfl
  deviceType _ _ := rfl
  remoteName _ _ := rfl
  report _ _ := rfl
  created _ _ _ := rfl

theorem named_openings (type : Option DsDeviceType) (value : Openings) :
    openings.named type value = value := by
  cases type <;> rfl

-- the record of a child holds at least what its handshakes have come to
def Openings.Follows (o : Openings) (hs : Handshakes) : Prop :=
  ∀ psm h, hs psm = some h → o.channel psm = ⟨h.peer, h.assigned⟩ ∧
    (h.answered = true → o.established psm = true)

namespace Watched

def Kept (a : BdAddr) (s : Watched) : Prop :=
  ∀ psm h, s.handshakes psm = some h →
    ∃ o, openings.look s.world a = some o ∧ o.Follows s.handshakes

theorem kept_initial (w : World) (a : BdAddr) : (initial w).Kept a := nofun

end Watched

section

variable {device : BthDevice} {hs : Handshakes} {cid : L2capCid} {packet : Packet}

theorem follows_connectionRequest {type : L2capPsm} {scid : L2capCid}
    (h : (openings.of device).Follows hs) :
    (openings.of (device.after cid (.connectionRequest (some type) scid))).Follows
      (hs.observe cid (.connectionRequest (some type) scid)) := by
  intro psm k hk
  have hc := channel_after device cid (.connectionRequest (some type) scid) psm
  have he := isEstablished_after device cid (.connectionRequest (some type) scid) psm
  by_cases ht : type = psm
  · have hk : some ⟨scid, cid, false⟩ = some k := (if_pos ht).symm.trans hk
    cases hk
    exact ⟨hc.trans (if_pos ht), nofun⟩
  · have hk : hs psm = some k := (if_neg ht).symm.trans hk
    obtain ⟨hchannel, hestablished⟩ := h psm k hk
    exact ⟨(hc.trans (if_neg ht)).trans hchannel, fun ha => he.trans (hestablished ha)⟩

theorem follows_configurationResponse {scid : L2capCid} {result : USHORT}
    (h : (openings.of device).Follows hs) :
    (openings.of (device.after cid (.configurationResponse scid result))).Follows
      (hs.observe cid (.configurationResponse scid result)) := by
  intro psm k hk
  have hc := channel_established device scid psm
  have he := isEstablished_established device scid psm
  obtain ⟨k', hk', rfl⟩ := Option.map_eq_some_iff.mp hk
  obtain ⟨hchannel, hestablished⟩ := h psm k' hk'
  refine ⟨hc.trans hchannel, fun ha => he.trans ?_⟩
  have hchannel : device.channel psm = ⟨k'.peer, k'.assigned⟩ := hchannel
  rw [hchannel]
  rcases Bool.or_eq_true _ _ ▸ ha with ha | ha
  · have hf : device.isEstablished psm = true := hestablished ha
    rw [hf, Bool.true_or]
  · rw [ha, Bool.or_true]

theorem follows_after (h : (openings.of device).Follows hs) :
    (openings.of (device.after cid packet)).Follows (hs.observe cid packet) := by
  have hkeep : ∀ {packet : Packet},
      (∀ psm, (device.after cid packet).channel psm = device.channel psm) →
      (∀ psm, (device.after cid packet).isEstablished psm = device.isEstablished psm) →
        (openings.of (device.after cid packet)).Follows hs := by
    intro packet hc he psm k hk
    obtain ⟨hchannel, hestablished⟩ := h psm k hk
    exact ⟨(hc psm).trans hchannel, fun ha => (he psm).trans (hestablished ha)⟩
  cases packet with
  | connectionRequest type scid =>
    cases type with
    | none => exact h
    | some type => exact follows_connectionRequest h
  | configurationRequest dcid =>
    exact hkeep (channel_after device cid _) (isEstablished_after device cid _)
  | configurationResponse scid result => exact follows_configurationResponse h
  | disconnectionRequest dcid =>
    intro psm k hk
    exact h psm k (Option.filter_eq_some_iff.mp hk).1
  | inputReport => exact h
  | other => exact h

end

namespace Watched

section

variable {s : Watched} {a : BdAddr} {e : Event}

theorem kept_of_isSome {device : BthDevice}
    (hl : (s.world.step e).children.lookup a = some device) (hf : (openings.of device).Follows
      ((s.world.dispatched a e).elim s.handshakes (s.handshakes.observe (newCid s.world.globalCid)))) :
    (s.step a e).Kept a := by
  have hs : (s.step a e).handshakes = (s.world.dispatched a e).elim s.handshakes
      (s.handshakes.observe (newCid s.world.globalCid)) := if_pos (by rw [hl]; rfl)
  exact fun _ _ _ => ⟨openings.of device, look_of_lookup openings hl, hs ▸ hf⟩

theorem follows_of_kept {device : BthDevice} (hk : s.Kept a)
    (hl : s.world.children.lookup a = some device) : (openings.of device).Follows s.handshakes := by
  intro psm h hh
  obtain ⟨o, ho, hf⟩ := hk psm h hh
  have he : openings.of device = o := Option.some.inj ((look_of_lookup openings hl).symm.trans ho)
  exact he ▸ hf psm h hh

theorem kept_step (hk : s.Kept a) : (s.step a e).Kept a := by
  cases hl : (s.world.step e).children.lookup a with
  | none =>
    have hs : (s.step a e).handshakes = fun _ => none := if_neg (by rw [hl]; simp)
    intro psm h hh
    rw [hs] at hh
    cases hh
  | some device =>
    refine kept_of_isSome hl ?_
    cases e with
    | acl buffer n =>
      cases hr : s.world.received a (buffer, n) with
      | none =>
        have hd : s.world.dispatched a (.acl buffer n) = none := by simp [World.dispatched, hr]
        have hsame := (World.lookup_stepAcl_of_none hr).symm.trans hl
        exact hd ▸ follows_of_kept hk hsame
      | some before =>
        have hd : s.world.dispatched a (.acl buffer n) = some (packetOf buffer) := by
          simp [World.dispatched, hr]
        have hafter := (World.lookup_stepAcl_of_received hr).symm.trans hl
        cases hafter
        rw [hd]
        exact follows_after (follows_of_kept hk (World.lookup_of_received hr))
    | _ =>
      intro psm h hh
      have hh : s.handshakes psm = some h := hh
      obtain ⟨o, ho, hf⟩ := hk psm h hh
      have hlook := look_of_lookup openings hl
      obtain ⟨value, hv, hsame⟩ | ⟨hn, -⟩ := knows_step_of_ne_acl rfl hlook
      · have he : openings.of device = o := by
          rw [hsame, named_openings]
          exact Option.some.inj (hv.symm.trans ho)
        exact he ▸ hf psm h hh
      · exact absurd (hn.symm.trans ho) (by simp)

theorem kept_runs (w : World) (a : BdAddr) (es : List Event) :
    (runs (step a) (initial w) es).Kept a :=
  runs_invariant (L := fun _ _ => True) (fun _ _ h _ => kept_step h) (kept_initial w a)
    (along_of_forall fun _ _ => trivial)

end

end Watched

def Output.isRelease : Output → Bool
  | .free _ _ => true
  | _ => false

namespace World

-- what a step puts out other than the release of its scratch buffers
def work (w : World) : List Output := w.log.filter fun o => !o.isRelease

-- the command that makes the controller report, its first output report and the timer that repeats
-- it, each once the one before it was sent
def enabling (w : World) (handle : BthHandle) (channel : L2capCid) (timer : Option Handle) :
    List Output :=
  .bulk (hidFrame handle channel hidCommandEnable) (w.environment.bulkStatus 0) ::
    if ntSuccess (w.environment.bulkStatus 0) then
      .bulk (hidFrame handle channel ds3HidOutputReport) (w.environment.bulkStatus 1) ::
        if ntSuccess (w.environment.bulkStatus 1) then [.timerStart timer] else []
    else []

end World

section

variable {w : World} {a : BdAddr} {device : BthDevice} {handle : BthHandle} {channel : L2capCid}
  {data : List BYTE}

theorem work_hidCommand : (exec (hidCommand handle channel data) w).2.work =
    w.work ++ [.bulk (hidFrame handle channel data) (w.environment.bulkStatus 0)] := by
  simp [hidCommand, World.work, World.free, World.sendBulk, World.copy, World.allocate,
    Output.isRelease]

theorem work_emit {o : Output} (ho : o.isRelease = false) :
    (w.emit o).work = w.work ++ [o] := by
  simp [World.work, World.emit, ho]

theorem bulkStatus_hidCommand (n : Nat) :
    (exec (hidCommand handle channel data) w).2.environment.bulkStatus n =
      w.environment.bulkStatus (n + 1) := rfl

theorem status_hidCommand : (exec (hidCommand handle channel data) w).1 =
    w.environment.bulkStatus 0 := rfl

theorem exec_hidCommand_then {k : NTSTATUS → Driver NTSTATUS} :
    (exec (do
      let status ← hidCommand handle channel data
      if !ntSuccess status then
        return status
      k status) w).2 = if ntSuccess (w.environment.bulkStatus 0) then
        (exec (k (w.environment.bulkStatus 0)) (exec (hidCommand handle channel data) w).2).2
      else (exec (hidCommand handle channel data) w).2 := by
  rw [exec_bind, status_hidCommand]
  cases ntSuccess (w.environment.bulkStatus 0) <;> rfl

theorem work_enableHid : (exec (enableHid device) w).2.work = w.work ++
    w.enabling device.hciConnectionHandle (device.channel .hidCommand).source
      device.outputReportTimer := by
  rw [enableHid, exec_hidCommand_then, exec_hidCommand_then, bulkStatus_hidCommand, World.enabling]
  split
  · split
    · rw [exec_bind, exec_timerStart, exec_pure, work_emit rfl, work_hidCommand, work_hidCommand,
        List.append_assoc, List.append_assoc]
      rfl
    · rw [work_hidCommand, work_hidCommand, List.append_assoc]
      rfl
  · exact work_hidCommand

theorem dispatchPacket_configurationResponse {buffer : Buffer} {scid : L2capCid} {result : USHORT}
    (h : packetOf buffer = .configurationResponse scid result) :
    dispatchPacket device buffer = (do
        let (_, device) ← ds3ConfigurationResponse device buffer
        return device) ∧
      (SignallingConfigurationResponse.read (buffer.shift 8)).scid = scid := by
  obtain ⟨code, hd, hc, hp⟩ := signalling_of_packetOf device h (by simp) (by simp)
  cases code <;> simp [signallingPacket] at hp
  exact ⟨by rw [hd, dispatchSignalling, hc], hp.1⟩

theorem exec_ds3ConfigurationResponse_both {buffer : Buffer} {scid : L2capCid}
    (hs : (SignallingConfigurationResponse.read (buffer.shift 8)).scid = scid)
    (hb : (device.established scid).bothEstablished = true) :
    (exec (ds3ConfigurationResponse device buffer) w).2 =
      (exec (enableHid (device.established scid)) w).2 := by
  have he := established_eq device scid
  dsimp only at he
  rw [BthDevice.bothEstablished] at hb
  simp only [ds3ConfigurationResponse, exec_bind, exec_assignIf, hs, he, hb, if_true]
  rfl

theorem work_configurationResponse {buffer : Buffer} {n : Nat} {scid : L2capCid} {result : USHORT}
    (hr : w.received a (buffer, n) = some device)
    (hp : packetOf buffer = .configurationResponse scid result)
    (hb : (device.established scid).bothEstablished = true) :
    (w.step (.acl buffer n)).work = w.enabling device.hciConnectionHandle
      (device.channel .hidCommand).source device.outputReportTimer := by
  obtain ⟨hd, hs⟩ := dispatchPacket_configurationResponse hp
  have hstep : (w.step (.acl buffer n)).work =
      (exec (ds3ConfigurationResponse device buffer) w.clearLog).2.work := by
    rw [World.work, World.work]
    refine congrArg (List.filter _) ?_
    have hacl := congrArg World.log (World.stepAcl_of_received hr)
    rw [hd, exec_bind] at hacl
    exact hacl
  rw [hstep, exec_ds3ConfigurationResponse_both hs hb, work_enableHid]
  exact List.nil_append _

end

namespace Watched

-- the packet that a step dispatches to the child is a Configuration Response, after which it has
-- answered the driver's requests on both channels
structure Completes (a : BdAddr) (s : Watched) (e : Event) (command : Handshake) : Prop where
  answers : ∃ scid result, s.world.dispatched a e = some (.configurationResponse scid result)
  command : (s.step a e).handshakes .hidCommand = some command ∧ command.answered = true
  interrupt : ∃ h, (s.step a e).handshakes .hidInterrupt = some h ∧ h.answered = true

theorem enables_of_completes {a : BdAddr} {s : Watched} {e : Event} {command : Handshake}
    (hk : s.Kept a) (hc : s.Completes a e command) :
    ∃ device, s.world.children.lookup a = some device ∧ (s.world.step e).work =
      s.world.enabling device.hciConnectionHandle command.peer device.outputReportTimer := by
  obtain ⟨scid, result, hd⟩ := hc.answers
  cases e with
  | acl buffer n =>
    obtain ⟨device, hr, hp⟩ := Option.map_eq_some_iff.mp hd
    have hl := World.lookup_stepAcl_of_received hr
    rw [hp] at hl
    have hf := follows_of_kept (kept_step hk (e := .acl buffer n)) hl
    obtain ⟨hcommand, hec⟩ := hf .hidCommand command hc.command.1
    obtain ⟨h, hh, ha⟩ := hc.interrupt
    have hb : (device.established scid).bothEstablished = true := by
      rw [bothEstablished_iff]
      intro psm
      cases psm with
      | hidCommand => exact hec hc.command.2
      | hidInterrupt => exact (hf .hidInterrupt h hh).2 ha
    have hpeer : (device.channel .hidCommand).source = command.peer := by
      have hsame := (channel_established device scid .hidCommand).symm.trans hcommand
      rw [hsame]
    refine ⟨device, World.lookup_of_received hr, ?_⟩
    rw [work_configurationResponse hr hp hb, hpeer]
  | _ => cases hd

-- however a controller's two handshakes run into each other and into whatever else happens, the
-- answer that completes them has the driver enable it, on the command channel it asked for
theorem enabled_when_completed (w : World) (a : BdAddr) (es : List Event) (e : Event)
    (command : Handshake) (hc : (runs (step a) (initial w) es).Completes a e command) :
    ∃ device, (runs (step a) (initial w) es).world.children.lookup a = some device ∧
      ((runs (step a) (initial w) es).world.step e).work =
        (runs (step a) (initial w) es).world.enabling device.hciConnectionHandle command.peer
          device.outputReportTimer := enables_of_completes (kept_runs w a es) hc

def event (p : AclPacket) : Event := .acl p.1 p.2

-- the interrupt channel is asked for before the command channel is answered, and a timer fires
-- in between
def bringUp : List Event :=
  [event (connectionRequestPacket 0x11 ⟨0x70, 0x00⟩),
    event (connectionRequestPacket 0x13 ⟨0x71, 0x00⟩),
    event (configurationResponsePacket ⟨0x41, 0x00⟩ 0x00), .timer someAddress]

def broughtUp : Watched :=
  runs (step someAddress) (initial (.connected someAddress freshDevice)) bringUp

theorem enabled_when_completed_bringUp :
    ∃ device, broughtUp.world.children.lookup someAddress = some device ∧
      (broughtUp.world.step (event (configurationResponsePacket ⟨0x40, 0x00⟩ 0x00))).work =
        broughtUp.world.enabling device.hciConnectionHandle ⟨0x70, 0x00⟩
          device.outputReportTimer :=
  enabled_when_completed (.connected someAddress freshDevice) someAddress bringUp _
    ⟨⟨0x70, 0x00⟩, ⟨0x40, 0x00⟩, true⟩
    ⟨⟨⟨0x40, 0x00⟩, 0, by decide +kernel⟩, ⟨by decide +kernel, rfl⟩,
      ⟨⟨⟨0x71, 0x00⟩, ⟨0x41, 0x00⟩, true⟩, by decide +kernel, rfl⟩⟩

end Watched
end WireShock
