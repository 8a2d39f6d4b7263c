import WireShock.Channels.Link

namespace WireShock
open Interaction

structure ChannelHistory where
  opened : Option L2capCid
  localAnswered : Bool
  peerAnswered : Bool
  peerSucceeded : Bool
deriving DecidableEq, Repr

namespace ChannelHistory

def closed : ChannelHistory := ⟨none, false, false, false⟩

def observe (psm : L2capPsm) (cid : L2capCid) (history : ChannelHistory) : Packet → ChannelHistory
  | .connectionRequest (some type) _ =>
    if type = psm then { closed with opened := some cid } else history
  | .configurationRequest dcid =>
    if history.opened = some dcid then { history with localAnswered := true } else history
  | .configurationResponse scid result =>
    if history.opened = some scid then
      { history with
        peerAnswered := true
        peerSucceeded := history.peerSucceeded || result = 0 }
    else history
  | .disconnectionRequest dcid => if history.opened = some dcid then closed else history
  | _ => history

def Configured (history : ChannelHistory) : Prop :=
  history.opened.isSome ∧ history.localAnswered = true ∧ history.peerAnswered = true

instance (history : ChannelHistory) : Decidable history.Configured :=
  inferInstanceAs (Decidable (_ ∧ _ ∧ _))

end ChannelHistory

structure Link where
  world : World
  history : L2capPsm → ChannelHistory
  assigned : List L2capCid
  everOpened : L2capPsm → Bool

namespace Link

def initial (w : World) : Link := ⟨w, fun _ => .closed, [], fun _ => false⟩

def observe (s : Link) (packet : Packet) : Link where
  world := s.world
  history := fun psm => (s.history psm).observe psm (newCid s.world.globalCid) packet
  assigned := match packet with
    | .connectionRequest (some _) _ => newCid s.world.globalCid :: s.assigned
    | _ => s.assigned
  everOpened := match packet with
    | .connectionRequest (some type) _ => fun psm => type = psm || s.everOpened psm
    | _ => s.everOpened

def step (a : BdAddr) (s : Link) (p : AclPacket) : Link :=
  let observed := if (s.world.received a p).isSome then s.observe (packetOf p.1) else s
  { observed with world := s.world.stepAcl p }

section

variable {s : Link} {a : BdAddr} {p : AclPacket} {device : BthDevice}

@[simp] theorem world_step : (s.step a p).world = s.world.stepAcl p := rfl

theorem step_of_received (h : s.world.received a p = some device) :
    s.step a p = { s.observe (packetOf p.1) with world := s.world.stepAcl p } := by
  rw [step, h, Option.isSome_some, if_pos rfl]

theorem step_of_none (h : s.world.received a p = none) :
    s.step a p = { s with world := s.world.stepAcl p } := by
  rw [step, h]
  rfl

theorem history_of_received (h : s.world.received a p = some device) (psm : L2capPsm) :
    (s.step a p).history psm =
      (s.history psm).observe psm (newCid s.world.globalCid) (packetOf p.1) := by
  rw [step_of_received h]
  rfl

theorem lookup_of_received (h : s.world.received a p = some device) :
    (s.step a p).world.children.lookup a =
      some (device.after (newCid s.world.globalCid) (packetOf p.1)) :=
  World.lookup_stepAcl_of_received h

end

end Link

def BthDevice.isEstablished (device : BthDevice) : L2capPsm → Bool
  | .hidCommand => device.isHidCommandEstablished
  | .hidInterrupt => device.isHidInterruptEstablished

def BthDevice.isConfigured (device : BthDevice) : L2capPsm → Bool
  | .hidCommand => device.isHidCommandConfigured
  | .hidInterrupt => device.isHidInterruptConfigured

section

variable (device : BthDevice)

@[simp] theorem isEstablished_established (scid : L2capCid) (psm : L2capPsm) :
    (device.established scid).isEstablished psm =
      (device.isEstablished psm || scid = (device.channel psm).destination) := by
  cases psm <;> rfl

@[simp] theorem isEstablished_configured (dcid : L2capCid) (psm : L2capPsm) :
    (device.configured dcid).isEstablished psm = device.isEstablished psm := by
  cases psm <;> rfl

@[simp] theorem isEstablished_setChannel (type psm : L2capPsm) (pair : BthHandlePair) :
    (device.setChannel type pair).isEstablished psm = device.isEstablished psm := by
  cases type <;> cases psm <;> rfl

theorem channel_setChannel (type psm : L2capPsm) (pair : BthHandlePair) :
    (device.setChannel type pair).channel psm = if type = psm then pair else device.channel psm := by
  cases type <;> cases psm <;> rfl

@[simp] theorem channel_configured (dcid : L2capCid) (psm : L2capPsm) :
    (device.configured dcid).channel psm = device.channel psm := by
  cases psm <;> rfl

@[simp] theorem channel_established (scid : L2capCid) (psm : L2capPsm) :
    (device.established scid).channel psm = device.channel psm := by
  cases psm <;> rfl

theorem channel_after (cid : L2capCid) (packet : Packet) (psm : L2capPsm) :
    (device.after cid packet).channel psm = match packet with
      | .connectionRequest (some type) scid =>
        if type = psm then ⟨scid, cid⟩ else device.channel psm
      | _ => device.channel psm := by
  cases packet with
  | connectionRequest type scid =>
    cases type with
    | none => rfl
    | some type => exact channel_setChannel device type psm ⟨scid, cid⟩
  | configurationRequest dcid => exact channel_configured device dcid psm
  | configurationResponse scid result => exact channel_established device scid psm
  | _ => rfl

theorem isConfigured_after (cid : L2capCid) (packet : Packet) (psm : L2capPsm) :
    (device.after cid packet).isConfigured psm = match packet with
      | .configurationRequest dcid =>
        device.isConfigured psm || dcid = (device.channel psm).destination
      | _ => device.isConfigured psm := by
  cases packet with
  | connectionRequest type scid =>
    cases type with
    | none => rfl
    | some type => cases type <;> cases psm <;> rfl
  | _ => cases psm <;> rfl

theorem isEstablished_after (cid : L2capCid) (packet : Packet) (psm : L2capPsm) :
    (device.after cid packet).isEstablished psm = match packet with
      | .configurationResponse scid _ =>
        device.isEstablished psm || scid = (device.channel psm).destination
      | _ => device.isEstablished psm := by
  cases packet with
  | connectionRequest type scid =>
    cases type with
    | none => rfl
    | some type => exact isEstablished_setChannel device type psm ⟨scid, cid⟩
  | configurationRequest dcid => exact isEstablished_configured device dcid psm
  | configurationResponse scid result => exact isEstablished_established device scid psm
  | _ => rfl

theorem bothEstablished_iff :
    device.bothEstablished = true ↔ ∀ psm, device.isEstablished psm = true := by
  simp only [BthDevice.bothEstablished, Bool.and_eq_true]
  constructor
  · rintro ⟨hc, hi⟩ psm
    cases psm
    · exact hc
    · exact hi
  · intro h
    exact ⟨h .hidCommand, h .hidInterrupt⟩

theorem isDestination_iff (cid : L2capCid) :
    device.isDestination cid = true ↔ ∃ psm, (device.channel psm).destination = cid := by
  simp only [BthDevice.isDestination, Bool.or_eq_true, decide_eq_true_eq]
  constructor
  · rintro (h | h)
    · exact ⟨.hidInterrupt, h⟩
    · exact ⟨.hidCommand, h⟩
  · rintro ⟨psm, h⟩
    cases psm
    · exact Or.inr h
    · exact Or.inl h

end

end WireShock
