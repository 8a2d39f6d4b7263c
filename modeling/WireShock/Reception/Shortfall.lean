import WireShock.Connections.Handles
import WireShock.Reception.Packets

namespace WireShock
open Interaction

-- a driver with one connected child, one pending read request of the size the driver asks for,
-- and no call that fails
def connectedWithRead (a : BdAddr) (device : BthDevice) : World :=
  { World.initial .succeeding with
    children := ⟨[⟨a, device, true⟩], by simp⟩
    queues := fun _ => [0]
    outputBuffers := fun _ => List.replicate ds3HidInputReportSize 0 }

section

variable (a : BdAddr) (device : BthDevice)

theorem lookup_connectedWithRead : (connectedWithRead a device).children.lookup a = some device := by
  simp [connectedWithRead, ChildList.lookup]

theorem findByHandle_connectedWithRead :
    (connectedWithRead a device).children.findByHandle device.hciConnectionHandle = some (a, device) := by
  simp [connectedWithRead, ChildList.findByHandle, firstWithHandle]

theorem findByHandle_connectedWithRead_of_ne {handle : BthHandle} (h : device.hciConnectionHandle ≠ handle) :
    (connectedWithRead a device).children.findByHandle handle = none := by
  simp [connectedWithRead, ChildList.findByHandle, firstWithHandle, h]

end

theorem succ_ne (byte : BYTE) : byte + 1 ≠ byte := by
  revert byte
  decide

section Startup

def idle : World := connectedWithRead someAddress .zero

variable {b b' : Buffer} {n : Nat}

def World.reaction (w : World) : List (HciCommand × NTSTATUS) × Bool :=
  (w.radio.issued, w.context.initialized)

def reactionTo (c : HciCommand) (success oldVersion : Bool) : List (HciCommand × NTSTATUS) × Bool :=
  ((idle.clearLog.radio.completed c success oldVersion).issued, c = .writeScanEnable && success)

theorem initialized_hciCommandCompleteEv (c : HciCommand) :
    (exec (hciCommandCompleteEv b (some c)) idle.clearLog).2.context.initialized =
      (c = .writeScanEnable && hciCommandSuccess b) := by
  have hidle : idle.clearLog.context.initialized = false := rfl
  rw [context_hciCommandCompleteEv]
  cases hs : hciCommandSuccess b <;> cases c <;> simp [DeviceContext.done, hs, hidle]

theorem reaction_hciCommandCompleteEv (c : HciCommand) :
    (exec (hciCommandCompleteEv b (some c)) idle.clearLog).2.reaction =
      reactionTo c (hciCommandSuccess b) (oldVersion b) := by
  rw [World.reaction, radio_hciCommandCompleteEv, initialized_hciCommandCompleteEv, reactionTo]

theorem reactionTo_ne_idle : ∀ c ∈ startupCommands, ∀ success oldVersion,
    (success = true ∨ c = .writeSimplePairingDebugMode) →
      reactionTo c success oldVersion ≠ ([], false) := by
  decide +kernel

theorem reactionTo_success_ne : ∀ c ∈ startupCommands, c ≠ .writeSimplePairingDebugMode →
    ∀ oldVersion oldVersion', reactionTo c true oldVersion ≠ reactionTo c false oldVersion' := by
  decide +kernel

end Startup

section Events

variable {b : Buffer} {n : Nat}

abbrev onEvent (n : Nat) (b : Buffer) : World → World := fun w => w.step (.hci b n)

theorem onEvent_eq {event : HciEvent} (hpos : 1 ≤ n) (he : HciEvent.ofCode (b 0) = some event)
    (w : World) : onEvent n b w = (exec (dispatchEvent event b n) w.clearLog).2 := by
  have hn : n ≠ 0 := by omega
  rw [onEvent, step_hci, receivedEvent, if_neg hn, he]
  rfl

theorem needs_of_ne {b' : Buffer} (h : Same n b b') {β : Type} (observe : World → β) (w : World)
    (hne : observe (onEvent n b' w) ≠ observe (onEvent n b w)) :
    ¬ DependsOnPrefix transferLength n (onEvent n) b :=
  not_dependsOnPrefix h fun heq => hne (congrArg observe (congrFun heq w))

theorem needs_of_update {i : Nat} (hn : n ≤ i) (hi : i < transferLength) (byte : BYTE) {β : Type}
    (observe : World → β) (w : World)
    (hne : observe (onEvent n (Function.update b i byte) w) ≠ observe (onEvent n b w)) :
    ¬ DependsOnPrefix transferLength n (onEvent n) b :=
  needs_of_ne ((AgreeUpTo.refl b).update hn hi byte) observe w hne

theorem commandOf_complete (he : HciEvent.ofCode (b 0) = some .commandComplete) :
    commandOf b = HciCommand.ofBytes (b 3) (b 4) := by
  simp only [commandOf, he]

theorem commandOf_status (he : HciEvent.ofCode (b 0) = some .commandStatus) :
    commandOf b = HciCommand.ofBytes (b 4) (b 5) := by
  simp only [commandOf, he]

theorem reaction_complete (hpos : 1 ≤ n) (he : HciEvent.ofCode (b 0) = some .commandComplete)
    {c : HciCommand} (hc : HciCommand.ofBytes (b 3) (b 4) = some c) :
    (onEvent n b idle).reaction = reactionTo c (hciCommandSuccess b) (oldVersion b) := by
  rw [onEvent_eq hpos he, dispatchEvent, commandOf_complete he, hc, reaction_hciCommandCompleteEv]

theorem reaction_complete_idle (hpos : 1 ≤ n) (he : HciEvent.ofCode (b 0) = some .commandComplete)
    (hc : ∀ c ∈ HciCommand.ofBytes (b 3) (b 4), c ∉ startupCommands) :
    (onEvent n b idle).reaction = ([], false) := by
  rw [onEvent_eq hpos he, dispatchEvent, commandOf_complete he, hciCommandCompleteEv_idle hc]
  rfl

theorem reaction_ne_idle {b' : Buffer} (h : Same n b b') (hpos : 1 ≤ n)
    (he : HciEvent.ofCode (b 0) = some .commandComplete) {c : HciCommand}
    (hc : HciCommand.ofBytes (b' 3) (b' 4) = some c) (hmem : c ∈ startupCommands) (hs : b' 5 = 0)
    (hidle : ∀ c ∈ HciCommand.ofBytes (b 3) (b 4), c ∉ startupCommands) :
    ¬ DependsOnPrefix transferLength n (onEvent n) b := by
  have he' : HciEvent.ofCode (b' 0) = some .commandComplete := by rwa [h.at (i := 0) hpos]
  refine needs_of_ne h World.reaction idle ?_
  rw [reaction_complete_idle hpos he hidle, reaction_complete hpos he' hc]
  exact reactionTo_ne_idle c hmem _ _ (.inl (decide_eq_true hs))

theorem success_needs (hpos : 1 ≤ n) (hn : n < 6)
    (he : HciEvent.ofCode (b 0) = some .commandComplete) {c : HciCommand}
    (hc : HciCommand.ofBytes (b 3) (b 4) = some c) (hmem : c ∈ startupCommands)
    (hdebug : c ≠ .writeSimplePairingDebugMode) :
    ¬ DependsOnPrefix transferLength n (onEvent n) b := by
  have hcode (v : BYTE) : HciEvent.ofCode ((Function.update b 5 v) 0) = some .commandComplete := he
  cases hs : hciCommandSuccess b with
  | true =>
    refine needs_of_update (i := 5) (by omega) (by decide) 1 World.reaction idle ?_
    rw [reaction_complete hpos (hcode 1) hc, reaction_complete hpos he hc, hs]
    exact (reactionTo_success_ne c hmem hdebug _ _).symm
  | false =>
    refine needs_of_update (i := 5) (by omega) (by decide) 0 World.reaction idle ?_
    rw [reaction_complete hpos (hcode 0) hc, reaction_complete hpos he hc, hs]
    exact reactionTo_success_ne c hmem hdebug _ _

theorem readBdAddr_needs (hpos : 1 ≤ n) (hn : n < 12)
    (he : HciEvent.ofCode (b 0) = some .commandComplete)
    (hc : HciCommand.ofBytes (b 3) (b 4) = some .readBdAddr) (hs : hciCommandSuccess b = true) :
    ¬ DependsOnPrefix transferLength n (onEvent n) b := by
  by_cases h₆ : n < 6
  · exact success_needs hpos h₆ he hc (by decide) (by decide)
  have haddress (v : Buffer) (hv : HciEvent.ofCode (v 0) = some .commandComplete)
      (hc : HciCommand.ofBytes (v 3) (v 4) = some .readBdAddr) (hs : hciCommandSuccess v = true) :
      (onEvent n v idle).context.bluetoothHostAddress = BdAddr.fromBuffer v 6 := by
    rw [onEvent_eq hpos hv, dispatchEvent, commandOf_complete hv, hc, context_hciCommandCompleteEv,
      DeviceContext.done, if_pos hs]
  refine needs_of_update (i := 11) (by omega) (by decide) (b 11 + 1)
    (fun v => v.context.bluetoothHostAddress.address.getD 5 0) idle ?_
  rw [haddress b he hc hs, haddress (Function.update b 11 (b 11 + 1)) he hc hs]
  exact succ_ne (b 11)

theorem readLocalVersionInfo_needs (hpos : 1 ≤ n) (hn : n < 10)
    (he : HciEvent.ofCode (b 0) = some .commandComplete)
    (hc : HciCommand.ofBytes (b 3) (b 4) = some .readLocalVersionInfo)
    (hs : hciCommandSuccess b = true) :
    ¬ DependsOnPrefix transferLength n (onEvent n) b := by
  by_cases h₆ : n < 6
  · exact success_needs hpos h₆ he hc (by decide) (by decide)
  have hversion (v : Buffer) (hv : HciEvent.ofCode (v 0) = some .commandComplete)
      (hc : HciCommand.ofBytes (v 3) (v 4) = some .readLocalVersionInfo)
      (hs : hciCommandSuccess v = true) : (onEvent n v idle).context.lmpVersionMajor = v 9 := by
    rw [onEvent_eq hpos hv, dispatchEvent, commandOf_complete hv, hc, context_hciCommandCompleteEv,
      DeviceContext.done, if_pos hs]
  refine needs_of_update (i := 9) (by omega) (by decide) (b 9 + 1)
    (fun v => v.context.lmpVersionMajor) idle ?_
  rw [hversion b he hc hs, hversion (Function.update b 9 (b 9 + 1)) he hc hs]
  exact succ_ne (b 9)

theorem commandComplete_needs (hpos : 1 ≤ n) (he : HciEvent.ofCode (b 0) = some .commandComplete)
    (hn : n < commandCompleteLength b) : ¬ DependsOnPrefix transferLength n (onEvent n) b := by
  unfold commandCompleteLength at hn
  split at hn
  · rename_i hlsb
    have hsame : Same n b (Function.update (Function.update (Function.update b 3 0x05) 4 0x10) 5 0) :=
      (((AgreeUpTo.refl b).update (by omega) (by decide) _).update (by omega) (by decide) _).update
        (by omega) (by decide) _
    exact reaction_ne_idle hsame hpos he (c := .readBufferSize)
      (show HciCommand.ofBytes 0x05 0x10 = _ by decide) (by decide) rfl
      fun c hc hmem => hlsb c hmem (lsb_of_ofBytes hc)
  · rename_i hlsb
    have hidleNeeds (h₅ : n < 5) (hidle : ∀ c ∈ HciCommand.ofBytes (b 3) (b 4),
        c ∉ startupCommands) : ¬ DependsOnPrefix transferLength n (onEvent n) b := by
      obtain ⟨c, hmem, hc⟩ : ∃ c ∈ startupCommands, c.lsb = b 3 := by
        by_contra hnone
        exact hlsb fun c hmem hc => hnone ⟨c, hmem, hc⟩
      have hsame : Same n b (Function.update (Function.update b 4 c.msb) 5 0) :=
        ((AgreeUpTo.refl b).update (by omega) (by decide) _).update (by omega) (by decide) _
      have hcommand : HciCommand.ofBytes (b 3) c.msb = some c := by
        rw [← hc, HciCommand.ofBytes_lsb_msb]
      exact reaction_ne_idle hsame hpos he (c := c) hcommand hmem rfl hidle
    split at hn
    · rename_i hc
      exact hidleNeeds hn (by simp [hc])
    · rename_i c hc
      split at hn
      · rename_i hidle
        rcases hidle with hidle | rfl
        · refine hidleNeeds hn ?_
          rw [hc]
          rintro d ⟨⟩
          exact hidle
        · have hnone : HciCommand.ofBytes (b 3) 0 = none := by
            rw [← lsb_of_ofBytes hc]
            decide
          have hidle := reaction_complete_idle (b := Function.update b 4 0) hpos he (by
            rintro d (hd : HciCommand.ofBytes (b 3) 0 = some d)
            rw [hnone] at hd
            cases hd)
          refine needs_of_update (i := 4) (by omega) (by decide) 0 World.reaction idle ?_
          rw [hidle, reaction_complete hpos he hc]
          exact (reactionTo_ne_idle _ (by decide) _ _ (.inr rfl)).symm
      · rename_i hreacts
        rw [not_or, not_not] at hreacts
        split_ifs at hn with hs ha hv
        · exact success_needs hpos hn he hc hreacts.1 hreacts.2
        · subst ha
          exact readBdAddr_needs hpos hn he hc (by simpa using hs)
        · subst hv
          exact readLocalVersionInfo_needs hpos hn he hc (by simpa using hs)
        · exact success_needs hpos hn he hc hreacts.1 hreacts.2

theorem issued_status (hpos : 1 ≤ n) (he : HciEvent.ofCode (b 0) = some .commandStatus)
    (hb : b 2 ≠ 0) {c : HciCommand} (hc : HciCommand.ofBytes (b 4) (b 5) = some c)
    (hmem : c ∈ pairingCommands) : (onEvent n b idle).radio.issued ≠ [] := by
  have hissued : ∀ c ∈ pairingCommands, (idle.clearLog.radio.failed c).issued ≠ [] := by decide
  rw [onEvent_eq hpos he, dispatchEvent, commandOf_status he, hc, radio_hciCommandStatusEv,
    if_neg hb]
  exact hissued c hmem

theorem issued_status_idle (hpos : 1 ≤ n) (he : HciEvent.ofCode (b 0) = some .commandStatus)
    (h : b 2 = 0 ∨ ∀ c ∈ HciCommand.ofBytes (b 4) (b 5), c ∉ pairingCommands) :
    (onEvent n b idle).radio.issued = [] := by
  have hexec : exec (hciCommandStatusEv b (HciCommand.ofBytes (b 4) (b 5))) idle.clearLog =
      ((), idle.clearLog) := by
    rcases h with hb | h
    · simp [hciCommandStatusEv, hb]
    · exact hciCommandStatusEv_idle h
  rw [onEvent_eq hpos he, dispatchEvent, commandOf_status he, hexec]
  rfl

theorem commandStatus_needs (hpos : 1 ≤ n) (he : HciEvent.ofCode (b 0) = some .commandStatus)
    (hn : n < commandStatusLength b) : ¬ DependsOnPrefix transferLength n (onEvent n) b := by
  have hpairing : HciCommand.ofBytes 0x56 0x0C = some .writeSimplePairingMode := by decide
  unfold commandStatusLength at hn
  split_ifs at hn with hb hlsb
  · have hsame : Same n b (Function.update (Function.update (Function.update b 2 1) 4 0x56) 5 0x0C) :=
      (((AgreeUpTo.refl b).update (by omega) (by decide) _).update (by omega) (by decide) _).update
        (by omega) (by decide) _
    have hreacts := issued_status (n := n) hpos
      (b := Function.update (Function.update (Function.update b 2 1) 4 0x56) 5 0x0C) he
      (show (1 : BYTE) ≠ 0 by decide) hpairing (by decide)
    refine needs_of_ne hsame (fun v => v.radio.issued) idle ?_
    rwa [issued_status_idle hpos he (.inl hb)]
  · have hsame : Same n b (Function.update (Function.update b 4 0x56) 5 0x0C) :=
      ((AgreeUpTo.refl b).update (by omega) (by decide) _).update (by omega) (by decide) _
    have hreacts := issued_status (n := n) hpos
      (b := Function.update (Function.update b 4 0x56) 5 0x0C) he hb hpairing (by decide)
    refine needs_of_ne hsame (fun v => v.radio.issued) idle ?_
    rwa [issued_status_idle hpos he
      (.inr fun c hc hmem => hlsb c hmem (lsb_of_ofBytes hc))]
  · obtain ⟨c, hmem, hc⟩ : ∃ c ∈ pairingCommands, c.lsb = b 4 := by
      by_contra hnone
      exact hlsb fun c hmem hc => hnone ⟨c, hmem, hc⟩
    have hcommand : HciCommand.ofBytes (b 4) c.msb = some c := by
      rw [← hc, HciCommand.ofBytes_lsb_msb]
    have hreacts := issued_status (n := n) hpos (b := Function.update b 5 c.msb) he hb hcommand hmem
    have hidle := issued_status_idle (n := n) hpos (b := Function.update b 5 0) he (.inr (by
      intro d hd hd'
      have hnone : ∀ c ∈ pairingCommands, ∀ d ∈ HciCommand.ofBytes c.lsb 0, d ∉ pairingCommands := by
        decide
      exact hnone c hmem d (by rw [hc]; exact hd) hd'))
    -- one of the two contents of byte 5 differs in effect from what is there
    by_cases hown : (onEvent n b idle).radio.issued = []
    · refine needs_of_update (i := 5) (by omega) (by decide) c.msb (fun v => v.radio.issued) idle ?_
      rwa [hown]
    · refine needs_of_update (i := 5) (by omega) (by decide) 0 (fun v => v.radio.issued) idle ?_
      rw [hidle]
      exact Ne.symm hown

theorem fromBuffer_ne {b b' : Buffer} {offset : Nat} (h : b' (offset + 5) ≠ b (offset + 5)) :
    BdAddr.fromBuffer b' offset ≠ BdAddr.fromBuffer b offset :=
  fun heq => h (congrArg (fun a : BdAddr => a.address.getD 5 0) heq)

theorem linkEvent_eq (hpos : 1 ≤ n) {event : HciEvent} (he : HciEvent.ofCode (b 0) = some event) :
    (Event.hci b n).linkEvent = hciLinkEvent b event := by
  have hn : n ≠ 0 := by omega
  rw [Event.linkEvent, receivedEvent, if_neg hn, he]
  rfl

def deviceWithHandle (handle : BthHandle) : BthDevice :=
  { BthDevice.zero with hciConnectionHandle := handle }

theorem handle_connectedWithRead (a : BdAddr) (device : BthDevice) :
    (connectedWithRead a device).handle a = some device.hciConnectionHandle := by
  rw [World.handle, lookup_connectedWithRead]
  rfl

theorem connectionRequest_needs (hpos : 1 ≤ n) (he : HciEvent.ofCode (b 0) = some .connectionRequest)
    (hn : n < 8) : ¬ DependsOnPrefix transferLength n (onEvent n) b := by
  have haddress : BdAddr.fromBuffer (Function.update b 7 (b 7 + 1)) 2 ≠ BdAddr.fromBuffer b 2 :=
    fromBuffer_ne (succ_ne (b 7))
  refine needs_of_update (i := 7) (by omega) (by decide) (b 7 + 1)
    (fun v => v.handle (BdAddr.fromBuffer b 2)) (.initial .succeeding) ?_
  rw [onEvent, handle_step_requested _ (linkEvent_eq hpos (b := Function.update b 7 (b 7 + 1)) he),
    onEvent, handle_step_requested _ (linkEvent_eq hpos he), if_neg haddress.symm, if_pos rfl]
  exact (Option.some_ne_none _).symm

theorem connectionComplete_needs (hpos : 1 ≤ n)
    (he : HciEvent.ofCode (b 0) = some .connectionComplete)
    (hn : n < if b 2 = 0 then 11 else 3) :
    ¬ DependsOnPrefix transferLength n (onEvent n) b := by
  have hhandle : (⟨b 3, b 4⟩ : BthHandle).flagged ≠ ⟨b 3 + 1, 0⟩ :=
    fun h => succ_ne (b 3) (congrArg BthHandle.lsb h).symm
  have hopened (v : Buffer) (hv : HciEvent.ofCode (v 0) = some .connectionComplete) (h₂ : v 2 = 0) :
      (Event.hci v n).linkEvent = some (.opened (BdAddr.fromBuffer v 5) ⟨v 3, v 4⟩) := by
    rw [linkEvent_eq hpos hv, hciLinkEvent, if_pos h₂]
  split_ifs at hn with h₂
  · have haddress : BdAddr.fromBuffer (Function.update b 10 (b 10 + 1)) 5 ≠ BdAddr.fromBuffer b 5 :=
      fromBuffer_ne (succ_ne (b 10))
    refine needs_of_update (i := 10) (by omega) (by decide) (b 10 + 1)
      (fun v => v.handle (BdAddr.fromBuffer b 5))
      (connectedWithRead (BdAddr.fromBuffer b 5) (deviceWithHandle ⟨b 3 + 1, 0⟩)) ?_
    rw [onEvent, handle_step_opened _ (hopened (Function.update b 10 (b 10 + 1)) he h₂),
      onEvent, handle_step_opened _ (hopened b he h₂), if_neg haddress.symm, if_pos rfl,
      handle_connectedWithRead]
    exact fun h => hhandle (Option.some.inj h).symm
  · refine needs_of_update (i := 2) (by omega) (by decide) 0
      (fun v => v.handle (BdAddr.fromBuffer b 5))
      (connectedWithRead (BdAddr.fromBuffer b 5) (deviceWithHandle ⟨b 3 + 1, 0⟩)) ?_
    have hnothing (w : World) : onEvent n b w = w.clearLog := by
      rw [onEvent_eq hpos he, dispatchEvent]
      simp [hciConnectionCompleteEv, show b 2 ≠ 0#8 from h₂]
    have hbefore := handle_connectedWithRead (BdAddr.fromBuffer b 5) (deviceWithHandle ⟨b 3 + 1, 0⟩)
    have haddress : BdAddr.fromBuffer (Function.update b 2 0) 5 = BdAddr.fromBuffer b 5 := rfl
    rw [onEvent, handle_step_opened _ (hopened (Function.update b 2 0) he rfl), hnothing, haddress,
      if_pos rfl, hbefore]
    exact fun h => hhandle (Option.some.inj (h.trans hbefore))

theorem disconnectionComplete_needs (hpos : 1 ≤ n)
    (he : HciEvent.ofCode (b 0) = some .disconnectionComplete)
    (hn : n < if b 2 = 0 then 5 else 3) :
    ¬ DependsOnPrefix transferLength n (onEvent n) b := by
  let handle : BthHandle := (⟨b 3, b 4⟩ : BthHandle).flagged
  let w := connectedWithRead someAddress (deviceWithHandle handle)
  have hbefore : w.handle someAddress = some handle := handle_connectedWithRead _ _
  have hfound : w.children.findByHandle handle = some (someAddress, deviceWithHandle handle) :=
    findByHandle_connectedWithRead someAddress (deviceWithHandle handle)
  have hclosed (v : Buffer) (hv : HciEvent.ofCode (v 0) = some .disconnectionComplete)
      (h₂ : v 2 = 0) : (Event.hci v n).linkEvent = some (.closed ⟨v 3, v 4⟩) := by
    rw [linkEvent_eq hpos hv, hciLinkEvent, if_pos h₂]
  have hgone : (w.clearLog.remove someAddress).handle someAddress = none := by
    rw [World.handle, lookup_remove_world]
    simp
  have hremoved (v : Buffer) (hv : HciEvent.ofCode (v 0) = some .disconnectionComplete)
      (h₂ : v 2 = 0) (h₃ : v 3 = b 3) (h₄ : v 4 = b 4) :
      (onEvent n v w).handle someAddress = none := by
    rw [onEvent, step_closed w (hclosed v hv h₂), h₃, h₄, hfound]
    exact hgone
  split_ifs at hn with h₂
  · have hother : handle ≠ (⟨b 3, b 4 ^^^ 1⟩ : BthHandle).flagged := by
      have hbit : ∀ byte : BYTE, byte ||| 0x20 ≠ (byte ^^^ 1) ||| 0x20 := by decide
      exact fun h => hbit (b 4) (congrArg BthHandle.msb h)
    refine needs_of_update (i := 4) (by omega) (by decide) (b 4 ^^^ 1)
      (fun v => v.handle someAddress) w ?_
    rw [hremoved b he h₂ rfl rfl, onEvent,
      step_closed w (hclosed (Function.update b 4 (b 4 ^^^ 1)) he h₂)]
    have hnone : w.children.findByHandle (⟨b 3, b 4 ^^^ 1⟩ : BthHandle).flagged = none :=
      findByHandle_connectedWithRead_of_ne someAddress (deviceWithHandle handle) hother
    show World.handle (Option.elim (w.children.findByHandle (⟨b 3, b 4 ^^^ 1⟩ : BthHandle).flagged)
      _ _) someAddress ≠ none
    rw [hnone]
    exact fun h => Option.some_ne_none _ (hbefore.symm.trans h)
  · have hnothing : onEvent n b w = w.clearLog := by
      rw [onEvent_eq hpos he, dispatchEvent, exec_hciDisconnectionCompleteEv, if_neg h₂]
    refine needs_of_update (i := 2) (by omega) (by decide) 0 (fun v => v.handle someAddress) w ?_
    rw [hremoved (Function.update b 2 0) he rfl rfl rfl, hnothing]
    exact fun h => Option.some_ne_none _ (hbefore.symm.trans h.symm)

end Events

section Names

variable {w : World} {a : BdAddr} {device : BthDevice}

theorem pool_free? (p : Option Pointer) :
    (w.free? p).pool.bytes = w.pool.bytes ∧ (w.free? p).pool.next = w.pool.next := by
  cases p <;> exact ⟨rfl, rfl⟩

theorem bytes_modify {g : BthDevice → Driver BthDevice} {p : Pointer}
    (hg : ∀ device v, p < v.pool.next → (exec (g device) v).2.pool.bytes p = v.pool.bytes p)
    (hp : p < w.pool.next) : (w.modify a g).pool.bytes p = w.pool.bytes p := by
  cases h : w.children.lookup a with
  | none => rw [modify_of_none w a h]
  | some device =>
    rw [modify_of_some w a h]
    exact hg device w hp

theorem bytes_initOutputReport {p : Pointer} (hp : p < w.pool.next) :
    (exec (initOutputReport device) w).2.pool.bytes p = w.pool.bytes p := by
  have hfree := pool_free? (w := w) device.outputReportBuffer
  have hne : p ≠ (w.free? device.outputReportBuffer).pool.next := by
    rw [hfree.2]
    exact Nat.ne_of_lt hp
  cases ht : device.deviceType <;>
    simp [initOutputReport, ht, World.copy, World.allocate, Function.update_of_ne hne, hfree.1]

theorem pool_modify_setRemoteName (h : w.children.lookup a = some device) (name : List BYTE) :
    (w.modify a (setRemoteName name)).pool.bytes w.pool.next = name ∧
      (w.modify a (setRemoteName name)).pool.next = w.pool.next + 1 := by
  have hfree := pool_free? (w := w) device.remoteName
  rw [modify_of_some w a h]
  simp [setRemoteName, World.addOrUpdate, World.copy, World.allocate, hfree.2]

theorem bytes_rename (h : w.children.lookup a = some device) (name : List BYTE) (letter : BYTE) :
    (w.rename a name letter).pool.bytes w.pool.next = name := by
  obtain ⟨hbytes, hnext⟩ := pool_modify_setRemoteName h name
  have hlt : w.pool.next < (w.modify a (setRemoteName name)).pool.next := by
    rw [hnext]
    exact Nat.lt_succ_self _
  rw [World.rename]
  cases deviceTypeOfRemoteName letter with
  | none => rw [Option.elim_none, bytes_modify (fun _ _ => bytes_initOutputReport) hlt, hbytes]
  | some type =>
    have htype : ((w.modify a (setRemoteName name)).modify a (setDeviceType type)).pool =
        (w.modify a (setRemoteName name)).pool := by
      unfold World.modify
      split <;> rfl
    rw [Option.elim_some, bytes_modify (fun _ _ => bytes_initOutputReport) (by rwa [htype]), htype,
      hbytes]

variable {b : Buffer} {n : Nat}

theorem bytes_remoteName (hpos : 1 ≤ n)
    (he : HciEvent.ofCode (b 0) = some .remoteNameRequestComplete) (h₂ : b 2 = 0) :
    (onEvent n b (connectedWithRead (BdAddr.fromBuffer b 3) .zero)).pool.bytes 1 =
      b.bytes 9 (remoteNameLength b n) := by
  rw [onEvent_eq hpos he, dispatchEvent, exec_hciRemoteNameRequestCompleteEv, if_pos h₂]
  have hlookup : (connectedWithRead (BdAddr.fromBuffer b 3) .zero).clearLog.children.lookup
    (BdAddr.fromBuffer b 3) = some .zero := lookup_connectedWithRead _ _
  exact bytes_rename hlookup _ _

theorem remoteName_reaches (hnul : ∀ i, 9 ≤ i → i < n → b i ≠ 0) :
    remoteNameLength b n = max 9 n - 8 := by
  refine remoteNameLength_eq (by omega) (fun i hi hi' => ?_) (.inr (by omega)) (by omega)
  exact ⟨hnul (i + 8) (by omega) (by omega), by omega⟩

theorem getD_bytes (offset size i : Nat) (hi : i < size) :
    (b.bytes offset size).getD i 0 = b (offset + i) := by
  simp [Buffer.bytes, hi]

-- without a terminator among the received bytes, the byte after them is copied too
theorem remoteName_needs_next (hpos : 1 ≤ n) (hlt : n < transferLength)
    (he : HciEvent.ofCode (b 0) = some .remoteNameRequestComplete) (h₂ : b 2 = 0)
    (hnul : ∀ i, 9 ≤ i → i < n → b i ≠ 0) :
    ¬ DependsOnPrefix transferLength n (onEvent n) b := by
  let j := max 9 n
  have hj : n ≤ j ∧ 9 ≤ j ∧ j < transferLength :=
    ⟨Nat.le_max_right _ _, Nat.le_max_left _ _, Nat.max_lt.mpr ⟨by decide, hlt⟩⟩
  let b' : Buffer := Function.update b j (b j + 1)
  have hsame : Same n b b' := (AgreeUpTo.refl b).update hj.1 hj.2.2 _
  have hother (i : Nat) (hi : i ≠ j) : b' i = b i := Function.update_of_ne hi _ _
  have hcode : b' 0 = b 0 := hother 0 (by omega)
  have hstatus : b' 2 = b 2 := hother 2 (by omega)
  have haddress : BdAddr.fromBuffer b' 3 = BdAddr.fromBuffer b 3 := by
    have hbytes : b'.bytes 3 6 = b.bytes 3 6 := bytes_congr fun i _ hi => hother i (by omega)
    simp only [BdAddr.fromBuffer, hbytes]
  have hname (v : Buffer) (hv : ∀ i, 9 ≤ i → i < n → v i ≠ 0) :
      (v.bytes 9 (remoteNameLength v n)).getD (j - 9) 0 = v j := by
    rw [remoteName_reaches hv, getD_bytes 9 _ _ (by omega), Nat.add_sub_cancel' hj.2.1]
  have hb := bytes_remoteName hpos he h₂
  have hb' := bytes_remoteName (b := b') hpos (by rw [hcode]; exact he) (by rw [hstatus]; exact h₂)
  refine needs_of_ne hsame (fun v => (v.pool.bytes 1).getD (j - 9) 0)
    (connectedWithRead (BdAddr.fromBuffer b 3) .zero) ?_
  rw [hb, hname b hnul, ← haddress, hb',
    hname b' fun i hi hi' => by rw [hother i (by omega)]; exact hnul i hi hi']
  show Function.update b j (b j + 1) j ≠ b j
  rw [Function.update_self]
  exact succ_ne (b j)

theorem remoteNameRequestComplete_needs (hpos : 1 ≤ n) (hlimit : n ≤ transferLength)
    (he : HciEvent.ofCode (b 0) = some .remoteNameRequestComplete)
    (hn : n < remoteNameRequestCompleteLength b) :
    ¬ DependsOnPrefix transferLength n (onEvent n) b := by
  unfold remoteNameRequestCompleteLength at hn
  split at hn
  · rename_i h₂
    cases hfind : (List.range' 9 (transferLength - 9)).find? fun i => decide (b i = 0) with
    | none =>
      rw [hfind] at hn
      have hall := List.find?_eq_none.mp hfind
      refine remoteName_needs_next hpos hn he h₂ fun i hi hi' hz => ?_
      have hlt : i < transferLength := Nat.lt_of_lt_of_le hi' hlimit
      exact hall i (List.mem_range'_1.mpr ⟨hi, by rw [transferLength] at hlt ⊢; omega⟩)
        (decide_eq_true hz)
    | some k =>
      rw [hfind] at hn
      obtain ⟨-, hk, hbefore⟩ := List.find?_range'_eq_some.mp hfind
      have hlt : k < transferLength := by
        have := (List.mem_range'_1.mp hk).2
        rw [transferLength] at this ⊢
        omega
      have hnk : n ≤ k := Nat.le_of_lt_succ hn
      refine remoteName_needs_next hpos (by omega) he h₂ fun i hi hi' hz => ?_
      have hnot := hbefore i hi (by omega)
      rw [decide_eq_true hz] at hnot
      cases hnot
  · rename_i h₂
    have hb' := bytes_remoteName (b := Function.update b 2 0) hpos he rfl
    have hnothing : (onEvent n b (connectedWithRead (BdAddr.fromBuffer b 3) .zero)).pool.bytes 1 = [] := by
      rw [onEvent_eq hpos he, dispatchEvent, exec_hciRemoteNameRequestCompleteEv, if_neg h₂]
      rfl
    refine needs_of_update (i := 2) (by omega) (by decide) 0
      (fun v => v.pool.bytes 1) (connectedWithRead (BdAddr.fromBuffer b 3) .zero) ?_
    rw [hnothing]
    intro h
    have hlength := congrArg List.length (hb'.symm.trans h)
    rw [Buffer.length_bytes, List.length_nil] at hlength
    have := (remoteNameLength_spec (Function.update b 2 0) n).1
    omega

theorem event_needs (hpos : 1 ≤ n) (hlimit : n ≤ transferLength) (hn : n < eventLength b) :
    ¬ DependsOnPrefix transferLength n (onEvent n) b := by
  unfold eventLength at hn
  cases he : HciEvent.ofCode (b 0) with
  | none =>
    rw [he] at hn
    exact absurd hpos (Nat.not_le_of_lt hn)
  | some event =>
    rw [he] at hn
    cases event with
    | commandComplete => exact commandComplete_needs hpos he hn
    | commandStatus => exact commandStatus_needs hpos he hn
    | connectionRequest => exact connectionRequest_needs hpos he hn
    | connectionComplete => exact connectionComplete_needs hpos he hn
    | disconnectionComplete => exact disconnectionComplete_needs hpos he hn
    | remoteNameRequestComplete => exact remoteNameRequestComplete_needs hpos hlimit he hn
    | _ => exact absurd hpos (Nat.not_le_of_lt hn)

end Names

end WireShock
