import WireShock.Channels.Acceptance
import WireShock.Reception.Shortfall
import WireShock.Reports.Decoding

namespace WireShock
open Interaction

section

variable {b : Buffer} {n : Nat}

abbrev onPacket (n : Nat) (b : Buffer) : World → World := fun w => w.step (.acl b n)

theorem packet_needs_of_ne {b' : Buffer} (h : Same n b b') {β : Type} (observe : World → β)
    (w : World) (hne : observe (onPacket n b' w) ≠ observe (onPacket n b w)) :
    ¬ DependsOnPrefix transferLength n (onPacket n) b :=
  not_dependsOnPrefix h fun heq => hne (congrArg observe (congrFun heq w))

theorem packet_needs_of_update {i : Nat} (hn : n ≤ i) (hi : i < transferLength) (byte : BYTE)
    {β : Type} (observe : World → β) (w : World)
    (hne : observe (onPacket n (Function.update b i byte) w) ≠ observe (onPacket n b w)) :
    ¬ DependsOnPrefix transferLength n (onPacket n) b :=
  packet_needs_of_ne ((AgreeUpTo.refl b).update hn hi byte) observe w hne

-- the child the packet's handle belongs to; its command channel holds the CID that stands in the
-- packet's first channel field
def listener (b : Buffer) : BthDevice :=
  { BthDevice.zero with
    hciConnectionHandle := BthHandle.fromBuffer b 0
    l2capCommandHandle := ⟨⟨0, 0⟩, ⟨b 12, b 13⟩⟩
    deviceType := .ps3Dualshock
    hidInputReportQueue := some 1 }

def listening (b : Buffer) : World := connectedWithRead someAddress (listener b)

theorem onPacket_listening {v : Buffer} (hpos : 1 ≤ n) (h₀ : v 0 = b 0) (h₁ : v 1 = b 1) :
    onPacket n v (listening b) =
      (exec (dispatchPacket (listener b) v) (listening b).clearLog).2.addOrUpdate someAddress
        (exec (dispatchPacket (listener b) v) (listening b).clearLog).1 := by
  have hn : n ≠ 0 := by omega
  have hhandle : BthHandle.fromBuffer v 0 = (listener b).hciConnectionHandle := by
    simp [BthHandle.fromBuffer, listener, h₀, h₁]
  have hfound : (listening b).children.findByHandle (BthHandle.fromBuffer v 0) =
      some (someAddress, listener b) := by
    rw [hhandle]
    exact findByHandle_connectedWithRead someAddress (listener b)
  rw [onPacket, step_acl, if_neg hn, hfound]

theorem log_onPacket {v : Buffer} (hpos : 1 ≤ n) (h₀ : v 0 = b 0) (h₁ : v 1 = b 1) :
    (onPacket n v (listening b)).log =
      (exec (dispatchPacket (listener b) v) (listening b).clearLog).2.log := by
  rw [onPacket_listening hpos h₀ h₁]
  rfl

theorem lookup_onPacket {v : Buffer} (hpos : 1 ≤ n) (h₀ : v 0 = b 0) (h₁ : v 1 = b 1) :
    (onPacket n v (listening b)).children.lookup someAddress =
      some (exec (dispatchPacket (listener b) v) (listening b).clearLog).1 := by
  rw [onPacket_listening hpos h₀ h₁, World.addOrUpdate, ChildList.lookup_addOrUpdate, if_pos rfl]

theorem dispatchPacket_signalling {v : Buffer} (h : l2capIsControlChannel v = true)
    (device : BthDevice) : dispatchPacket device v = dispatchSignalling device v := by
  rw [dispatchPacket, if_pos h]

theorem dispatchPacket_report {v : Buffer} (h : l2capIsControlChannel v = false)
    (h₈ : v 8 = 0xA1) (h₉ : v 9 = 0x01) :
    dispatchPacket (listener b) v = do
      let _ ← ds3ProcessHidInputReport (listener b) v
      return listener b := by
  have hreport : l2capIsHidInputReport v = true := by
    rw [l2capIsHidInputReport, h₈, h₉]
    rfl
  rw [dispatchPacket, if_neg (by simp [h]), if_pos hreport]
  rfl

def reported (v : Buffer) : List BYTE :=
  ds3RawToSingleHidInputReport (v.shift 9) (List.replicate ds3HidInputReportSize 0) false

theorem log_report {v : Buffer} (h : l2capIsControlChannel v = false) (h₈ : v 8 = 0xA1)
    (h₉ : v 9 = 0x01) (h₁₀ : v 10 ≠ 0xFF) :
    (exec (dispatchPacket (listener b) v) (listening b).clearLog).2.log =
      [.complete 0 statusSuccess (reported v).length (reported v)] := by
  have hqueue : (listening b).clearLog.retrieveNextRequest (some 1) = (.ok 0,
      { (listening b).clearLog with
        queues := Function.update (listening b).clearLog.queues 1 [] }) := rfl
  have hbuffer : (listening b).clearLog.outputBuffers 0 = List.replicate ds3HidInputReportSize 0 := rfl
  have hmode : (listener b).configuration = ⟨.single, false⟩ := rfl
  have hq : (listener b).hidInputReportQueue = some 1 := rfl
  have hlog : (listening b).clearLog.log = [] := rfl
  rw [dispatchPacket_report h h₈ h₉]
  simp only [ds3ProcessHidInputReport, if_neg h₁₀, completeHidInputReport, hq, exec_bind,
    exec_ioQueueRetrieveNextRequest, hqueue, exec_requestRetrieveOutputBuffer, hbuffer,
    List.length_replicate, Nat.lt_irrefl, if_false, exec_requestCompleteWithInformation, exec_pure,
    completeSecondReport, hmode, translateHidInputReport, World.emit, hlog]
  rfl

theorem log_unheard {v : Buffer} (h : l2capIsControlChannel v = false)
    (hv : v 8 ≠ 0xA1 ∨ v 9 ≠ 0x01 ∨ v 10 = 0xFF) :
    (exec (dispatchPacket (listener b) v) (listening b).clearLog).2.log = [] := by
  by_cases hreport : v 8 = 0xA1 ∧ v 9 = 0x01
  · have h₁₀ : v 10 = 0xFF := by
      rcases hv with h₈ | h₉ | h₁₀
      · exact absurd hreport.1 h₈
      · exact absurd hreport.2 h₉
      · exact h₁₀
    rw [dispatchPacket_report h hreport.1 hreport.2, ds3ProcessHidInputReport, if_pos h₁₀]
    rfl
  · have hnot : l2capIsHidInputReport v = false := by
      rw [l2capIsHidInputReport, Bool.and_eq_false_iff, decide_eq_false_iff_not,
        decide_eq_false_iff_not]
      exact not_and_or.mp hreport
    rw [dispatchPacket, if_neg (by simp [h]), if_neg (by simp [hnot])]
    rfl

theorem reported_getD (v : Buffer) : (reported v).getD 19 0 = v 34 := by
  have hbody := ds3RawToHidInputReport_eq (v.shift 9) false (v.shift 9 0) (List.replicate 38 0)
    (by decide)
  have hset : (List.replicate ds3HidInputReportSize (0 : BYTE)).set 0 (v.shift 9 0) =
    v.shift 9 0 :: List.replicate 38 0 := rfl
  rw [reported, ds3RawToSingleHidInputReport, hset, hbody]
  rfl

theorem inputReport_needs (h : l2capIsControlChannel b = false) (hpos : 1 ≤ n)
    (hn : n < inputReportLength b) : ¬ DependsOnPrefix transferLength n (onPacket n) b := by
  have hreports {v : Buffer} (hsame : Same n b v) (h₀ : v 0 = b 0) (h₁ : v 1 = b 1)
      (hv : l2capIsControlChannel v = false) (h₈ : v 8 = 0xA1) (h₉ : v 9 = 0x01)
      (h₁₀ : v 10 ≠ 0xFF) (hb : b 8 ≠ 0xA1 ∨ b 9 ≠ 0x01 ∨ b 10 = 0xFF) :
      ¬ DependsOnPrefix transferLength n (onPacket n) b := by
    refine packet_needs_of_ne hsame World.log (listening b) ?_
    rw [log_onPacket hpos h₀ h₁, log_report hv h₈ h₉ h₁₀, log_onPacket (b := b) (v := b) hpos rfl rfl,
      log_unheard h hb]
    exact List.cons_ne_nil _ _
  unfold inputReportLength at hn
  split_ifs at hn with h₈ h₉ h₁₀
  · have hsame : Same n b (Function.update (Function.update (Function.update b 8 0xA1) 9 0x01) 10 0) :=
      (((AgreeUpTo.refl b).update (by omega) (by decide) _).update (by omega) (by decide) _).update
        (by omega) (by decide) _
    exact hreports hsame rfl rfl h rfl rfl (show (0 : BYTE) ≠ 0xFF by decide) (.inl h₈)
  · have hsame : Same n b (Function.update (Function.update b 9 0x01) 10 0) :=
      ((AgreeUpTo.refl b).update (by omega) (by decide) _).update (by omega) (by decide) _
    exact hreports hsame rfl rfl h (not_not.mp h₈) rfl (show (0 : BYTE) ≠ 0xFF by decide)
      (.inr (.inl h₉))
  · have hsame : Same n b (Function.update b 10 0) :=
      (AgreeUpTo.refl b).update (by omega) (by decide) _
    exact hreports hsame rfl rfl h (not_not.mp h₈) (not_not.mp h₉)
      (show (0 : BYTE) ≠ 0xFF by decide) (.inr (.inr h₁₀))
  · refine packet_needs_of_update (i := 34) (by omega) (by decide) (b 34 + 1) World.log
      (listening b) ?_
    rw [log_onPacket (b := b) (v := b) hpos rfl rfl,
      log_onPacket (b := b) (v := Function.update b 34 (b 34 + 1)) hpos rfl rfl,
      log_report h (not_not.mp h₈) (not_not.mp h₉) h₁₀,
      log_report (v := Function.update b 34 (b 34 + 1)) h (not_not.mp h₈) (not_not.mp h₉) h₁₀]
    intro heq
    have hreported := (Output.complete.inj (List.head_eq_of_cons_eq heq)).2.2.2
    have hbyte := congrArg (·.getD 19 0) hreported
    rw [reported_getD, reported_getD, Function.update_self] at hbyte
    exact succ_ne (b 34) hbyte

end

def Output.bulkByte (i : Nat) : Output → BYTE
  | .bulk packet _ => packet.getD i 0
  | _ => 0

section Answers

variable (w : World) (device : BthDevice) (v : Buffer)

theorem response_ds3ConnectionRequest :
    ∃ handle id dcid status rest, (exec (ds3ConnectionRequest device v) w).2.log =
      w.log ++ .bulk (l2capFrame handle (l2capConnectionResponse id
        (SignallingConnectionRequest.read (v.shift 8)).scid dcid .pending)) status :: rest :=
  ⟨_, _, _, _, _, log_ds3ConnectionRequest w device v⟩

theorem response_ds3DisconnectionRequest :
    ∃ handle id dcid status sent, (exec (ds3DisconnectionRequest device v) w).2.log =
      w.log ++ sent ++ [.bulk (l2capFrame handle (l2capDisconnectionResponse id dcid
        (SignallingDisconnectionRequest.read (v.shift 8)).scid)) status] := by
  simp only [ds3DisconnectionRequest, l2capCommandDisconnectionResponse]
  split
  · exact ⟨_, _, _, _, [_], rfl⟩
  · exact ⟨device.hciConnectionHandle, (SignallingDisconnectionRequest.read (v.shift 8)).identifier,
      (SignallingDisconnectionRequest.read (v.shift 8)).dcid, w.environment.bulkStatus 0, [],
      by simp [World.sendBulk]⟩

end Answers

section

variable {b : Buffer} {n : Nat}

theorem head_connectionRequest {v : Buffer} (h : l2capIsControlChannel v = true) (h₈ : v 8 = 0x02) :
    ((exec (dispatchPacket (listener b) v) (listening b).clearLog).2.log.headD
      (.timerStart none)).bulkByte 15 = v 15 ∧
    (exec (dispatchPacket (listener b) v) (listening b).clearLog).2.log ≠ [] := by
  have hcode : L2capSignallingCommandCode.ofCode (v 8) = some .connectionRequest := by
    rw [h₈]
    decide
  obtain ⟨handle, id, dcid, status, rest, hlog⟩ :=
    response_ds3ConnectionRequest (listening b).clearLog (listener b) v
  have hsame : (exec (dispatchPacket (listener b) v) (listening b).clearLog).2.log =
      (exec (ds3ConnectionRequest (listener b) v) (listening b).clearLog).2.log := by
    rw [dispatchPacket_signalling h, dispatchSignalling, hcode]
    simp only [exec_bind, exec_pure]
  rw [hsame, hlog]
  exact ⟨rfl, by simp⟩

theorem last_disconnectionRequest {v : Buffer} (h : l2capIsControlChannel v = true)
    (h₈ : L2capSignallingCommandCode.ofCode (v 8) = some .disconnectionRequest) :
    ((exec (dispatchPacket (listener b) v) (listening b).clearLog).2.log.getLastD
      (.timerStart none)).bulkByte 15 = v 15 := by
  obtain ⟨handle, id, dcid, status, sent, hlog⟩ :=
    response_ds3DisconnectionRequest (listening b).clearLog (listener b) v
  have hsame : (exec (dispatchPacket (listener b) v) (listening b).clearLog).2.log =
      (exec (ds3DisconnectionRequest (listener b) v) (listening b).clearLog).2.log := by
    rw [dispatchPacket_signalling h, dispatchSignalling, h₈]
    simp only [exec_bind, exec_pure]
  rw [hsame, hlog]
  simp [Output.bulkByte, l2capFrame, l2capDisconnectionResponse,
    SignallingDisconnectionRequest.read, BthHandle.fromBuffer, Buffer.shift]

theorem configured_configurationRequest {v : Buffer} (h : l2capIsControlChannel v = true)
    (h₈ : L2capSignallingCommandCode.ofCode (v 8) = some .configurationRequest) :
    (exec (dispatchPacket (listener b) v) (listening b).clearLog).1 =
      (listener b).configured ⟨v 12, v 13⟩ := by
  rw [dispatchPacket_signalling h, dispatchSignalling, h₈]
  simp only [exec_bind, exec_pure]
  exact (exec_ds3ConfigurationRequest (listening b).clearLog (listener b) v).1

theorem established_configurationResponse {v : Buffer} (h : l2capIsControlChannel v = true)
    (h₈ : L2capSignallingCommandCode.ofCode (v 8) = some .configurationResponse) :
    (exec (dispatchPacket (listener b) v) (listening b).clearLog).1 =
      (listener b).established ⟨v 12, v 13⟩ := by
  rw [dispatchPacket_signalling h, dispatchSignalling, h₈]
  simp only [exec_bind, exec_pure]
  exact (exec_ds3ConfigurationResponse (listening b).clearLog (listener b) v).1

theorem unanswered_needs (h : l2capIsControlChannel b = true) (hpos : 1 ≤ n) (hn : n ≤ 8)
    (hp : dispatchSignalling (listener b) b = pure (listener b)) :
    ¬ DependsOnPrefix transferLength n (onPacket n) b := by
  have hquiet : (exec (dispatchPacket (listener b) b) (listening b).clearLog).2.log = [] := by
    rw [dispatchPacket_signalling h, hp]
    rfl
  refine packet_needs_of_update hn (by decide) 0x02 World.log (listening b) ?_
  rw [log_onPacket (b := b) (v := b) hpos rfl rfl, hquiet,
    log_onPacket (b := b) (v := Function.update b 8 0x02) hpos rfl rfl]
  exact (head_connectionRequest (v := Function.update b 8 0x02) h rfl).2

theorem firstField_needs (h : l2capIsControlChannel b = true) (hpos : 1 ≤ n) (hn : n ≤ 13)
    (flag : BthDevice → Bool)
    (hflag : ∀ v, l2capIsControlChannel v = true → v 8 = b 8 →
      flag (exec (dispatchPacket (listener b) v) (listening b).clearLog).1 =
        decide ((⟨v 12, v 13⟩ : L2capCid) = ⟨b 12, b 13⟩)) :
    ¬ DependsOnPrefix transferLength n (onPacket n) b := by
  have hcid : (⟨b 12, b 13 + 1⟩ : L2capCid) ≠ ⟨b 12, b 13⟩ :=
    fun heq => succ_ne (b 13) (congrArg BthHandle.msb heq)
  have hother : Function.update b 13 (b 13 + 1) 12 = b 12 := rfl
  refine packet_needs_of_update hn (by decide) (b 13 + 1)
    (fun v => (v.children.lookup someAddress).map flag) (listening b) ?_
  rw [lookup_onPacket (b := b) (v := b) hpos rfl rfl,
    lookup_onPacket (b := b) (v := Function.update b 13 (b 13 + 1)) hpos rfl rfl,
    Option.map_some, Option.map_some, hflag b h rfl,
    hflag (Function.update b 13 (b 13 + 1)) h rfl, Function.update_self, hother,
    decide_eq_false hcid, decide_eq_true rfl]
  decide

theorem secondField_needs (h : l2capIsControlChannel b = true) (hpos : 1 ≤ n) (hn : n ≤ 15)
    (answer : List Output → Output)
    (hbyte : ∀ v, l2capIsControlChannel v = true → v 8 = b 8 →
      (answer (exec (dispatchPacket (listener b) v) (listening b).clearLog).2.log).bulkByte 15 =
        v 15) :
    ¬ DependsOnPrefix transferLength n (onPacket n) b := by
  refine packet_needs_of_update hn (by decide) (b 15 + 1) (fun v => (answer v.log).bulkByte 15)
    (listening b) ?_
  rw [log_onPacket (b := b) (v := b) hpos rfl rfl,
    log_onPacket (b := b) (v := Function.update b 15 (b 15 + 1)) hpos rfl rfl,
    hbyte b h rfl, hbyte (Function.update b 15 (b 15 + 1)) h rfl, Function.update_self]
  exact succ_ne (b 15)

theorem signalling_needs (h : l2capIsControlChannel b = true) (hpos : 1 ≤ n)
    (hn : n < signallingLength b) : ¬ DependsOnPrefix transferLength n (onPacket n) b := by
  unfold signallingLength at hn
  cases hc : L2capSignallingCommandCode.ofCode (b 8) with
  | none =>
    rw [hc] at hn
    exact unanswered_needs h hpos (Nat.le_of_lt_succ hn) (by rw [dispatchSignalling, hc])
  | some code =>
    rw [hc] at hn
    cases code with
    | connectionRequest =>
      have h₈ : b 8 = 0x02 := by
        have := List.find?_some hc
        simpa [L2capSignallingCommandCode.code] using (of_decide_eq_true this).symm
      exact secondField_needs h hpos (Nat.le_of_lt_succ hn) (·.headD (.timerStart none))
        fun v hv hv₈ => (head_connectionRequest hv (hv₈.trans h₈)).1
    | configurationRequest =>
      refine firstField_needs h hpos (Nat.le_of_lt_succ hn) BthDevice.isHidCommandConfigured
        fun v hv hv₈ => ?_
      rw [configured_configurationRequest hv (hv₈ ▸ hc)]
      exact Bool.false_or _
    | configurationResponse =>
      refine firstField_needs h hpos (Nat.le_of_lt_succ hn) BthDevice.isHidCommandEstablished
        fun v hv hv₈ => ?_
      rw [established_configurationResponse hv (hv₈ ▸ hc)]
      exact Bool.false_or _
    | disconnectionRequest =>
      exact secondField_needs h hpos (Nat.le_of_lt_succ hn) (·.getLastD (.timerStart none))
        fun v hv hv₈ => last_disconnectionRequest hv (hv₈ ▸ hc)
    | _ => exact unanswered_needs h hpos (Nat.le_of_lt_succ hn) (by rw [dispatchSignalling, hc])

theorem packet_needs (hpos : 1 ≤ n) (hn : n < packetLength b) :
    ¬ DependsOnPrefix transferLength n (onPacket n) b := by
  unfold packetLength at hn
  cases h : l2capIsControlChannel b with
  | true => exact signalling_needs h hpos (by simpa [h] using hn)
  | false => exact inputReport_needs h hpos (by simpa [h] using hn)

end

section

variable {n : Nat} (b : Buffer)

theorem received_only_iff (hpos : 1 ≤ n) (hlimit : n ≤ transferLength) :
    (DependsOnPrefix transferLength n (onEvent n) b ↔ eventLength b ≤ n) ∧
      (DependsOnPrefix transferLength n (onPacket n) b ↔ packetLength b ≤ n) := by
  constructor
  · exact dependsOnPrefix_iff
      (fun hn b' h => funext fun w => event_step_congr h w hpos hlimit hn)
      (event_needs hpos hlimit)
  · exact dependsOnPrefix_iff (fun hn b' h => funext fun w => packet_step_congr h hpos hn w)
      (packet_needs hpos)

-- a remote name that fills its 248 bytes and so has no terminator
def unterminatedName : Buffer := fun i =>
  if i < 9 then [0x07, 0xFF, 0x00, 0x01, 0x02, 0x03, 0x04, 0x05, 0x06].getD i 0
  else if i < 257 then 0x50 else 0x00

theorem received_only_iff_unterminatedName :
    (DependsOnPrefix transferLength 257 (onEvent 257) unterminatedName ↔
        eventLength unterminatedName ≤ 257) ∧
      (DependsOnPrefix transferLength 257 (onPacket 257) unterminatedName ↔
        packetLength unterminatedName ≤ 257) :=
  received_only_iff unterminatedName (by decide) (by decide)

theorem byte_past_transfer_copied :
    ¬ ∀ n, 1 ≤ n → n ≤ transferLength → ∀ b b', AgreeUpTo transferLength n b b' → ∀ w : World,
      w.step (.hci b' n) = w.step (.hci b n) ∧ w.step (.acl b' n) = w.step (.acl b n) := by
  intro hclaim
  have hnul (i : Nat) (hi : 9 ≤ i) (hi' : i < 257) : unterminatedName i ≠ 0 := by
    rw [unterminatedName, if_neg (Nat.not_lt_of_le hi), if_pos hi']
    decide
  refine remoteName_needs_next (n := 257) (b := unterminatedName) (by decide) (by decide) rfl rfl hnul ?_
  intro b' h
  funext w
  exact (hclaim 257 (by decide) (by decide) unterminatedName b' h w).1

end

end WireShock
