import WireShock.Reception.Lengths
import WireShock.Semantics.Bus

namespace WireShock
open Interaction

abbrev Same (n : Nat) (b b' : Buffer) : Prop := AgreeUpTo transferLength n b b'

section Commands

theorem ofCode_eq_some {value : USHORT} {c : HciCommand} (h : HciCommand.ofCode value = some c) :
    c.code = value := by
  simpa using List.find?_some h

theorem lsb_of_ofBytes {lsb msb : BYTE} {c : HciCommand}
    (h : HciCommand.ofBytes lsb msb = some c) : c.lsb = lsb := by
  rw [HciCommand.lsb, ofCode_eq_some h]
  ext i hi
  have hbit : (msb ++ lsb : USHORT).getLsbD i =
      if i < 8 then lsb.getLsbD i else msb.getLsbD (i - 8) := BitVec.getLsbD_append
  simp [hbit, hi]

theorem hciCommandCompleteEv_idle {w : World} {buffer : Buffer} {command : Option HciCommand}
    (h : ∀ c ∈ command, c ∉ startupCommands) :
    exec (hciCommandCompleteEv buffer command) w = ((), w) := by
  rw [hciCommandCompleteEv_eq]
  cases command with
  | none => rfl
  | some c =>
    have hc : c ∉ startupCommands := h c rfl
    cases c <;> first
      | exact absurd (by decide) hc
      | simp [commandDone, successor, supportsPairing]

theorem hciCommandStatusEv_idle {w : World} {buffer : Buffer} {command : Option HciCommand}
    (h : ∀ c ∈ command, c ∉ pairingCommands) :
    exec (hciCommandStatusEv buffer command) w = ((), w) := by
  have hpairing (c : HciCommand) (hc : supportsPairing c = true) : c ∈ pairingCommands := by
    cases c <;> first
      | decide
      | cases hc
  rw [hciCommandStatusEv_eq, if_neg]
  · rfl
  · rintro ⟨-, hany⟩
    obtain ⟨c, hc, hp⟩ := (Option.any_eq_true ..).mp hany
    exact h c hc (hpairing c hp)

theorem commandDone_congr {b b' : Buffer} {c : HciCommand} {context : DeviceContext}
    (hs : hciCommandSuccess b' = hciCommandSuccess b)
    (ha : c = .readBdAddr → hciCommandSuccess b = true → BdAddr.fromBuffer b' 6 = BdAddr.fromBuffer b 6)
    (hv : c = .readLocalVersionInfo → hciCommandSuccess b = true → b' 6 = b 6 ∧ b' 9 = b 9) :
    commandDone b' context c = commandDone b context c := by
  cases c with
  | readBdAddr =>
    rw [commandDone, commandDone, hs]
    split
    · next hsucc => rw [ha rfl hsucc]
    · rfl
  | readLocalVersionInfo =>
    rw [commandDone, commandDone, hs]
    split
    · next hsucc => rw [versionsRead, versionsRead, (hv rfl hsucc).1, (hv rfl hsucc).2]
    · rfl
  | _ => simp only [commandDone, hs]

theorem hciCommandCompleteEv_congr {b b' : Buffer} {c : HciCommand}
    (hs : hciCommandSuccess b' = hciCommandSuccess b)
    (ha : c = .readBdAddr → hciCommandSuccess b = true → BdAddr.fromBuffer b' 6 = BdAddr.fromBuffer b 6)
    (hv : c = .readLocalVersionInfo → hciCommandSuccess b = true → b' 6 = b 6 ∧ b' 9 = b 9) :
    hciCommandCompleteEv b' (some c) = hciCommandCompleteEv b (some c) := by
  rw [hciCommandCompleteEv_eq, hciCommandCompleteEv_eq]
  exact congrArg (getContext >>= ·) (funext fun _ => commandDone_congr hs ha hv)

end Commands

section Name

variable {buffer : Buffer} {n : Nat}

theorem scanRemoteName_eq {length fuel stop : Nat} (hle : length ≤ stop)
    (hgo : ∀ i, length ≤ i → i < stop → buffer (i + 8) ≠ 0 ∧ i + 8 < n)
    (hstop : buffer (stop + 8) = 0 ∨ n ≤ stop + 8) (hfuel : stop ≤ length + fuel) :
    scanRemoteName buffer n fuel length = stop := by
  induction fuel generalizing length with
  | zero => exact Nat.le_antisymm hle hfuel
  | succ fuel ih =>
    rw [scanRemoteName]
    rcases Nat.eq_or_lt_of_le hle with rfl | hlt
    · exact if_neg fun h => hstop.elim h.1 (Nat.not_le_of_lt h.2)
    · rw [if_pos (hgo length (Nat.le_refl _) hlt)]
      exact ih hlt (fun i hi => hgo i (Nat.le_of_succ_le hi)) (by omega)

theorem scanRemoteName_spec (length fuel : Nat) (hfuel : n ≤ length + 8 + fuel) :
    let stop := scanRemoteName buffer n fuel length
    length ≤ stop ∧ (∀ i, length ≤ i → i < stop → buffer (i + 8) ≠ 0 ∧ i + 8 < n) ∧
      (buffer (stop + 8) = 0 ∨ n ≤ stop + 8) := by
  induction fuel generalizing length with
  | zero => exact ⟨Nat.le_refl _, fun i h h' => absurd h' (Nat.not_lt_of_le h), .inr hfuel⟩
  | succ fuel ih =>
    rw [scanRemoteName]
    by_cases h : buffer (length + 8) ≠ 0 ∧ length + 8 < n
    · rw [if_pos h]
      obtain ⟨h₁, h₂, h₃⟩ := ih (length + 1) (by omega)
      refine ⟨Nat.le_of_succ_le h₁, fun i hi hi' => ?_, h₃⟩
      rcases Nat.eq_or_lt_of_le hi with rfl | hlt
      · exact h
      · exact h₂ i hlt hi'
    · rw [if_neg h]
      refine ⟨Nat.le_refl _, fun i h h' => absurd h' (Nat.not_lt_of_le h), ?_⟩
      by_cases hz : buffer (length + 8) = 0
      · exact .inl hz
      · exact .inr (Nat.le_of_not_lt fun hlt => h ⟨hz, hlt⟩)

theorem remoteNameLength_eq {stop : Nat} (hle : 1 ≤ stop)
    (hgo : ∀ i, 1 ≤ i → i < stop → buffer (i + 8) ≠ 0 ∧ i + 8 < n)
    (hstop : buffer (stop + 8) = 0 ∨ n ≤ stop + 8) (hn : stop ≤ n + 1) :
    remoteNameLength buffer n = stop :=
  scanRemoteName_eq hle hgo hstop (by omega)

theorem remoteNameLength_spec (buffer : Buffer) (n : Nat) :
    1 ≤ remoteNameLength buffer n ∧
      (∀ i, 1 ≤ i → i < remoteNameLength buffer n → buffer (i + 8) ≠ 0 ∧ i + 8 < n) ∧
      (buffer (remoteNameLength buffer n + 8) = 0 ∨ n ≤ remoteNameLength buffer n + 8) :=
  scanRemoteName_spec 1 n (by omega)

theorem remoteNameLength_congr {b b' : Buffer} (h : Same n b b') (hn : 9 ≤ n) :
    remoteNameLength b' n = remoteNameLength b n := by
  obtain ⟨h₁, h₂, h₃⟩ := remoteNameLength_spec b n
  have hlength : remoteNameLength b n ≤ n + 1 := by
    by_contra hlt
    have := (h₂ (n + 1) (by omega) (by omega)).2
    omega
  refine remoteNameLength_eq h₁ (fun i hi hi' => ?_) ?_ hlength
  · obtain ⟨hz, hlt⟩ := h₂ i hi hi'
    exact ⟨by rwa [h.at hlt], hlt⟩
  · rcases Nat.lt_or_ge (remoteNameLength b n + 8) n with hlt | hge
    · left
      rw [h.at hlt]
      exact h₃.resolve_right (Nat.not_le_of_lt hlt)
    · exact .inr hge

end Name

section Bytes

variable {n : Nat} {b b' : Buffer}

theorem bytes_congr {offset size : Nat} (h : ∀ i, offset ≤ i → i < offset + size → b' i = b i) :
    b'.bytes offset size = b.bytes offset size :=
  List.map_congr_left fun i hi => h (offset + i) (by omega) (by
    have := List.mem_range.mp hi
    omega)

theorem bdAddr_congr (h : Same n b b') {offset : Nat} (hn : offset + 6 ≤ n) :
    BdAddr.fromBuffer b' offset = BdAddr.fromBuffer b offset := by
  have hbytes : b'.bytes offset 6 = b.bytes offset 6 := bytes_congr fun i _ hi => h.at (by omega)
  simp only [BdAddr.fromBuffer, hbytes]

end Bytes

section Reads

variable {n : Nat} {b b' : Buffer} (h : Same n b b') (w : World)

include h

theorem commandComplete_congr (he : HciEvent.ofCode (b 0) = some .commandComplete)
    (he' : HciEvent.ofCode (b' 0) = some .commandComplete) (hn : commandCompleteLength b ≤ n) :
    exec (hciCommandCompleteEv b' (commandOf b')) w = exec (hciCommandCompleteEv b (commandOf b)) w := by
  simp only [commandOf, he, he']
  unfold commandCompleteLength at hn
  split at hn
  · rename_i hlsb
    have h₃ : b' 3 = b 3 := h.at (by omega)
    have hidle (v : Buffer) (hv : v 3 = b 3) : ∀ c ∈ HciCommand.ofBytes (v 3) (v 4),
        c ∉ startupCommands :=
      fun c hc hmem => hlsb c hmem ((lsb_of_ofBytes hc).trans hv)
    rw [hciCommandCompleteEv_idle (hidle b rfl), hciCommandCompleteEv_idle (hidle b' h₃)]
  · have h₅ : 5 ≤ n := by
      split at hn
      · exact hn
      · split_ifs at hn <;> omega
    rw [h.at (i := 3) (by omega), h.at (i := 4) (by omega)]
    split at hn
    · rename_i hc
      rw [hc, hciCommandCompleteEv_idle (by simp), hciCommandCompleteEv_idle (by simp)]
    · rename_i c hc
      rw [hc]
      split at hn
      · rename_i hidle
        rcases hidle with hidle | rfl
        · have hnone : ∀ d ∈ some c, d ∉ startupCommands := by
            rintro d ⟨⟩
            exact hidle
          rw [hciCommandCompleteEv_idle hnone, hciCommandCompleteEv_idle hnone]
        · rw [hciCommandCompleteEv_eq, hciCommandCompleteEv_eq]
          rfl
      · have h₆ : 6 ≤ n := by split_ifs at hn <;> omega
        have hs : hciCommandSuccess b' = hciCommandSuccess b := by
          rw [hciCommandSuccess, hciCommandSuccess, h.at h₆]
        rw [hciCommandCompleteEv_congr hs]
        · rintro rfl hsucc
          exact bdAddr_congr h (by simpa [hsucc] using hn)
        · rintro rfl hsucc
          have h₁₀ : 10 ≤ n := by simpa [hsucc] using hn
          exact ⟨h.at (by omega), h.at (by omega)⟩

theorem commandStatus_congr (he : HciEvent.ofCode (b 0) = some .commandStatus)
    (he' : HciEvent.ofCode (b' 0) = some .commandStatus) (hn : commandStatusLength b ≤ n) :
    exec (hciCommandStatusEv b' (commandOf b')) w = exec (hciCommandStatusEv b (commandOf b)) w := by
  simp only [commandOf, he, he']
  have h₃ : 3 ≤ n := by
    unfold commandStatusLength at hn
    split_ifs at hn <;> omega
  have hstatus (c : Option HciCommand) : hciCommandStatusEv b' c = hciCommandStatusEv b c := by
    simp only [hciCommandStatusEv, h.at h₃]
  rw [hstatus]
  by_cases hb : b 2 = 0
  · simp [hciCommandStatusEv, hb]
  · rw [commandStatusLength, if_neg hb] at hn
    split_ifs at hn with hlsb
    · have hidle (v : Buffer) (hv : v 4 = b 4) : ∀ c ∈ HciCommand.ofBytes (v 4) (v 5),
          c ∉ pairingCommands :=
        fun c hc hmem => hlsb c hmem ((lsb_of_ofBytes hc).trans hv)
      rw [hciCommandStatusEv_idle (hidle b rfl), hciCommandStatusEv_idle (hidle b' (h.at (by omega)))]
    · rw [h.at (i := 4) (by omega), h.at (i := 5) (by omega)]

theorem connectionRequest_congr (hn : 8 ≤ n) : hciConnectionRequestEv b' = hciConnectionRequestEv b := by
  simp only [hciConnectionRequestEv, bdAddr_congr h hn]

theorem connectionComplete_congr (hn : (if b 2 = 0 then 11 else 3) ≤ n) :
    hciConnectionCompleteEv b' = hciConnectionCompleteEv b := by
  have h₃ : 3 ≤ n := by split_ifs at hn <;> omega
  by_cases hb : b 2 = 0#8
  · have h₁₁ : 11 ≤ n := by simpa [hb] using hn
    simp only [hciConnectionCompleteEv, h.at h₃, h.at (i := 3) (by omega), h.at (i := 4) (by omega),
      bdAddr_congr h h₁₁]
  · have hb' : b' 2 ≠ 0#8 := by rwa [h.at h₃]
    simp [hciConnectionCompleteEv, hb, hb']

theorem disconnectionComplete_congr (hn : (if b 2 = 0 then 5 else 3) ≤ n) :
    hciDisconnectionCompleteEv b' = hciDisconnectionCompleteEv b := by
  have h₃ : 3 ≤ n := by split_ifs at hn <;> omega
  by_cases hb : b 2 = 0#8
  · have h₅ : 5 ≤ n := by simpa [hb] using hn
    simp only [hciDisconnectionCompleteEv, h.at h₃, h.at (i := 3) (by omega),
      h.at (i := 4) (by omega)]
  · have hb' : b' 2 ≠ 0#8 := by rwa [h.at h₃]
    simp [hciDisconnectionCompleteEv, hb, hb']

theorem remoteNameBytes_congr (hlimit : n ≤ transferLength)
    (hname : n = transferLength ∨ ∃ i, 9 ≤ i ∧ i < n ∧ b i = 0) :
    b'.bytes 9 (remoteNameLength b' n) = b.bytes 9 (remoteNameLength b n) := by
  have h₉ : 9 ≤ n := by
    rcases hname with rfl | ⟨i, hi, hi', -⟩
    · decide
    · omega
  rw [remoteNameLength_congr h h₉]
  obtain ⟨h₁, h₂, -⟩ := remoteNameLength_spec b n
  have hend : remoteNameLength b n + 8 ≤ n := by
    by_contra hlt
    have := (h₂ (remoteNameLength b n - 1) (by omega) (by omega)).2
    omega
  refine bytes_congr fun i hi hi' => ?_
  rcases Nat.lt_or_ge i n with hlt | hge
  · exact h.at hlt
  · rcases hname with rfl | ⟨j, hj, hjn, hz⟩
    · exact h.past hge
    · -- the scan cannot have gone past the terminator
      exact absurd hz (by
        have hj' := (h₂ (j - 8) (by omega) (by omega)).1
        rwa [Nat.sub_add_cancel (by omega)] at hj')

theorem remoteNameRequestComplete_congr (hlimit : n ≤ transferLength)
    (hn : remoteNameRequestCompleteLength b ≤ n) :
    (exec (hciRemoteNameRequestCompleteEv b' n) w).2 = (exec (hciRemoteNameRequestCompleteEv b n) w).2 := by
  rw [exec_hciRemoteNameRequestCompleteEv, exec_hciRemoteNameRequestCompleteEv]
  unfold remoteNameRequestCompleteLength at hn
  split at hn
  · rename_i hb
    cases hfind : (List.range' 9 (transferLength - 9)).find? fun i => decide (b i = 0) with
    | none =>
      rw [hfind] at hn
      have hn : n = transferLength := Nat.le_antisymm hlimit hn
      have h₉ : 9 < n := by rw [hn]; decide
      rw [h.at (i := 2) (by omega), bdAddr_congr h (by omega), h.at (i := 9) h₉,
        remoteNameBytes_congr h hlimit (.inl hn)]
    | some i =>
      rw [hfind] at hn
      have hi : i < n := hn
      have h₉ : 9 ≤ i := (List.mem_range'_1.mp (List.mem_of_find?_eq_some hfind)).1
      have hz : b i = 0 := by simpa using List.find?_some hfind
      rw [h.at (i := 2) (by omega), bdAddr_congr h (by omega), h.at (i := 9) (by omega),
        remoteNameBytes_congr h hlimit (.inr ⟨i, h₉, hi, hz⟩)]
  · rename_i hb
    rw [h.at (i := 2) hn, if_neg hb, if_neg hb]

theorem event_step_congr (hpos : 1 ≤ n) (hlimit : n ≤ transferLength) (hn : eventLength b ≤ n) :
    w.step (.hci b' n) = w.step (.hci b n) := by
  have h₀ : b' 0 = b 0 := h.at hpos
  have hn₀ : n ≠ 0 := by omega
  rw [step_hci, step_hci, receivedEvent, receivedEvent, if_neg hn₀, if_neg hn₀, h₀]
  cases he : HciEvent.ofCode (b 0) with
  | none => rfl
  | some event =>
    rw [eventLength, he] at hn
    have he' : HciEvent.ofCode (b' 0) = some event := by rwa [h₀]
    show (exec (dispatchEvent event b' n) w.clearLog).2 = (exec (dispatchEvent event b n) w.clearLog).2
    cases event with
    | commandComplete => exact congrArg Prod.snd (commandComplete_congr h _ he he' hn)
    | commandStatus => exact congrArg Prod.snd (commandStatus_congr h _ he he' hn)
    | connectionRequest => simp only [dispatchEvent, connectionRequest_congr h hn]
    | connectionComplete => simp only [dispatchEvent, connectionComplete_congr h hn]
    | disconnectionComplete => simp only [dispatchEvent, disconnectionComplete_congr h hn]
    | remoteNameRequestComplete => exact remoteNameRequestComplete_congr h _ hlimit hn
    | _ => rfl

end Reads

end WireShock
