import WireShock.Semantics.Exec

namespace WireShock

namespace HciCommand

-- what the builder of each command takes besides the device context; the last six have none
def Arguments : HciCommand → Type
  | acceptConnectionRequest | rejectConnectionRequest => BdAddr × BYTE
  | remoteNameRequest | linkKeyRequestReply | linkKeyRequestNegativeReply
  | pinCodeRequestNegativeReply | userConfirmationRequestReply | ioCapabilityRequestReply
  | deleteStoredLinkKey => BdAddr
  | setConnectionEncryption | disconnect => BthHandle
  | createConnection | pinCodeRequestReply | authenticationRequested | changeConnectionLinkKey
  | readStoredLinkKey | writeStoredLinkKey => Empty
  | _ => Unit

def build : (c : HciCommand) → c.Arguments → Driver NTSTATUS
  | reset, _ => hciCommandReset
  | acceptConnectionRequest, (bdAddr, role) => hciCommandAcceptConnectionRequest bdAddr role
  | rejectConnectionRequest, (bdAddr, reason) => hciCommandRejectConnectionRequest bdAddr reason
  | remoteNameRequest, bdAddr => hciCommandRemoteNameRequest bdAddr
  | writeScanEnable, _ => hciCommandWriteScanEnable
  | readLocalVersionInfo, _ => hciCommandReadLocalVersionInfo
  | readBdAddr, _ => hciCommandReadBdAddr
  | readBufferSize, _ => hciCommandReadBufferSize
  | linkKeyRequestReply, bdAddr => hciCommandLinkKeyRequestReply bdAddr
  | linkKeyRequestNegativeReply, bdAddr => hciCommandLinkKeyRequestNegativeReply bdAddr
  | pinCodeRequestNegativeReply, bdAddr => hciCommandPinCodeRequestNegativeReply bdAddr
  | setConnectionEncryption, handle => hciCommandSetConnectionEncryption handle
  | userConfirmationRequestReply, bdAddr => hciCommandUserConfirmationRequestReply bdAddr
  | ioCapabilityRequestReply, bdAddr => hciCommandIoCapabilityRequestReply bdAddr
  | setEventMask, _ => hciCommandSetEventMask
  | writeLocalName, _ => hciCommandWriteLocalName
  | writeExtendedInquiryResponse, _ => hciCommandWriteExtendedInquiryResponse
  | writeClassOfDevice, _ => hciCommandWriteClassOfDevice
  | writeInquiryScanType, _ => hciCommandWriteInquiryScanType
  | writeInquiryScanActivity, _ => hciCommandWriteInquiryScanActivity
  | writePageScanType, _ => hciCommandWritePageScanType
  | writePageScanActivity, _ => hciCommandWritePageScanActivity
  | writePageTimeout, _ => hciCommandWritePageTimeout
  | writeAuthenticationEnable, _ => hciCommandWriteAuthenticationEnable
  | writeSimplePairingMode, _ => hciCommandWriteSimplePairingMode
  | writeSimplePairingDebugMode, _ => hciCommandWriteSimplePairingDebugMode
  | writeInquiryMode, _ => hciCommandWriteInquiryMode
  | writeInquiryTransmitPowerLevel, _ => hciCommandWriteInquiryTransmitPowerLevel
  | inquiry, _ => hciCommandInquiry
  | inquiryCancel, _ => hciCommandInquiryCancel
  | deleteStoredLinkKey, bdAddr => hciCommandDeleteStoredLinkKey bdAddr
  | disconnect, handle => hciCommandDisconnect handle

end HciCommand

def Output.handed : Output → Option (List BYTE)
  | .control packet _ => some packet
  | _ => none

-- the bytes a builder hands to SendControlRequest
def World.handed (w : World) (p : Driver NTSTATUS) : List (List BYTE) :=
  (exec p w.clearLog).2.log.filterMap Output.handed

def World.withStack (w : World) (stack : Nat → BYTE) : World :=
  { w with environment := { w.environment with stack := stack } }

structure HciCommand.Labels (c : HciCommand) (packet : List BYTE) : Prop where
  opcode : packet.take 2 = [c.lsb, c.msb]
  length : ∃ size : BYTE, packet[2]? = some size ∧ size.toNat = (packet.drop 3).length

structure HciCommand.Lawful (c : HciCommand) : Prop where
  labelled : ∀ (args : c.Arguments) (w : World), ∃ packet, w.handed (c.build args) = [packet] ∧ c.Labels packet
  determined : ∀ (args : c.Arguments) (w : World) (stack : Nat → BYTE),
    (w.withStack stack).handed (c.build args) = w.handed (c.build args)
  injective : ∀ (args args' : c.Arguments) (w w' : World),
    w.handed (c.build args) = w'.handed (c.build args') → args = args'

section

variable {c : HciCommand} {size : Nat} {payload : List BYTE}

theorem hciPacket_overlay {buffer : List BYTE} (h : 3 + payload.length ≤ buffer.length) :
    hciPacket c (overlay buffer 3 payload) =
      c.lsb :: c.msb :: BitVec.ofNat 8 (buffer.length - 3) ::
        (payload ++ buffer.drop (3 + payload.length)) := by
  rw [hciPacket, length_overlay h]
  have hshort : ¬ buffer.length < 3 := by omega
  rcases buffer with _ | ⟨a, _ | ⟨b, _ | ⟨d, rest⟩⟩⟩
  · simp at hshort
  · simp at hshort
  · simp at hshort
  · simp [overlay]

theorem handed_hciCommandWith (w : World) (h : 3 + payload.length ≤ size) :
    w.handed (hciCommandWith c size payload) =
      [c.lsb :: c.msb :: BitVec.ofNat 8 (size - 3) ::
        (payload ++ (w.uninitialised size).val.drop (3 + payload.length))] := by
  have hs : (w.clearLog.uninitialised size).val.length = size :=
    (w.clearLog.uninitialised size).property
  rw [World.handed, exec_hciCommandWith, hciPacket_overlay (by rwa [hs]), hs]
  rfl

theorem handed_full (w : World) (h : 3 + payload.length = size) :
    w.handed (hciCommandWith c size payload) =
      [c.lsb :: c.msb :: BitVec.ofNat 8 payload.length :: payload] := by
  have hs : (w.uninitialised size).val.length = size := (w.uninitialised size).property
  rw [handed_hciCommandWith w (Nat.le_of_eq h), List.drop_of_length_le (by omega),
    List.append_nil, show size - 3 = payload.length by omega]

end

namespace HciCommand

variable {c : HciCommand} {size : Nat}

theorem lawful_of_full (payload : c.Arguments → List BYTE) (hsize : size ≤ 258)
    (hfull : ∀ args, 3 + (payload args).length = size)
    (hbuild : ∀ args, c.build args = hciCommandWith c size (payload args))
    (hinj : ∀ args args', payload args = payload args' → args = args') : c.Lawful := by
  have hhanded (args : c.Arguments) (w : World) : w.handed (c.build args) =
      [c.lsb :: c.msb :: BitVec.ofNat 8 (payload args).length :: payload args] := by
    rw [hbuild, handed_full w (hfull args)]
  refine ⟨fun args w => ⟨_, hhanded args w, rfl, _, rfl, ?_⟩, fun args w stack => ?_,
    fun args args' w w' heq => ?_⟩
  · have hlt : (payload args).length < 2 ^ 8 := by
      have := hfull args
      omega
    exact Nat.mod_eq_of_lt hlt
  · rw [hhanded, hhanded]
  · rw [hhanded, hhanded] at heq
    exact hinj args args' (List.cons.inj (List.cons.inj (List.cons.inj
      (List.cons.inj heq).1).2).2).2

theorem not_lawful_of_unwritten {sent : HciCommand} {args : c.Arguments} {payload : List BYTE}
    (hshort : 3 + payload.length < size)
    (hbuild : c.build args = hciCommandWith sent size payload) : ¬ c.Lawful := by
  intro h
  have hd := h.determined args (.initial .succeeding) fun _ => 1
  rw [hbuild, handed_hciCommandWith _ (Nat.le_of_lt hshort),
    handed_hciCommandWith _ (Nat.le_of_lt hshort)] at hd
  have htail := List.append_cancel_left (List.cons.inj (List.cons.inj (List.cons.inj
    (List.cons.inj hd).1).2).2).2
  have hpos : 0 < size - (3 + payload.length) := Nat.sub_pos_of_lt hshort
  have hbyte := congrArg (fun bytes => bytes[0]?) htail
  simp [World.uninitialised, World.withStack, World.initial, Environment.succeeding, hpos] at hbyte

theorem lawful_of_fixed (payload : List BYTE) (hsize : size ≤ 258)
    (hfull : 3 + payload.length = size) (hargs : ∀ args args' : c.Arguments, args = args')
    (hbuild : ∀ args, c.build args = hciCommandWith c size payload) : c.Lawful :=
  lawful_of_full (fun _ => payload) hsize (fun _ => hfull) hbuild fun args args' _ => hargs args args'

theorem lawful_of_none (hnone : c.Arguments → False) : c.Lawful :=
  ⟨fun args => (hnone args).elim, fun args => (hnone args).elim, fun args => (hnone args).elim⟩

theorem length_addressed (bdAddr : BdAddr) (rest : List BYTE) :
    3 + (bdAddr.address ++ rest).length = 9 + rest.length := by
  rw [List.length_append, bdAddr.size]
  omega

theorem addressed_inj {bdAddr bdAddr' : BdAddr} {rest rest' : List BYTE}
    (h : bdAddr.address ++ rest = bdAddr'.address ++ rest') : bdAddr = bdAddr' ∧ rest = rest' := by
  obtain ⟨ha, hr⟩ := List.append_inj h (bdAddr.size.trans bdAddr'.size.symm)
  cases bdAddr
  cases bdAddr'
  exact ⟨by cases ha; rfl, hr⟩

theorem handled_inj {handle handle' : BthHandle} {reason : BYTE}
    (h : [handle.lsb, handle.msb ^^^ 0x20, reason] = [handle'.lsb, handle'.msb ^^^ 0x20, reason]) :
    handle = handle' := by
  obtain ⟨hl, hr⟩ := List.cons.inj h
  have hm : handle.msb = handle'.msb := (BitVec.xor_left_inj _).mp (List.cons.inj hr).1
  cases handle
  cases handle'
  cases hl
  cases hm
  rfl

theorem lawful_iff (c : HciCommand) :
    c.Lawful ↔ c ≠ pinCodeRequestNegativeReply ∧ c ≠ writeLocalName ∧
      c ≠ writeExtendedInquiryResponse := by
  constructor
  · intro h
    refine ⟨?_, ?_, ?_⟩ <;> rintro rfl
    · have hbuild : build pinCodeRequestNegativeReply someAddress =
          hciCommandWith linkKeyRequestNegativeReply 16 someAddress.address := rfl
      exact not_lawful_of_unwritten (by decide) hbuild h
    · have hbuild : build writeLocalName () =
          hciCommandWith writeLocalName 251 [0x45, 0x4E, 0x54, 0x52, 0x4F, 0x50, 0x59] := rfl
      exact not_lawful_of_unwritten (by decide) hbuild h
    · have hbuild : build writeExtendedInquiryResponse () =
          hciCommandWith writeExtendedInquiryResponse 244
            [0x00, 0x08, 0x09, 0x45, 0x4E, 0x54, 0x52, 0x4F, 0x50, 0x59, 0x02, 0x0A] := rfl
      exact not_lawful_of_unwritten (by decide) hbuild h
  · rintro ⟨hpin, hname, hinquiry⟩
    cases c with
    | pinCodeRequestNegativeReply => exact absurd rfl hpin
    | writeLocalName => exact absurd rfl hname
    | writeExtendedInquiryResponse => exact absurd rfl hinquiry
    | createConnection | pinCodeRequestReply | authenticationRequested | changeConnectionLinkKey
    | readStoredLinkKey | writeStoredLinkKey => exact lawful_of_none fun args => nomatch args
    | acceptConnectionRequest | rejectConnectionRequest =>
      refine lawful_of_full (fun args : BdAddr × BYTE => args.1.address ++ [args.2]) (by decide)
        (fun args => length_addressed args.1 [args.2]) (fun _ => rfl) fun args args' h => ?_
      obtain ⟨ha, hb⟩ := addressed_inj h
      exact Prod.ext ha (List.cons.inj hb).1
    | linkKeyRequestNegativeReply | userConfirmationRequestReply =>
      refine lawful_of_full BdAddr.address (by decide) (fun a => congrArg (3 + ·) a.size)
        (fun _ => rfl) fun a a' h => ?_
      cases a
      cases a'
      cases h
      rfl
    | remoteNameRequest =>
      exact lawful_of_full (fun a : BdAddr => a.address ++ [0x01, 0x00, 0x00, 0x00]) (by decide)
        (fun a => length_addressed a _) (fun _ => rfl) fun _ _ h => (addressed_inj h).1
    | linkKeyRequestReply =>
      exact lawful_of_full (fun a : BdAddr => a.address ++ bdLink) (by decide)
        (fun a => length_addressed a _) (fun _ => rfl) fun _ _ h => (addressed_inj h).1
    | ioCapabilityRequestReply =>
      exact lawful_of_full (fun a : BdAddr => a.address ++ [0x01, 0x00, 0x05]) (by decide)
        (fun a => length_addressed a _) (fun _ => rfl) fun _ _ h => (addressed_inj h).1
    | deleteStoredLinkKey =>
      exact lawful_of_full (fun a : BdAddr => a.address ++ [0x00]) (by decide)
        (fun a => length_addressed a _) (fun _ => rfl) fun _ _ h => (addressed_inj h).1
    | setConnectionEncryption =>
      exact lawful_of_full
        (fun handle : BthHandle => [handle.lsb, handle.msb ^^^ 0x20, 0x01]) (by decide)
        (fun _ => rfl) (fun _ => rfl) fun _ _ h => handled_inj h
    | disconnect =>
      exact lawful_of_full
        (fun handle : BthHandle => [handle.lsb, handle.msb ^^^ 0x20, 0x13]) (by decide)
        (fun _ => rfl) (fun _ => rfl) fun _ _ h => handled_inj h
    | reset | readLocalVersionInfo | readBdAddr | readBufferSize | inquiryCancel =>
      exact lawful_of_fixed [] (by decide) rfl (fun _ _ => rfl) fun _ => rfl
    | writeScanEnable | writeInquiryMode =>
      exact lawful_of_fixed [0x02] (by decide) rfl (fun _ _ => rfl) fun _ => rfl
    | writeInquiryScanType | writePageScanType | writeSimplePairingMode =>
      exact lawful_of_fixed [0x01] (by decide) rfl (fun _ _ => rfl) fun _ => rfl
    | writeAuthenticationEnable | writeSimplePairingDebugMode | writeInquiryTransmitPowerLevel =>
      exact lawful_of_fixed [0x00] (by decide) rfl (fun _ _ => rfl) fun _ => rfl
    | setEventMask =>
      exact lawful_of_fixed [0xFF, 0xFF, 0xFF, 0xFF, 0xFF, 0x5F, 0x25, 0x00] (by decide) rfl
        (fun _ _ => rfl) fun _ => rfl
    | writeClassOfDevice =>
      exact lawful_of_fixed [0x04, 0x02, 0x3E] (by decide) rfl (fun _ _ => rfl) fun _ => rfl
    | writeInquiryScanActivity =>
      exact lawful_of_fixed [0x00, 0x08, 0x12, 0x00] (by decide) rfl (fun _ _ => rfl) fun _ => rfl
    | writePageScanActivity =>
      exact lawful_of_fixed [0x00, 0x04, 0x12, 0x00] (by decide) rfl (fun _ _ => rfl) fun _ => rfl
    | writePageTimeout =>
      exact lawful_of_fixed [0x00, 0x20] (by decide) rfl (fun _ _ => rfl) fun _ => rfl
    | inquiry =>
      exact lawful_of_fixed [0x33, 0x8B, 0x9E, 0x18, 0x00] (by decide) rfl (fun _ _ => rfl)
        fun _ => rfl

theorem pin_code_reply_mislabelled : ¬ ∀ c : HciCommand, c.Lawful := by
  intro h
  obtain ⟨packet, hp, hl⟩ :=
    (h pinCodeRequestNegativeReply).labelled someAddress (.initial .succeeding)
  have hsent : (World.initial .succeeding).handed
      (hciCommandWith linkKeyRequestNegativeReply 16 someAddress.address) = [packet] := hp
  rw [handed_hciCommandWith _ (by decide)] at hsent
  have hopcode := hl.opcode
  rw [← (List.cons.inj hsent).1] at hopcode
  revert hopcode
  decide

end HciCommand
end WireShock
