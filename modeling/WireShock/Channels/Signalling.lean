import WireShock.Interaction.Segments
import WireShock.Semantics.Exec

namespace WireShock
open Interaction

inductive SignallingCommand where
  | connectionRequest (id : BYTE) (destinationChannelId : L2capCid) (psm : USHORT)
  | connectionResponse (id : BYTE) (destinationChannelId sourceChannelId : L2capCid)
      (result : L2capConnectionResponseResult)
  | configurationRequest (id : BYTE) (destinationChannelId : L2capCid) (setMtu : Bool)
  | configurationResponse (id : BYTE) (sourceChannelId : L2capCid)
  | disconnectionRequest (id : BYTE) (destinationChannelId sourceChannelId : L2capCid)
  | disconnectionResponse (id : BYTE) (destinationChannelId sourceChannelId : L2capCid)

structure SignallingContent where
  code : BYTE
  identifier : BYTE
  dcid : Option L2capCid
  scid : Option L2capCid
  psm : Option USHORT
  result : Option USHORT
deriving DecidableEq

namespace SignallingCommand

def send (handle : BthHandle) : SignallingCommand → Driver NTSTATUS
  | connectionRequest id dcid psm => l2capCommandConnectionRequest handle id dcid psm
  | connectionResponse id dcid scid result =>
    l2capCommandConnectionResponse handle id dcid scid result
  | configurationRequest id dcid setMtu => l2capCommandConfigurationRequest handle id dcid setMtu
  | configurationResponse id scid => l2capCommandConfigurationResponse handle id scid
  | disconnectionRequest id dcid scid => l2capCommandDisconnectionRequest handle id dcid scid
  | disconnectionResponse id dcid scid => l2capCommandDisconnectionResponse handle id dcid scid

def bytes : SignallingCommand → List BYTE
  | connectionRequest id dcid psm => l2capConnectionRequest id dcid psm
  | connectionResponse id dcid scid result => l2capConnectionResponse id dcid scid result
  | configurationRequest id dcid setMtu => l2capConfigurationRequest id dcid setMtu
  | configurationResponse id scid => l2capConfigurationResponse id scid
  | disconnectionRequest id dcid scid => l2capDisconnectionRequest id dcid scid
  | disconnectionResponse id dcid scid => l2capDisconnectionResponse id dcid scid

-- the channel a connection is made from travels as the SCID, the answering side's as the DCID,
-- whichever parameter of the builder holds it
def meant : SignallingCommand → SignallingContent
  | connectionRequest id dcid psm =>
    ⟨L2capSignallingCommandCode.connectionRequest.code, id, none, some dcid, some psm, none⟩
  | connectionResponse id dcid scid result =>
    ⟨L2capSignallingCommandCode.connectionResponse.code, id, some scid, some dcid, none,
      some (result.code.zeroExtend 16)⟩
  | configurationRequest id dcid _ =>
    ⟨L2capSignallingCommandCode.configurationRequest.code, id, some dcid, none, none, none⟩
  | configurationResponse id scid =>
    ⟨L2capSignallingCommandCode.configurationResponse.code, id, none, some scid, none, some 0⟩
  | disconnectionRequest id dcid scid =>
    ⟨L2capSignallingCommandCode.disconnectionRequest.code, id, some dcid, some scid, none, none⟩
  | disconnectionResponse id dcid scid =>
    ⟨L2capSignallingCommandCode.disconnectionResponse.code, id, some dcid, some scid, none, none⟩

end SignallingCommand

def SignallingContent.read (data : Buffer) : Option SignallingContent :=
  let header := SignallingHeader.read data
  match L2capSignallingCommandCode.ofCode header.code with
  | some .connectionRequest =>
    let data := SignallingConnectionRequest.read data
    some ⟨header.code, data.identifier, none, some data.scid, some data.psm, none⟩
  | some .connectionResponse =>
    let data := SignallingConnectionResponse.read data
    some ⟨header.code, data.identifier, some data.dcid, some data.scid, none, some data.result⟩
  | some .configurationRequest =>
    let data := SignallingConfigurationRequest.read data
    some ⟨header.code, data.identifier, some data.dcid, none, none, none⟩
  | some .configurationResponse =>
    let data := SignallingConfigurationResponse.read data
    some ⟨header.code, header.identifier, none, some data.scid, none, some data.result⟩
  | some .disconnectionRequest =>
    let data := SignallingDisconnectionRequest.read data
    some ⟨header.code, data.identifier, some data.dcid, some data.scid, none, none⟩
  | some .disconnectionResponse =>
    let data := SignallingDisconnectionResponse.read data
    some ⟨header.code, data.identifier, some data.dcid, some data.scid, none, none⟩
  | _ => none

def aclLayer : Layer BYTE := ⟨4, fun packet => (ushortAt (Buffer.ofList packet) 2).toNat⟩

def l2capLayer : Layer BYTE := ⟨4, fun packet => (ushortAt (Buffer.ofList packet) 0).toNat⟩

def commandLayer : Layer BYTE :=
  ⟨4, fun packet => (SignallingHeader.read (Buffer.ofList packet)).length.toNat⟩

def decodeSignalling (packet : List BYTE) : Option SignallingContent :=
  (Layer.stripAll [aclLayer, l2capLayer, commandLayer] packet).bind fun _ =>
    SignallingContent.read ((Buffer.ofList packet).shift 8)

section

variable (handle : BthHandle) (data : List BYTE)

theorem toNat_byteOf_append {n : Nat} (h : n < 65536) :
    (byteOf (n / 256) ++ byteOf n).toNat = n := by
  rw [BitVec.toNat_append, ← Nat.shiftLeft_add_eq_or_of_lt (byteOf n).isLt, Nat.shiftLeft_eq]
  simp only [byteOf, BitVec.toNat_ofNat]
  omega

theorem shift_ofList_l2capFrame :
    (Buffer.ofList (l2capFrame handle data)).shift 8 = Buffer.ofList data := by
  funext i
  rw [Buffer.shift, Nat.add_comm]
  rfl

theorem byteOf_mod (n : Nat) : byteOf (n % 256) = byteOf n :=
  BitVec.eq_of_toNat_eq (Nat.mod_mod n 256)

@[simp] theorem length_hidFrame (channel : L2capCid) :
    (hidFrame handle channel data).length = data.length + 8 := by
  simp [hidFrame]

theorem l2capFrame_eq_hidFrame :
    l2capFrame handle data = hidFrame ⟨handle.lsb, handle.msb ||| 0x20⟩ ⟨0x01, 0x00⟩ data := by
  rw [hidFrame, byteOf_mod, byteOf_mod]
  rfl

theorem stripAll_hidFrame (channel : L2capCid) (h : data.length + 4 < 65536) :
    Layer.stripAll [aclLayer, l2capLayer] (hidFrame handle channel data) = some data := by
  have hacl : aclLayer.strip (hidFrame handle channel data) =
      some ((hidFrame handle channel data).drop 4) := by
    have hd : aclLayer.declared (hidFrame handle channel data) = data.length + 4 := by
      rw [← toNat_byteOf_append h, ← byteOf_mod (data.length + 4)]
      rfl
    rw [Layer.strip, hd, if_pos]
    · rfl
    · simp [aclLayer]
  have hl2cap : l2capLayer.strip ((hidFrame handle channel data).drop 4) = some data := by
    have hd : l2capLayer.declared ((hidFrame handle channel data).drop 4) = data.length := by
      rw [← toNat_byteOf_append (Nat.lt_of_le_of_lt (Nat.le_add_right data.length 4) h),
        ← byteOf_mod data.length]
      rfl
    rw [Layer.strip, hd, if_pos]
    · rfl
    · simp [l2capLayer]
  rw [Layer.stripAll_cons, hacl, Option.bind_some, Layer.stripAll_cons, hl2cap]
  rfl

theorem stripAll_l2capFrame (h : data.length + 4 < 65536) :
    Layer.stripAll [aclLayer, l2capLayer] (l2capFrame handle data) = some data := by
  rw [l2capFrame_eq_hidFrame]
  exact stripAll_hidFrame _ data _ h

theorem decodeSignalling_l2capFrame (h : data.length + 4 < 65536) :
    decodeSignalling (l2capFrame handle data) =
      (commandLayer.strip data).bind fun _ => SignallingContent.read (Buffer.ofList data) := by
  rw [decodeSignalling, shift_ofList_l2capFrame,
    show [aclLayer, l2capLayer, commandLayer] = [aclLayer, l2capLayer] ++ [commandLayer] from rfl,
    Layer.stripAll_append, stripAll_l2capFrame handle data h, Option.bind_some,
    Layer.stripAll_cons]
  cases commandLayer.strip data <;> rfl

end

namespace SignallingCommand

variable (c : SignallingCommand)

theorem send_eq (handle : BthHandle) : c.send handle = writeBulkPipe (l2capFrame handle c.bytes) := by
  cases c <;> rfl

theorem length_bytes : c.bytes.length ≤ 14 := by
  cases c with
  | configurationRequest id dcid setMtu => cases setMtu <;> simp [bytes, l2capConfigurationRequest]
  | configurationResponse id scid => simp [bytes, l2capConfigurationResponse]
  | connectionRequest id dcid psm => simp [bytes, l2capConnectionRequest]
  | connectionResponse id dcid scid result => simp [bytes, l2capConnectionResponse]
  | disconnectionRequest id dcid scid => simp [bytes, l2capDisconnectionRequest]
  | disconnectionResponse id dcid scid => simp [bytes, l2capDisconnectionResponse]

theorem ushort_of_bytes (value : USHORT) :
    (value >>> 8).truncate 8 ++ (value &&& 0xFF).truncate 8 = value := by
  have hlt := value.isLt
  have hl : ((value &&& 0xFF).truncate 8 : BYTE).toNat = value.toNat % 256 := by
    have hm : value.toNat &&& 255 = value.toNat % 256 := Nat.and_two_pow_sub_one_eq_mod value.toNat 8
    rw [BitVec.truncate_eq_setWidth, BitVec.toNat_setWidth, BitVec.toNat_and]
    exact (congrArg (· % 256) hm).trans (Nat.mod_mod _ _)
  have hh : ((value >>> 8).truncate 8 : BYTE).toNat = value.toNat / 256 := by
    simp [BitVec.truncate_eq_setWidth, Nat.shiftRight_eq_div_pow]
    omega
  refine BitVec.eq_of_toNat_eq ?_
  rw [BitVec.toNat_append, ← Nat.shiftLeft_add_eq_or_of_lt (BitVec.isLt _), Nat.shiftLeft_eq, hl, hh]
  omega

theorem read_bytes : SignallingContent.read (Buffer.ofList c.bytes) = some c.meant := by
  cases c with
  | connectionRequest id dcid psm =>
    have hp : ushortAt (Buffer.ofList (l2capConnectionRequest id dcid psm)) 4 = psm :=
      ushort_of_bytes psm
    have hr : SignallingContent.read (Buffer.ofList (l2capConnectionRequest id dcid psm)) =
        some ⟨L2capSignallingCommandCode.connectionRequest.code, id, none, some dcid,
          some (ushortAt (Buffer.ofList (l2capConnectionRequest id dcid psm)) 4), none⟩ := rfl
    rw [bytes, hr, hp, meant]
  | connectionResponse id dcid scid result =>
    have hc : (0x00 : BYTE) ++ result.code = result.code.zeroExtend 16 := by
      cases result <;> decide
    have hr : SignallingContent.read (Buffer.ofList (l2capConnectionResponse id dcid scid result)) =
        some ⟨L2capSignallingCommandCode.connectionResponse.code, id, some scid, some dcid, none,
          some ((0x00 : BYTE) ++ result.code)⟩ := rfl
    rw [bytes, hr, hc, meant]
  | configurationResponse id scid =>
    have hc : (0x00 : BYTE) ++ (0x00 : BYTE) = (0 : USHORT) := by decide
    have hr : SignallingContent.read (Buffer.ofList (l2capConfigurationResponse id scid)) =
        some ⟨L2capSignallingCommandCode.configurationResponse.code, id, none, some scid, none,
          some ((0x00 : BYTE) ++ (0x00 : BYTE))⟩ := rfl
    rw [bytes, hr, hc, meant]
  | _ => rfl

theorem declared_eq (data : List BYTE) :
    commandLayer.declared data = (data.getD 3 0 ++ data.getD 2 0).toNat := rfl

theorem strip_bytes :
    (commandLayer.strip c.bytes).isSome = true ↔ ∀ id scid, c ≠ configurationResponse id scid := by
  have hh : commandLayer.header = 4 := rfl
  cases c with
  | connectionRequest id dcid psm => simp [Layer.strip, hh, declared_eq, bytes, l2capConnectionRequest]
  | connectionResponse id dcid scid result =>
    simp [Layer.strip, hh, declared_eq, bytes, l2capConnectionResponse]
  | configurationRequest id dcid setMtu =>
    cases setMtu <;> simp [Layer.strip, hh, declared_eq, bytes, l2capConfigurationRequest]
  | configurationResponse id scid =>
    simp [Layer.strip, hh, declared_eq, bytes, l2capConfigurationResponse]
  | disconnectionRequest id dcid scid =>
    simp [Layer.strip, hh, declared_eq, bytes, l2capDisconnectionRequest]
  | disconnectionResponse id dcid scid =>
    simp [Layer.strip, hh, declared_eq, bytes, l2capDisconnectionResponse]

theorem decodes_iff (handle : BthHandle) :
    decodeSignalling (l2capFrame handle c.bytes) = some c.meant ↔
      ∀ id scid, c ≠ configurationResponse id scid := by
  have hl : c.bytes.length + 4 < 65536 := by
    have h := c.length_bytes
    omega
  rw [decodeSignalling_l2capFrame handle c.bytes hl, read_bytes, ← c.strip_bytes]
  cases commandLayer.strip c.bytes with
  | none => simp
  | some payload => simp

end SignallingCommand

theorem sent_signalling_decodes (handle : BthHandle) (c : SignallingCommand) (w : World) :
    ∃ packet status, (exec (c.send handle) w).2.log = w.log ++ [.bulk packet status] ∧
      (decodeSignalling packet = some c.meant ↔
        ∀ id scid, c ≠ .configurationResponse id scid) := by
  refine ⟨l2capFrame handle c.bytes, w.environment.bulkStatus 0, ?_, c.decodes_iff handle⟩
  rw [c.send_eq, exec_writeBulkPipe, World.sendBulk]

theorem configurationResponse_rejected :
    ¬ ∀ (handle : BthHandle) (c : SignallingCommand) (w : World),
      ∃ packet status, (exec (c.send handle) w).2.log = w.log ++ [.bulk packet status] ∧
        decodeSignalling packet = some c.meant := by
  intro h
  obtain ⟨packet, status, hlog, hd⟩ := h ⟨0x2A, 0x00⟩
    (.configurationResponse 0x01 ⟨0x70, 0x00⟩) (.initial .succeeding)
  have hp : packet = l2capFrame ⟨0x2A, 0x00⟩ (l2capConfigurationResponse 0x01 ⟨0x70, 0x00⟩) := by
    have hb := List.append_cancel_left hlog
    cases hb
    rfl
  rw [hp] at hd
  revert hd
  decide +kernel

end WireShock
