import WireShock.Channels.Signalling

namespace WireShock
open Interaction

structure L2capPacket where
  handle : BthHandle
  channel : L2capCid
  payload : List BYTE
deriving DecidableEq

-- the ACL header and the L2CAP header behind it, read back from the bytes of a frame
def L2capPacket.decode (frame : List BYTE) : Option L2capPacket :=
  (Layer.stripAll [aclLayer, l2capLayer] frame).map fun payload =>
    ⟨BthHandle.fromBuffer (Buffer.ofList frame) 0, BthHandle.fromBuffer (Buffer.ofList frame) 6,
      payload⟩

def Output.frame : Output → Option (List BYTE)
  | .bulk packet _ => some packet
  | _ => none

-- the bytes a routine hands to WriteBulkPipe
def World.frames (w : World) (p : Driver NTSTATUS) : List (List BYTE) :=
  (exec p w.clearLog).2.log.filterMap Output.frame

section

variable (w : World) (handle : BthHandle) (channel : L2capCid) (data : List BYTE)

theorem frames_hidCommand :
    w.frames (hidCommand handle channel data) = [hidFrame handle channel data] := rfl

theorem frames_l2capCommand :
    w.frames (l2capCommand handle data) = [l2capFrame handle data] := rfl

theorem decode_hidFrame (h : data.length + 4 < 65536) :
    L2capPacket.decode (hidFrame handle channel data) = some ⟨handle, channel, data⟩ := by
  rw [L2capPacket.decode, stripAll_hidFrame handle data channel h]
  rfl

theorem l2capFrame_of_flagged (h : handle.msb &&& 0x20 = 0x20) :
    l2capFrame handle data = hidFrame handle ⟨0x01, 0x00⟩ data := by
  have hall : ∀ msb : BYTE, msb &&& 0x20 = 0x20 → msb ||| 0x20 = msb := by decide +kernel
  rw [l2capFrame_eq_hidFrame, hall handle.msb h]

end

structure World.FramesAgree (w : World) (handle : BthHandle) (channel : L2capCid)
    (payload : List BYTE) : Prop where
  roundTrip : payload.length + 4 < 65536 → ∃ frame,
    w.frames (hidCommand handle channel payload) = [frame] ∧
      L2capPacket.decode frame = some ⟨handle, channel, payload⟩ ∧
      frame.length = payload.length + 8
  agree : payload.length ≤ 56 →
    w.frames (l2capCommand handle payload) = w.frames (hidCommand handle ⟨0x01, 0x00⟩ payload)

theorem SignallingCommand.sends_within_limit (c : SignallingCommand) (handle : BthHandle) :
    c.send handle = l2capCommand handle c.bytes ∧ c.bytes.length ≤ 56 :=
  ⟨c.send_eq handle, Nat.le_trans c.length_bytes (by decide)⟩

theorem frames_agree (w : World) (handle : BthHandle) (channel : L2capCid) (payload : List BYTE)
    (hflag : handle.msb &&& 0x20 = 0x20) :
    w.FramesAgree handle channel payload ∧
      ∀ c : SignallingCommand, c.send handle = l2capCommand handle c.bytes ∧ c.bytes.length ≤ 56 := by
  refine ⟨⟨fun h => ?_, fun _ => ?_⟩, fun c => c.sends_within_limit handle⟩
  · exact ⟨hidFrame handle channel payload, frames_hidCommand w handle channel payload,
      decode_hidFrame handle channel payload h, length_hidFrame handle payload channel⟩
  · rw [frames_l2capCommand, frames_hidCommand, l2capFrame_of_flagged handle payload hflag]

theorem frames_agree_enable :
    (World.initial .succeeding).FramesAgree ⟨0x2A, 0x20⟩ ⟨0x70, 0x00⟩
        [0x53, 0xF4, 0x42, 0x03, 0x00, 0x00] ∧
      ∀ c : SignallingCommand,
        c.send ⟨0x2A, 0x20⟩ = l2capCommand ⟨0x2A, 0x20⟩ c.bytes ∧ c.bytes.length ≤ 56 :=
  frames_agree (.initial .succeeding) ⟨0x2A, 0x20⟩ ⟨0x70, 0x00⟩ _ (by decide)

end WireShock
