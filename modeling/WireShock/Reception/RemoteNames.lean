import Mathlib.Data.List.TakeWhile
import Mathlib.Data.Nat.Find
import WireShock.Ownership.Release
import WireShock.Reception.PacketShortfall

namespace WireShock

-- the offsets at which the scan for the end of the name reads the buffer
def scanRemoteNameReads (buffer : Buffer) (numBytesTransferred : Nat) : Nat → Nat → List Nat
  | 0, _ => []
  | fuel + 1, length =>
    (length + 8) ::
      if buffer (length + 8) ≠ 0x00 ∧ length + 8 < numBytesTransferred then
        scanRemoteNameReads buffer numBytesTransferred fuel (length + 1)
      else
        []

def remoteNameReads (buffer : Buffer) (numBytesTransferred : Nat) : List Nat :=
  scanRemoteNameReads buffer numBytesTransferred numBytesTransferred 1 ++
    List.range' 9 (remoteNameLength buffer numBytesTransferred)

structure StoresRemoteName (w : World) (buffer : Buffer) (n : Nat) : Prop where
  ends : ¬ (buffer (remoteNameLength buffer n + 8) ≠ 0x00 ∧ remoteNameLength buffer n + 8 < n)
  reads : ∀ i ∈ remoteNameReads buffer n, i < n
  stored : ∃ device p,
    (w.step (.hci buffer n)).children.lookup (BdAddr.fromBuffer buffer 3) = some device ∧
      device.remoteName = some p ∧
      (w.step (.hci buffer n)).pool.bytes p =
        (buffer.bytes 9 (n - 9)).takeWhile (fun byte => byte ≠ 0x00) ++ [0x00]

section

variable {buffer : Buffer} {n : Nat}

theorem bytes_split (offset k m : Nat) :
    buffer.bytes offset (k + 1 + m) =
      buffer.bytes offset k ++ buffer (offset + k) :: buffer.bytes (offset + k + 1) m := by
  rw [Buffer.bytes_add, Buffer.bytes_add, List.append_assoc, Nat.add_assoc]
  rfl

theorem takeWhile_bytes {offset k size : Nat} (hk : k < size)
    (hgo : ∀ i, offset ≤ i → i < offset + k → buffer i ≠ 0) (hstop : buffer (offset + k) = 0) :
    (buffer.bytes offset size).takeWhile (fun byte => byte ≠ 0x00) = buffer.bytes offset k := by
  obtain ⟨m, rfl⟩ := Nat.exists_eq_add_of_le hk
  have hbefore : ∀ byte ∈ buffer.bytes offset k, decide (byte ≠ 0x00) = true := by
    intro byte hb
    obtain ⟨i, hi, rfl⟩ := List.mem_map.mp hb
    exact decide_eq_true (hgo _ (Nat.le_add_right _ _)
      (Nat.add_lt_add_left (List.mem_range.mp hi) _))
  rw [Nat.succ_eq_add_one, bytes_split, List.takeWhile_append_of_pos hbefore,
    List.takeWhile_cons_of_neg (by simp [hstop]), List.append_nil]

theorem le_scanRemoteName (fuel length : Nat) : length ≤ scanRemoteName buffer n fuel length := by
  induction fuel generalizing length with
  | zero => exact Nat.le_refl _
  | succ fuel ih =>
    rw [scanRemoteName]
    split
    · exact Nat.le_of_succ_le (ih (length + 1))
    · exact Nat.le_refl _

-- the scan reads every byte up to the one it stops at
theorem scanRemoteNameReads_eq {fuel length : Nat} (hf : 0 < fuel) (hn : n < length + 8 + fuel) :
    scanRemoteNameReads buffer n fuel length =
      List.range' (length + 8) (scanRemoteName buffer n fuel length + 1 - length) := by
  induction fuel generalizing length with
  | zero => exact absurd hf (Nat.lt_irrefl 0)
  | succ fuel ih =>
    rw [scanRemoteNameReads, scanRemoteName]
    by_cases hgo : buffer (length + 8) ≠ 0 ∧ length + 8 < n
    · have hle := @le_scanRemoteName buffer n fuel (length + 1)
      have hsize : scanRemoteName buffer n fuel (length + 1) + 1 - length =
          scanRemoteName buffer n fuel (length + 1) + 1 - (length + 1) + 1 := by omega
      rw [if_pos hgo, if_pos hgo, ih (by omega) (by omega), hsize, List.range'_succ]
    · rw [if_neg hgo, if_neg hgo, Nat.add_sub_cancel_left]
      rfl

theorem remoteNameReads_eq (hn : 0 < n) : remoteNameReads buffer n =
    List.range' 9 (remoteNameLength buffer n) ++ List.range' 9 (remoteNameLength buffer n) := by
  rw [remoteNameReads, scanRemoteNameReads_eq hn (by omega), Nat.add_sub_cancel]
  rfl

theorem remoteNameReads_lt {k : Nat} (hk : 9 + k < n)
    (hlength : remoteNameLength buffer n = k + 1) : ∀ i ∈ remoteNameReads buffer n, i < n := by
  intro i hi
  rw [remoteNameReads_eq (by omega), List.mem_append, or_self, hlength] at hi
  have hlt := (List.mem_range'_1.mp hi).2
  omega

theorem remoteNameReads_reaches (hnul : ∀ i, 9 ≤ i → i < n → buffer i ≠ 0) :
    max 9 n ∈ remoteNameReads buffer n := by
  refine List.mem_append_right _ (List.mem_range'_1.mpr ?_)
  rw [remoteName_reaches hnul]
  omega

theorem remoteNameLength_of_first {k : Nat} (hk : 9 + k < n)
    (hgo : ∀ i, 9 ≤ i → i < 9 + k → buffer i ≠ 0) (hstop : buffer (9 + k) = 0) :
    remoteNameLength buffer n = k + 1 := by
  refine remoteNameLength_eq (by omega) (fun i hi hi' => ?_) (.inl ?_) (by omega)
  · exact ⟨hgo (i + 8) (by omega) (by omega), by omega⟩
  · rwa [show k + 1 + 8 = 9 + k by omega]

theorem name_bytes {k : Nat} (hk : 9 + k < n) (hgo : ∀ i, 9 ≤ i → i < 9 + k → buffer i ≠ 0)
    (hstop : buffer (9 + k) = 0) :
    buffer.bytes 9 (k + 1) =
      (buffer.bytes 9 (n - 9)).takeWhile (fun byte => byte ≠ 0x00) ++ [0x00] := by
  rw [takeWhile_bytes (by omega) hgo hstop]
  exact (bytes_split 9 k 0).trans (by rw [hstop]; rfl)

variable {w : World} {a : BdAddr} {device : BthDevice}

theorem remoteName_rename (h : w.children.lookup a = some device) (name : List BYTE)
    (letter : BYTE) :
    ∃ renamed, (w.rename a name letter).children.lookup a = some renamed ∧
      renamed.remoteName = some w.pool.next := by
  have hname : ∃ d, (w.modify a (setRemoteName name)).children.lookup a = some d ∧
      d.remoteName = some w.pool.next := by
    refine ⟨_, by rw [lookup_modify_self, h]; rfl, ?_⟩
    simp [setRemoteName, Assignment.apply, (pool_free? device.remoteName).2]
  have hreport (v : World) (hv : ∃ d, v.children.lookup a = some d ∧
      d.remoteName = some w.pool.next) : ∃ d, (v.modify a initOutputReport).children.lookup a =
      some d ∧ d.remoteName = some w.pool.next := by
    obtain ⟨d, hd, hp⟩ := hv
    refine ⟨_, by rw [lookup_modify_self, hd]; rfl, ?_⟩
    cases ht : d.deviceType <;> simp [initOutputReport, ht, Assignment.apply, hp]
  rw [World.rename]
  cases deviceTypeOfRemoteName letter with
  | none => exact hreport _ hname
  | some type =>
    refine hreport _ ?_
    obtain ⟨d, hd, hp⟩ := hname
    refine ⟨{ d with deviceType := type }, ?_, hp⟩
    rw [Option.elim_some, lookup_modify_self, hd]
    rfl

-- the first terminator is the one the scan stops at
theorem exists_first (h : ∃ i, 9 ≤ i ∧ i < n ∧ buffer i = 0) :
    ∃ k, 9 + k < n ∧ (∀ i, 9 ≤ i → i < 9 + k → buffer i ≠ 0) ∧ buffer (9 + k) = 0 := by
  obtain ⟨i, hi, hlt, hz⟩ := h
  have hex : ∃ k, buffer (9 + k) = 0 := ⟨i - 9, by rwa [Nat.add_sub_cancel' hi]⟩
  refine ⟨Nat.find hex, ?_, fun j hj hjk hzj => ?_, Nat.find_spec hex⟩
  · have := Nat.find_min' hex (m := i - 9) (by rwa [Nat.add_sub_cancel' hi])
    omega
  · exact Nat.find_min hex (m := j - 9) (by omega) (by rwa [Nat.add_sub_cancel' hj])

end

theorem stores_remote_name_iff (w : World) (buffer : Buffer) (n : Nat)
    (he : HciEvent.ofCode (buffer 0) = some .remoteNameRequestComplete) (h₂ : buffer 2 = 0)
    (hpresent : (w.children.lookup (BdAddr.fromBuffer buffer 3)).isSome = true) :
    StoresRemoteName w buffer n ↔ ∃ i, 9 ≤ i ∧ i < n ∧ buffer i = 0 := by
  constructor
  · intro hs
    by_contra hnone
    have hnul : ∀ i, 9 ≤ i → i < n → buffer i ≠ 0 := fun i hi hlt hz => hnone ⟨i, hi, hlt, hz⟩
    have hlt := hs.reads _ (remoteNameReads_reaches hnul)
    omega
  · intro hz
    obtain ⟨k, hk, hgo, hstop⟩ := exists_first hz
    have hlength := remoteNameLength_of_first hk hgo hstop
    refine ⟨fun hend => hend.1 ?_, remoteNameReads_lt hk hlength, ?_⟩
    · rwa [hlength, show k + 1 + 8 = 9 + k by omega]
    · obtain ⟨device, hd⟩ := Option.isSome_iff_exists.mp hpresent
      have hlookup : w.clearLog.children.lookup (BdAddr.fromBuffer buffer 3) = some device := hd
      have hstep : w.step (.hci buffer n) =
          w.clearLog.rename (BdAddr.fromBuffer buffer 3) (buffer.bytes 9 (k + 1)) (buffer 9) := by
        have hevent : w.step (.hci buffer n) = _ := onEvent_eq (by omega) he w
        rw [hevent, dispatchEvent, exec_hciRemoteNameRequestCompleteEv, if_pos h₂, hlength]
      obtain ⟨renamed, hr, hp⟩ := remoteName_rename hlookup (buffer.bytes 9 (k + 1)) (buffer 9)
      rw [hstep]
      refine ⟨renamed, _, hr, hp, ?_⟩
      rw [bytes_rename hlookup, name_bytes hk hgo hstop]

-- what stands after the 248 bytes of the name was left there by an earlier transfer
def staleName : Buffer := fun i =>
  if i < 9 then [0x07, 0xFF, 0x00, 0x01, 0x02, 0x03, 0x04, 0x05, 0x06].getD i 0 else 0x50

def namedPad : Buffer :=
  Buffer.ofList [0x07, 0xFF, 0x00, 0x01, 0x02, 0x03, 0x04, 0x05, 0x06, 0x50, 0x4C, 0x00]

theorem stores_remote_name_namedPad :
    StoresRemoteName (connectedWithRead someAddress .zero) namedPad 257 ↔
      ∃ i, 9 ≤ i ∧ i < 257 ∧ namedPad i = 0 :=
  stores_remote_name_iff (connectedWithRead someAddress .zero) namedPad 257 rfl rfl rfl

theorem stale_byte_stored :
    ¬ ∀ (w : World) (buffer : Buffer) (n : Nat), 10 ≤ n → n ≤ transferLength →
      HciEvent.ofCode (buffer 0) = some .remoteNameRequestComplete → buffer 2 = 0 →
        (w.children.lookup (BdAddr.fromBuffer buffer 3)).isSome = true →
          StoresRemoteName w buffer n := by
  intro hclaim
  have hs := hclaim (connectedWithRead someAddress .zero) staleName 257 (by decide) (by decide) rfl rfl rfl
  have hnul (i : Nat) (hi : 9 ≤ i) (_ : i < 257) : staleName i ≠ 0 := by
    rw [staleName, if_neg (Nat.not_lt_of_le hi)]
    decide
  exact absurd (hs.reads _ (remoteNameReads_reaches hnul)) (by decide)

end WireShock
