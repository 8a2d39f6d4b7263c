import WireShock.Interaction.Segments
import WireShock.Requests.BufferWrites

namespace WireShock
open Interaction

theorem Buffer.overlay_singleton (buffer : Buffer) (offset : Nat) (byte : BYTE) :
    buffer.overlay offset [byte] = Function.update buffer offset byte := by
  funext i
  rcases eq_or_ne i offset with rfl | h
  · simp [Buffer.overlay]
  · rw [Function.update_of_ne h, Buffer.overlay, if_neg]
    rw [List.length_singleton]
    omega

namespace DsHid

def Call.touches : (c : Call) → c.Reply → List Nat
  | .readReportBuffer _ offset, _ => [offset]
  | .writeReportBuffer _ offset data, _ => List.range' offset data.length
  | _, _ => []

-- the offsets of the report buffer that a run reads or writes, one for each byte
def touched {α : Type} (p : Driver α) (s : System) : List Nat :=
  Program.gather respond Call.touches p s

end DsHid

def System.setReportBuffer (s : System) (r : Request) (buffer : Buffer) : System :=
  s.updateRequest r fun q => { q with reportBuffer := buffer }

section

variable {s : System} {r : Request} {lo hi : Nat}

theorem setReportBuffer_self : s.setReportBuffer r (s.requests r).reportBuffer = s := by
  have hr : Function.update s.requests r (s.requests r) = s.requests :=
    Function.update_eq_self ..
  show { s with requests := Function.update s.requests r (s.requests r) } = s
  rw [hr]

theorem reportBuffer_set (buffer : Buffer) :
    ((s.setReportBuffer r buffer).requests r).reportBuffer = buffer := by
  simp [System.setReportBuffer, System.updateRequest]

theorem setReportBuffer_set (first second : Buffer) :
    (s.setReportBuffer r first).setReportBuffer r second = s.setReportBuffer r second := by
  simp [System.setReportBuffer, System.updateRequest]

namespace DsHid

theorem exec_readReportBuffer (offset : Nat) :
    exec (readReportBuffer r offset) s = ((s.requests r).reportBuffer offset, s) := rfl

theorem exec_writeReportBuffer (offset : Nat) (data : List BYTE) :
    exec (writeReportBuffer r offset data) s =
      ((), s.setReportBuffer r ((s.requests r).reportBuffer.overlay offset data)) := rfl

theorem exec_reverseBetween_of_le (h : ¬ lo < hi) :
    exec (reverseBetween r lo hi) s = ((), s) := by
  rw [reverseBetween, if_neg h]
  rfl

theorem exec_reverseBetween_step (h : lo < hi) :
    exec (reverseBetween r lo hi) s =
      exec (reverseBetween r (lo + 1) (hi - 1))
        (s.setReportBuffer r (exchange (s.requests r).reportBuffer lo hi)) := by
  rw [reverseBetween, if_pos h]
  simp only [exec_bind, exec_readReportBuffer, exec_writeReportBuffer, reportBuffer_set,
    setReportBuffer_set, Buffer.overlay_singleton]
  rfl

theorem exec_reverseBetween :
    exec (reverseBetween r lo hi) s =
      ((), s.setReportBuffer r (mirror (s.requests r).reportBuffer lo hi)) := by
  induction lo, hi using reverseBetween.induct generalizing s with
  | case1 lo hi h ih =>
    rw [exec_reverseBetween_step h, ih, reportBuffer_set, setReportBuffer_set, mirror_exchange h]
  | case2 lo hi h =>
    rw [exec_reverseBetween_of_le h, mirror_of_le (Nat.le_of_not_lt h), setReportBuffer_self]

@[simp] theorem touched_bind {α β : Type} (p : Driver α) (f : α → Driver β) :
    touched (p >>= f) s = touched p s ++ touched (f (exec p s).1) (exec p s).2 :=
  Program.gather_bind respond Call.touches p f s

@[simp] theorem touched_readReportBuffer (offset : Nat) :
    touched (readReportBuffer r offset) s = [offset] := rfl

@[simp] theorem touched_writeReportBuffer (offset : Nat) (byte : BYTE) :
    touched (writeReportBuffer r offset [byte]) s = [offset] := rfl

theorem touched_reverseBetween_of_le (h : ¬ lo < hi) : touched (reverseBetween r lo hi) s = [] := by
  rw [reverseBetween, if_neg h]
  rfl

theorem touched_reverseBetween_step (h : lo < hi) :
    ∃ t, touched (reverseBetween r lo hi) s =
      [lo, hi, lo, hi] ++ touched (reverseBetween r (lo + 1) (hi - 1)) t := by
  rw [reverseBetween, if_pos h]
  simp only [touched_bind, touched_readReportBuffer, touched_writeReportBuffer, List.cons_append,
    List.nil_append]
  exact ⟨_, rfl⟩

theorem touched_between {offset : Nat} (ho : offset ∈ touched (reverseBetween r lo hi) s) :
    lo ≤ offset ∧ offset ≤ hi := by
  induction lo, hi using reverseBetween.induct generalizing s with
  | case1 lo hi h ih =>
    obtain ⟨t, ht⟩ := touched_reverseBetween_step (r := r) (s := s) h
    rw [ht, List.mem_append] at ho
    rcases ho with ho | ho
    · simp only [List.mem_cons, List.not_mem_nil, or_false] at ho
      omega
    · have hi := ih ho
      omega
  | case2 lo hi h =>
    rw [touched_reverseBetween_of_le h] at ho
    cases ho

theorem length_touched_reverseBetween :
    (touched (reverseBetween r lo hi) s).length = 4 * ((hi + 1 - lo) / 2) := by
  induction lo, hi using reverseBetween.induct generalizing s with
  | case1 lo hi h ih =>
    obtain ⟨t, ht⟩ := touched_reverseBetween_step (r := r) (s := s) h
    rw [ht, List.length_append, ih]
    simp only [List.length_cons, List.length_nil]
    omega
  | case2 lo hi h =>
    rw [touched_reverseBetween_of_le h, List.length_nil]
    omega

theorem exec_reverseByteArray (start size : Nat) :
    exec (reverseByteArray r start size) s = ((), s.setReportBuffer r
      (mirror (s.requests r).reportBuffer start (start + size - 1))) :=
  exec_reverseBetween

end DsHid
end

theorem bytes_mirror (buffer : Buffer) {start size length : Nat} (h : size ≤ length) :
    Buffer.bytes (mirror buffer start (start + size - 1)) start length =
      ((buffer.bytes start length).take size).reverse ++ (buffer.bytes start length).drop size := by
  obtain ⟨m, rfl⟩ := Nat.exists_eq_add_of_le h
  have hrest : Buffer.bytes (mirror buffer start (start + size - 1)) (start + size) m =
      buffer.bytes (start + size) m :=
    List.map_congr_left fun i _ => mirror_of_past (.inr (Nat.le_add_right _ i))
  rw [Buffer.bytes_add, Buffer.bytes_add, hrest, List.take_left' (Buffer.length_bytes ..),
    List.drop_left' (Buffer.length_bytes ..)]
  exact congrArg (· ++ _) (map_mirror buffer start size)

namespace System

variable (s : System) (r : Request) (start size : Nat)

def reversal : System := (DsHid.exec (DsHid.reverseByteArray r start size) s).2

-- the array is what the report buffer holds from start on
structure Reverses : Prop where
  bytes : ∀ length, size ≤ length →
    ((s.reversal r start size).requests r).reportBuffer.bytes start length =
      (((s.requests r).reportBuffer.bytes start length).take size).reverse ++
        ((s.requests r).reportBuffer.bytes start length).drop size
  touched : ∀ offset ∈ DsHid.touched (DsHid.reverseByteArray r start size) s,
    start ≤ offset ∧ offset < start + size
  swaps : (DsHid.touched (DsHid.reverseByteArray r start size) s).length = 4 * (size / 2)
  unchanged : ∃ buffer, s.reversal r start size = s.setReportBuffer r buffer ∧
    ∀ i, i < start ∨ start + size ≤ i → buffer i = (s.requests r).reportBuffer i
  twice : (s.reversal r start size).reversal r start size = s

theorem reverse_byte_array : s.Reverses r start size := by
  have hexec (t : System) : t.reversal r start size = t.setReportBuffer r
      (mirror (t.requests r).reportBuffer start (start + size - 1)) :=
    congrArg Prod.snd (DsHid.exec_reverseByteArray start size)
  refine ⟨fun length h => ?_, fun offset ho => ?_, ?_, ⟨_, hexec s, fun i hi => ?_⟩, ?_⟩
  · rw [hexec, reportBuffer_set]
    exact bytes_mirror _ h
  · have hb := DsHid.touched_between ho
    have hne : DsHid.touched (DsHid.reverseByteArray r start size) s ≠ [] :=
      List.ne_nil_of_mem ho
    have hlt : start < start + size - 1 := by
      by_contra hge
      exact hne (DsHid.touched_reverseBetween_of_le hge)
    omega
  · rw [DsHid.reverseByteArray, DsHid.length_touched_reverseBetween]
    omega
  · exact mirror_of_past hi
  · rw [hexec, hexec, reportBuffer_set, setReportBuffer_set, mirror_mirror, setReportBuffer_self]

end System
end WireShock
