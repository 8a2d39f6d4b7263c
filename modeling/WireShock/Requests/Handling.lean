import WireShock.Requests.Completion

namespace WireShock.DsHid
open Interaction

-- the request in the handler's hands is forwarded to its child's queue or completed, once; a
-- synchronous framework never answers STATUS_PENDING
def requestMonitor (sync : Prop) (address : BdAddr) (queue : Option Handle) (r : Request) :
    Monitor framework (Option Request) where
  allowed
    | .requestForwardToIoQueue s q, m => (s = r ∧ q = queue) ∧ m = some r
    | .requestComplete s _, m => s = r ∧ m = some r
    | _, _ => True
  admits
    | .pdoRetrieveAddressDescription a, reply => (sync → reply.1 ≠ statusPending) ∧
        (a = address → ntSuccess reply.1 = true → reply.2.hidInputReportQueue = queue)
    | .pdoRetrieveIdentificationDescription _, reply => sync → reply.1 ≠ statusPending
    | .requestRetrieveOutputMemory _, status => sync → status ≠ statusPending
    | .memoryCopyFromBuffer _ _, status => sync → status ≠ statusPending
    | _, _ => True
  observe
    | .requestForwardToIoQueue _ _, status, m => if ntSuccess status then none else m
    | .requestComplete _ _, _, _ => none
    | _, _, m => m

def Call.Passive : Call → Prop
  | .requestForwardToIoQueue _ _ => False
  | .requestComplete _ _ => False
  | _ => True

def Kept (sync : Prop) (r : Request) (status : NTSTATUS) (n : Option Request) : Prop :=
  (sync → status ≠ statusPending) ∧ n = some r

def Retains (sync : Prop) (address : BdAddr) (queue : Option Handle) (r : Request)
    (p : Driver NTSTATUS) : Prop :=
  (requestMonitor sync address queue r).Follows p (Kept sync r) (some r)

def Settled (sync : Prop) (r : Request) (status : NTSTATUS) (n : Option Request) : Prop :=
  (status ≠ statusPending → n = some r) ∧ (sync → status = statusPending → n = none)

section

variable {sync : Prop} {α : Type} {address : BdAddr} {queue : Option Handle} {r : Request}
  {m : Option Request} {status : NTSTATUS}

theorem settled_of_kept {n : Option Request} (h : Kept sync r status n) : Settled sync r status n :=
  ⟨fun _ => h.2, fun hs hp => absurd hp (h.1 hs)⟩

theorem neutral_of_passive {c : Call} (h : c.Passive) :
    (requestMonitor sync address queue r).Neutral c := by
  cases c <;> first | exact fun _ => ⟨trivial, fun _ => rfl⟩ | exact h.elim

theorem follows_passive {c : Call} {f : c.Reply → Driver α} {Q : α → Option Request → Prop}
    (hc : c.Passive) (hf : ∀ reply, (requestMonitor sync address queue r).admits c reply →
      (requestMonitor sync address queue r).Follows (f reply) Q m) :
    (requestMonitor sync address queue r).Follows (call c >>= f) Q m :=
  Monitor.follows_bind_neutral (neutral_of_passive hc) hf

theorem kept_pure (h : sync → status ≠ statusPending) :
    Retains sync address queue r (pure status) := Monitor.follows_pure ⟨h, rfl⟩

theorem kept_of_ne (h : status ≠ statusPending) : Retains sync address queue r (pure status) :=
  kept_pure fun _ => h

theorem kept_dsHidRequestCopyFromBuffer (source : Option (List BYTE)) :
    Retains sync address queue r (dsHidRequestCopyFromBuffer r source) := by
  cases source with
  | none => exact kept_of_ne (by decide)
  | some data =>
    refine follows_passive trivial fun status hs => ?_
    refine Monitor.follows_ite (fun _ => kept_pure hs) fun _ => ?_
    refine follows_passive trivial fun (length : Nat) _ => ?_
    refine Monitor.follows_ite (fun _ => kept_of_ne (by decide)) fun _ => ?_
    refine follows_passive trivial fun status hs => ?_
    refine Monitor.follows_ite (fun _ => kept_pure hs) fun _ => ?_
    exact follows_passive trivial fun _ _ => kept_pure hs

theorem follows_dsHidGetStringId :
    (requestMonitor sync address queue r).Follows (dsHidGetStringId r)
      (fun id n => id.1 = statusSuccess ∧ n = some r) (some r) :=
  follows_passive trivial fun _ _ => Monitor.follows_pure ⟨rfl, rfl⟩

theorem kept_dsHidGetIndexedString (dsType : DsDeviceType) :
    Retains sync address queue r (dsHidGetIndexedString r dsType) := by
  refine Monitor.follows_bind follows_dsHidGetStringId fun id n hid => ?_
  obtain ⟨status, index, language⟩ := id
  obtain ⟨rfl, rfl⟩ := hid
  refine Monitor.follows_ite (fun _ => ?_) fun _ => kept_of_ne (by decide)
  cases dsType with
  | ps3Dualshock =>
    exact Monitor.follows_ite (fun _ => kept_of_ne (by decide)) fun _ =>
      kept_dsHidRequestCopyFromBuffer _
  | _ => exact kept_of_ne (by decide)

theorem kept_dsHidGetString (dsType : DsDeviceType) :
    Retains sync address queue r (dsHidGetString r dsType) := by
  refine Monitor.follows_bind follows_dsHidGetStringId fun id n hid => ?_
  obtain ⟨status, index, language⟩ := id
  obtain ⟨rfl, rfl⟩ := hid
  refine Monitor.follows_ite (fun _ => kept_of_ne (by decide)) fun _ => ?_
  refine Monitor.follows_ite (fun _ => kept_dsHidRequestCopyFromBuffer _) fun _ => ?_
  exact Monitor.follows_ite (fun _ => kept_dsHidRequestCopyFromBuffer _) fun _ =>
    kept_of_ne (by decide)

theorem kept_copyDeviceDescriptor (descriptor : HidDescriptor) :
    (requestMonitor sync address queue r).Follows (copyDeviceDescriptor r descriptor)
      (fun result => Kept sync r result.1) (some r) :=
  follows_passive trivial fun _ hs => Monitor.follows_pure ⟨hs, rfl⟩

theorem kept_dsHidGetDeviceDescriptor (mode : DsHidDeviceMode) :
    (requestMonitor sync address queue r).Follows (dsHidGetDeviceDescriptor r mode)
      (fun result => Kept sync r result.1) (some r) := by
  refine follows_passive trivial fun status hs => ?_
  refine Monitor.follows_ite (fun _ => Monitor.follows_pure ⟨hs, rfl⟩) fun _ => ?_
  cases mode with
  | single => exact kept_copyDeviceDescriptor _
  | multi => exact kept_copyDeviceDescriptor _
  | other value => exact Monitor.follows_pure ⟨hs, rfl⟩

theorem kept_copyReportDescriptor (descriptor : HidDescriptor) (reportDescriptor : List BYTE) :
    (requestMonitor sync address queue r).Follows
      (copyReportDescriptor r descriptor reportDescriptor) (fun result => Kept sync r result.1)
      (some r) := by
  have hs : statusInvalidDeviceState ≠ statusPending := by decide
  refine Monitor.follows_ite (fun _ => Monitor.follows_pure ⟨fun _ => hs, rfl⟩) fun _ => ?_
  exact follows_passive trivial fun _ hs => Monitor.follows_pure ⟨hs, rfl⟩

theorem kept_dsHidGetReportDescriptor (mode : DsHidDeviceMode) :
    (requestMonitor sync address queue r).Follows (dsHidGetReportDescriptor r mode)
      (fun result => Kept sync r result.1) (some r) := by
  refine follows_passive trivial fun status hs => ?_
  refine Monitor.follows_ite (fun _ => Monitor.follows_pure ⟨hs, rfl⟩) fun _ => ?_
  -- the descriptors are named, or the check of their lengths is evaluated
  generalize ds3HidDescriptorSplitMode = split, ds3HidDescriptorSingleMode = single
  cases mode with
  | single => exact kept_copyReportDescriptor single _
  | multi => exact kept_copyReportDescriptor split _
  | other value => exact Monitor.follows_pure ⟨hs, rfl⟩

theorem kept_reportBytesCopied {result : NTSTATUS × Nat} (h : sync → result.1 ≠ statusPending) :
    Retains sync address queue r (reportBytesCopied r result) :=
  Monitor.follows_ite (fun _ => kept_pure h) fun _ => follows_passive trivial fun _ _ => kept_pure h

theorem kept_reverseBetween (lo hi : Nat) :
    (requestMonitor sync address queue r).Follows (reverseBetween r lo hi) (fun _ n => n = some r)
      (some r) := by
  induction lo, hi using reverseBetween.induct with
  | case1 lo hi h ih =>
    rw [reverseBetween, if_pos h]
    refine follows_passive trivial fun _ _ => follows_passive trivial fun _ _ => ?_
    exact follows_passive trivial fun _ _ => follows_passive trivial fun _ _ => ih
  | case2 lo hi h =>
    rw [reverseBetween, if_neg h]
    exact Monitor.follows_pure rfl

theorem kept_writeAddress (a : BdAddr) (h : sync → status ≠ statusPending) :
    Retains sync address queue r (do writeAddress r a; return status) := by
  refine Monitor.follows_bind (Q := fun _ n => n = some r)
    (follows_passive trivial fun _ _ => kept_reverseBetween _ _) fun _ n hn => ?_
  subst hn
  exact kept_pure h

theorem kept_getFeature (context : DeviceContext) (packet : HidXferPacket) :
    Retains sync address queue r (getFeature context address r packet) := by
  refine Monitor.follows_ite (fun _ => kept_writeAddress _ fun _ => by decide) fun _ => ?_
  refine Monitor.follows_ite (fun _ => follows_passive trivial fun reply hs => ?_) fun _ => ?_
  · exact Monitor.follows_ite (fun _ => kept_pure hs) fun _ => kept_writeAddress _ hs
  refine Monitor.follows_ite (fun _ => follows_passive trivial fun reply hs => ?_) fun _ => ?_
  · exact Monitor.follows_ite (fun _ => kept_pure hs.1) fun _ =>
      follows_passive trivial fun _ _ => kept_pure hs.1
  · exact Monitor.follows_ite (fun _ => follows_passive trivial fun _ _ => kept_of_ne (by decide))
      fun _ => kept_of_ne (by decide)

theorem kept_withTransferPacket {length : RequestParameters → Nat}
    {f : HidXferPacket → Driver NTSTATUS}
    (hf : ∀ packet, Retains sync address queue r (f packet)) :
    Retains sync address queue r (do
      match ← dsHidRequestGetHidXferPacket r length with
      | .error status => return status
      | .ok packet => f packet) := by
  refine Monitor.follows_bind (Q := fun result n => n = some r ∧
    (result = .error statusBufferTooSmall ∨ ∃ packet, result = .ok packet)) ?_ fun result n hn => ?_
  · refine follows_passive trivial fun params _ => Monitor.follows_ite (fun _ => ?_) fun _ => ?_
    · exact Monitor.follows_pure ⟨rfl, .inl rfl⟩
    · exact follows_passive trivial fun packet _ => Monitor.follows_pure ⟨rfl, .inr ⟨packet, rfl⟩⟩
  · obtain ⟨rfl, rfl | ⟨packet, rfl⟩⟩ := hn
    · exact kept_of_ne (by decide)
    · exact hf packet

theorem kept_setFeature (packet : HidXferPacket) :
    Retains sync address queue r (pure (setFeature packet)) := by
  unfold setFeature
  split <;> exact kept_of_ne (by decide)

theorem kept_withDescription {f : BthDevice → Driver NTSTATUS}
    (hf : ∀ device, Retains sync address queue r (f device)) :
    Retains sync address queue r (do
      let (status, device) ← pdoRetrieveAddressDescription address
      if !ntSuccess status then
        return status
      f device) :=
  follows_passive trivial fun _ hs => Monitor.follows_ite (fun _ => kept_pure hs.1) fun _ => hf _

theorem settled_hidReadReport :
    (requestMonitor sync address queue r).Follows (do
      let status ← requestForwardToIoQueue r queue
      if !ntSuccess status then
        return status
      return statusPending) (Settled sync r) (some r) := by
  refine Monitor.follows_bind (Q := fun status n => n = if ntSuccess status then none else some r)
    (Monitor.follows_perform ⟨⟨rfl, rfl⟩, rfl⟩ fun _ _ => rfl) fun status n hn => ?_
  cases hs : ntSuccess status with
  | true => exact Monitor.follows_pure ⟨fun h => absurd rfl h, fun _ _ => by simpa [hs] using hn⟩
  | false =>
    have hp : status ≠ statusPending := by
      rintro rfl
      exact absurd hs (by decide)
    exact Monitor.follows_pure (settled_of_kept ⟨fun _ => hp, by simpa [hs] using hn⟩)

theorem kept_dispatchIoControlCode (context : DeviceContext) (device : BthDevice)
    {code : IoControlCode} (hc : code ≠ .hidReadReport) :
    Retains sync address queue r (dispatchIoControlCode context address device r code) := by
  cases code with
  | hidReadReport => exact absurd rfl hc
  | hidGetDeviceDescriptor =>
    refine Monitor.follows_bind (kept_dsHidGetDeviceDescriptor _) fun result n hn => ?_
    rw [hn.2]
    exact kept_reportBytesCopied hn.1
  | hidGetReportDescriptor =>
    refine Monitor.follows_bind (kept_dsHidGetReportDescriptor _) fun result n hn => ?_
    rw [hn.2]
    exact kept_reportBytesCopied hn.1
  | hidGetDeviceAttributes => exact kept_of_ne (by decide)
  | hidGetFeature =>
    refine kept_withTransferPacket fun _ => ?_
    refine Monitor.follows_bind (kept_getFeature _ _) fun status n hn => ?_
    rw [hn.2]
    exact follows_passive trivial fun _ _ => kept_pure hn.1
  | hidSetFeature => exact kept_withTransferPacket fun _ => kept_setFeature _
  | hidGetString => exact kept_withDescription fun _ => kept_dsHidGetString _
  | hidGetIndexedString => exact kept_withDescription fun _ => kept_dsHidGetIndexedString _
  | other code => exact kept_of_ne (by decide)

theorem settled_dispatchIoControlCode (context : DeviceContext)
    {device : BthDevice} (hq : device.hidInputReportQueue = queue) (code : IoControlCode) :
    (requestMonitor sync address queue r).Follows
      (dispatchIoControlCode context address device r code) (Settled sync r) (some r) := by
  by_cases hc : code = .hidReadReport
  · subst hc
    rw [dispatchIoControlCode, hq]
    exact settled_hidReadReport
  · exact Monitor.follows_mono (fun _ _ => settled_of_kept)
      (kept_dispatchIoControlCode context device hc)

theorem follows_handler (code : IoControlCode) :
    (requestMonitor sync address queue r).Follows
      (wireChildEvtWdfIoQueueIoInternalDeviceControl address r code)
      (fun _ n => sync → n = none) (some r) := by
  refine follows_passive trivial fun context _ => follows_passive trivial fun reply hs => ?_
  refine Monitor.follows_ite (fun _ => ?_) fun hr => ?_
  · exact Monitor.follows_bind (Q := fun _ n => n = none)
      (Monitor.follows_perform ⟨rfl, rfl⟩ fun _ _ => rfl) fun _ _ hn =>
        Monitor.follows_pure fun _ => hn
  · have hq := hs.2 rfl (by simpa using hr)
    refine Monitor.follows_bind (settled_dispatchIoControlCode _ hq _) fun status n hn => ?_
    refine Monitor.follows_ite (fun hp => ?_) fun hp => Monitor.follows_pure fun hs => ?_
    · exact Monitor.follows_perform ⟨rfl, hn.1 hp⟩ fun _ _ _ => rfl
    · exact hn.2 hs (not_not.mp hp)

end

end WireShock.DsHid
