import WireShock.Requests.Features

namespace WireShock
open Interaction

namespace System

-- what a caller finds in its buffer when its query is completed successfully
def Returns (s : System) (a : BdAddr) (q : HidQuery) (request : HidRequest)
    (output data : List BYTE) : Prop :=
  ∃ status contents, ntSuccess status = true ∧
    .complete s.arrivals status data.length contents ∈
        (s.step (.ioctl a q.code request output)).world.log ∧
      contents.take data.length = data

section

variable {s : System} {a : BdAddr} {q : HidQuery} {request : HidRequest} {output data : List BYTE}
  {device : BthDevice} {descriptor : List BYTE}

theorem log_unreached (h : ¬ ∃ device, s.Reaches a device) :
    (s.step (.ioctl a q.code request output)).world.log =
      [.complete s.arrivals ((s.entered a request output).describe a).1
        ((s.entered a request output).requests s.arrivals).information
        ((s.entered a request output).world.outputBuffers s.arrivals)] := by
  change (DsHid.exec (DsHid.wireChildEvtWdfIoQueueIoInternalDeviceControl a s.arrivals q.code)
    (s.entered a request output)).2.world.log = _
  simp [DsHid.wireChildEvtWdfIoQueueIoInternalDeviceControl, describe_unreached h]
  rfl

theorem reaches_of_returns (h : s.Returns a q request output data) :
    ∃ device, s.Reaches a device := by
  by_contra hr
  obtain ⟨status, contents, hs, hm, -⟩ := h
  rw [log_unreached hr, List.mem_singleton] at hm
  rw [(Output.complete.inj hm).2.1, describe_unreached hr] at hs
  cases hs

theorem returns_of_outcome (hr : s.Reaches a device) {copied : List BYTE}
    (ho : DsHid.Refuses (DsHid.dispatchIoControlCode s.world.context a device s.arrivals q.code)
        (s.entered a request output).nextFramework ∨
      DsHid.Copies s.arrivals copied
        (DsHid.dispatchIoControlCode s.world.context a device s.arrivals q.code)
        (s.entered a request output).nextFramework)
    (h : s.Returns a q request output data) : data = copied := by
  obtain ⟨status, contents, hs, hm, hd⟩ := h
  rcases ho with ho | ho
  · obtain ⟨-, he⟩ := (mem_log_step hr ho.log).mp hm
    rw [(Output.complete.inj he).2.1, answer, ho.status] at hs
    cases hs
  · obtain ⟨-, he⟩ := (mem_log_step hr ho.log).mp hm
    have hlength : data.length = copied.length :=
      (Output.complete.inj he).2.2.1.trans ho.information
    have hcontents : contents = overlay output 0 copied := by
      rw [(Output.complete.inj he).2.2.2, answer, ho.output]
      exact congrArg (overlay · 0 copied) (Function.update_self ..)
    rw [← hd, hlength, hcontents, overlay, List.take_zero, List.nil_append, List.take_left]

theorem returns_deviceDescriptor (hr : s.Reaches a device)
    (hm : device.configuration.hidDeviceMode.reportDescriptor = some descriptor)
    (h : s.Returns a .getDeviceDescriptor request output data) :
    data = (DsHid.hidDescriptorFor descriptor).bytes := by
  have hruns := DsHid.runsAs_deviceDescriptor s.world.context a s.arrivals
    (s.entered a request output).nextFramework hm
  exact returns_of_outcome hr ((DsHid.descriptor_outcome s.arrivals _ _).imp hruns.refuses
    hruns.copies) h

theorem returns_reportDescriptor (hr : s.Reaches a device)
    (hm : device.configuration.hidDeviceMode.reportDescriptor = some descriptor)
    (h : s.Returns a .getReportDescriptor request output data) : data = descriptor := by
  have hruns := DsHid.runsAs_reportDescriptor s.world.context a s.arrivals
    (s.entered a request output).nextFramework hm
  exact returns_of_outcome hr ((DsHid.descriptor_outcome s.arrivals _ _).imp hruns.refuses
    hruns.copies) h

-- in a mode without a descriptor the query succeeds all the same, with nothing in the buffer
theorem returns_nothing (hr : s.Reaches a device)
    (hm : device.configuration.hidDeviceMode.reportDescriptor = none)
    (h : s.Returns a .getReportDescriptor request output data) : data = [] := by
  cases hs : ntSuccess (s.entered a request output).nextFramework.status with
  | false => exact returns_of_outcome hr (.inl (DsHid.descriptor_refuses (.inr rfl) hs)) h
  | true =>
    cases hmode : device.configuration.hidDeviceMode with
    | other value =>
      obtain ⟨status, contents, -, ho, -⟩ := h
      have hlog : (s.answer a .getReportDescriptor request output device).2.world.log = [] := by
        simp [answer, HidQuery.code, DsHid.dispatchIoControlCode, DsHid.dsHidGetReportDescriptor,
          hmode, hs]
        rfl
      have hi : ((s.answer a .getReportDescriptor request output device).2.requests
          s.arrivals).information = 0 := by
        simp [answer, HidQuery.code, DsHid.dispatchIoControlCode, DsHid.dsHidGetReportDescriptor,
          hmode, hs, updateRequest]
      obtain ⟨-, he⟩ := (mem_log_step hr hlog).mp ho
      exact List.length_eq_zero_iff.mp ((Output.complete.inj he).2.2.1.trans hi)
    | _ => simp [hmode, DsHidDeviceMode.reportDescriptor] at hm

-- a caller puts a length of two bytes together as the HID class driver does
def declaredReportLength (deviceDescriptor : List BYTE) : Nat :=
  (ushortAt (.ofList deviceDescriptor) 7).toNat

theorem declaredReportLength_eq {mode : DsHidDeviceMode}
    (hm : mode.reportDescriptor = some descriptor) :
    declaredReportLength (DsHid.hidDescriptorFor descriptor).bytes = descriptor.length := by
  have hbytes : ushortAt (.ofList (DsHid.hidDescriptorFor descriptor).bytes) 7 =
      (DsHid.hidDescriptorFor descriptor).wReportLength := by
    cases mode <;> cases hm <;> decide +kernel
  rw [declaredReportLength, hbytes, DsHid.wReportLength_eq hm]

theorem configuration_kept {es : List SystemEvent} {first last : BthDevice}
    (hpresent : ∀ part, part <+: es → ((runs step s part).identity a).isSome = true)
    (hs : s.Reaches a first) (h : (runs step s es).Reaches a last) :
    last.configuration = first.configuration := by
  have hkeep : ∀ (s : System) e i j, s.identity a = some i → (s.step e).identity a = some j →
      j.configuration = (none : Option DsDriverConfiguration).getD i.configuration := by
    intro s e i j hi hj
    rcases identity_step hj with ⟨k, hk, rfl⟩ | ⟨hn, -⟩
    · rw [Option.some.inj (hi.symm.trans hk)]
      cases e.namedType a <;> rfl
    · exact absurd (hn.symm.trans hi) (by simp)
  exact (told_while_present Identity.configuration (fun _ => none) hkeep
    hpresent (identity_of_reaches hs) (identity_of_reaches h)).trans
      (lastTold_of_silent fun _ _ => rfl)

end

-- a child is asked for its two descriptors one after the other, whatever happens in between while
-- it stays listed: the second has the length that the first declared
theorem descriptors_agree (s : System) (a : BdAddr) (es : List SystemEvent)
    (hpresent : ∀ part, part <+: es → ((runs step s part).identity a).isSome = true)
    (request later : HidRequest) (output rest descriptor data : List BYTE)
    (hd : s.Returns a .getDeviceDescriptor request output descriptor)
    (hr : (runs step s es).Returns a .getReportDescriptor later rest data) (hn : data ≠ []) :
    declaredReportLength descriptor = data.length ∧ descriptor.length = 9 := by
  obtain ⟨first, hfirst⟩ := reaches_of_returns hd
  obtain ⟨last, hlast⟩ := reaches_of_returns hr
  have hc : last.configuration = first.configuration := configuration_kept hpresent hfirst hlast
  cases hm : first.configuration.hidDeviceMode.reportDescriptor with
  | none => exact absurd (returns_nothing hlast (hc ▸ hm) hr) hn
  | some mode =>
    rw [returns_deviceDescriptor hfirst hm hd, returns_reportDescriptor hlast (hc ▸ hm) hr]
    exact ⟨declaredReportLength_eq hm, rfl⟩

def configured : List SystemEvent :=
  [.ioctl someAddress .hidSetFeature ⟨⟨0, 16, 0⟩, ⟨0xC6, 10⟩, fun _ => 0, 0⟩ []]

theorem descriptors_agree_configured :
    declaredReportLength (DsHid.hidDescriptorFor ds3HidReportDescriptorSingleMode).bytes =
        ds3HidReportDescriptorSingleMode.length ∧
      (DsHid.hidDescriptorFor ds3HidReportDescriptorSingleMode).bytes.length = 9 := by
  refine descriptors_agree (childInMode .single) someAddress configured (fun part hp => ?_) emptyRequest
    emptyRequest (List.replicate 9 0)
    (List.replicate ds3HidReportDescriptorSingleMode.length 0) _ _
    ⟨statusSuccess, (DsHid.hidDescriptorFor ds3HidReportDescriptorSingleMode).bytes,
      by decide, by decide +kernel, rfl⟩
    ⟨statusSuccess, ds3HidReportDescriptorSingleMode, by decide, by decide +kernel, ?_⟩
    (by decide +kernel)
  · cases part with
    | nil => decide +kernel
    | cons e rest =>
      obtain ⟨rfl, hrest⟩ := List.cons_prefix_cons.mp hp
      rw [List.prefix_nil.mp hrest]
      decide +kernel
  · decide +kernel

end System
end WireShock
