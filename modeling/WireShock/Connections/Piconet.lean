import WireShock.Connections.Handles

namespace WireShock
open Interaction

structure AclHeader where
  handle : BthHandle
  boundary : BYTE
  broadcast : BYTE
deriving DecidableEq, Repr

def AclHeader.read (buffer : Buffer) : AclHeader where
  handle := ⟨buffer 0, buffer 1 &&& 0x0F⟩
  boundary := (buffer 1 >>> 4) &&& 0x03
  broadcast := buffer 1 >>> 6

def AclHeader.firstOf (handle : BthHandle) : AclHeader := ⟨handle, 0x02, 0x00⟩

namespace BthHandle

def Is12Bit (handle : BthHandle) : Prop := handle.msb &&& 0x0F = handle.msb

theorem is12Bit_of_le {handle : BthHandle} (h : handle.toUshort ≤ 0x0EFF) : handle.Is12Bit := by
  have hm : handle.msb.toNat ≤ 0x0E := by
    have h : handle.toUshort.toNat ≤ 0x0EFF := h
    rw [toUshort, BitVec.toNat_append, ← Nat.shiftLeft_add_eq_or_of_lt handle.lsb.isLt,
      Nat.shiftLeft_eq] at h
    omega
  have hall : ∀ x : BYTE, x.toNat ≤ 0x0E → x &&& 0x0F = x := by decide +kernel
  exact hall handle.msb hm

theorem unflagged {handle : BthHandle} (h : handle.Is12Bit) :
    handle = ⟨handle.flagged.lsb, handle.flagged.msb &&& 0x0F⟩ := by
  have hall : ∀ x : BYTE, x &&& 0x0F = x → x = (x ||| 0x20) &&& 0x0F := by decide +kernel
  obtain ⟨lsb, msb⟩ := handle
  exact congrArg (BthHandle.mk lsb) (hall msb h)

theorem flagged_injective {handle other : BthHandle} (hh : handle.Is12Bit) (ho : other.Is12Bit)
    (h : handle.flagged = other.flagged) : handle = other := by
  rw [unflagged hh, unflagged ho, h]

theorem flagged_ne_unset (handle : BthHandle) : handle.flagged ≠ .unset := by
  have hall : ∀ x : BYTE, x ||| 0x20 ≠ 0x00 := by decide +kernel
  exact fun h => hall handle.msb (congrArg BthHandle.msb h)

end BthHandle

theorem read_eq_firstOf {buffer : Buffer} {handle : BthHandle}
    (h : AclHeader.read buffer = .firstOf handle) :
    handle.Is12Bit ∧ BthHandle.fromBuffer buffer 0 = handle.flagged := by
  have hall : ∀ x : BYTE, (x >>> 4) &&& 0x03 = 0x02 → x >>> 6 = 0x00 →
      (x &&& 0x0F) &&& 0x0F = x &&& 0x0F ∧ x = (x &&& 0x0F) ||| 0x20 := by decide +kernel
  obtain ⟨hh, hb, hc⟩ := AclHeader.mk.inj h
  obtain ⟨h12, hm⟩ := hall (buffer 1) hb hc
  subst hh
  exact ⟨h12, congrArg (BthHandle.mk (buffer 0)) hm⟩

abbrev Links := BdAddr → Option BthHandle

namespace Links

def after (links : Links) : LinkEvent → Links
  | .requested _ => links
  | .opened a handle => fun b => if b = a then some handle else links b
  | .closed handle => fun b => if links b = some handle then none else links b

section

variable {links : Links} {a b : BdAddr} {handle : BthHandle}

theorem after_opened :
    links.after (.opened a handle) b = if b = a then some handle else links b := rfl

theorem after_closed :
    links.after (.closed handle) b = if links b = some handle then none else links b := rfl

end

def Reports (links : Links) : LinkEvent → Prop
  | .requested a => links a = none
  | .opened a handle => links a = none ∧ handle.toUshort ≤ 0x0EFF ∧ ∀ b, links b ≠ some handle
  | .closed handle => ∃ a, links a = some handle

end Links

def Event.isTransfer : Event → Bool
  | .hci _ _ => true
  | .acl _ _ => true
  | _ => false

structure Piconet where
  world : World
  links : Links

namespace Piconet

def initial (environment : Environment) : Piconet := ⟨World.initial environment, fun _ => none⟩

def step (s : Piconet) (e : Event) : Piconet :=
  ⟨s.world.step e, e.linkEvent.elim s.links s.links.after⟩

structure Legal (s : Piconet) (e : Event) : Prop where
  reports : ∀ link, e.linkEvent = some link → s.links.Reports link
  created : e.isTransfer = true → s.world.children.AllCreated

structure Tracked (s : Piconet) : Prop where
  unwritten : s.world.unwrittenHandle = .unset
  stored : ∀ a handle, s.world.handle a = some handle →
    handle = (s.links a).elim .unset BthHandle.flagged
  is12Bit : ∀ a handle, s.links a = some handle → handle.Is12Bit
  injective : ∀ a b handle, s.links a = some handle → s.links b = some handle → a = b

section

variable {s : Piconet} {e : Event} {a : BdAddr} {handle : BthHandle}

theorem isTransfer_of_linkEvent {link : LinkEvent} (h : e.linkEvent = some link) :
    e.isTransfer = true := by
  cases e with
  | hci buffer n => rfl
  | _ => cases h

theorem legal_of_link (link : LinkEvent) (he : e.linkEvent = some link)
    (hr : s.links.Reports link) (hc : s.world.children.AllCreated) : s.Legal e := by
  refine ⟨fun other ho => ?_, fun _ => hc⟩
  rw [he] at ho
  exact Option.some.inj ho ▸ hr

theorem legal_of_none (he : e.linkEvent = none)
    (hc : e.isTransfer = true → s.world.children.AllCreated) : s.Legal e := by
  refine ⟨fun link ho => ?_, hc⟩
  cases he.symm.trans ho

theorem tracked_initial {environment : Environment}
    (h : environment.unwritten.hciConnectionHandle = .unset) : (initial environment).Tracked := by
  refine ⟨h, fun a handle ha => ?_, fun a handle ha => ?_, fun a b handle ha _ => ?_⟩
  · simp [initial, World.handle, World.initial, ChildList.empty, ChildList.lookup] at ha
  · cases ha
  · cases ha

theorem linked_of_flagged (hs : s.Tracked) (hh : handle.Is12Bit)
    (h : s.world.handle a = some handle.flagged) : s.links a = some handle := by
  have hstored := hs.stored a handle.flagged h
  cases hl : s.links a with
  | none =>
    rw [hl] at hstored
    exact absurd hstored handle.flagged_ne_unset
  | some other =>
    rw [hl] at hstored
    rw [BthHandle.flagged_injective hh (hs.is12Bit a other hl) hstored]

theorem findByHandle_of_linked (hs : s.Tracked) (hc : s.world.children.AllCreated)
    (hl : s.links a = some handle) : s.world.children.findByHandle handle.flagged =
      (s.world.children.lookup a).map fun device => (a, device) := by
  have hunique : ∀ entry, s.world.children.findByHandle handle.flagged = some entry →
      entry.1 = a ∧ s.world.children.lookup a = some entry.2 := by
    rintro ⟨b, device⟩ hf
    obtain ⟨hd, hh⟩ := lookup_of_findByHandle hf
    have hb := linked_of_flagged hs (hs.is12Bit a handle hl)
      ((handle_of_lookup hd).trans (congrArg some hh))
    have hba := hs.injective b a handle hb hl
    exact ⟨hba, hba ▸ hd⟩
  cases hd : s.world.children.lookup a with
  | none =>
    cases hf : s.world.children.findByHandle handle.flagged with
    | none => rfl
    | some entry =>
      have h := (hunique entry hf).2
      rw [hd] at h
      cases h
  | some device =>
    have hh : device.hciConnectionHandle = handle.flagged := by
      have hstored := hs.stored a _ (handle_of_lookup hd)
      rwa [hl] at hstored
    obtain ⟨entry, hf⟩ := Option.isSome_iff_exists.mp (findByHandle_of_lookup hc hd hh)
    obtain ⟨ha, h⟩ := hunique entry hf
    rw [hd] at h
    cases h
    rw [hf, ← ha]
    rfl

theorem stored_requested (hs : s.Tracked) (he : e.linkEvent = some (.requested a))
    (hr : s.links a = none) (b : BdAddr) (other : BthHandle)
    (hb : (s.world.step e).handle b = some other) :
    other = (s.links b).elim .unset BthHandle.flagged := by
  rw [handle_step_requested s.world he] at hb
  split at hb
  · rename_i hba
    rw [hba, hr]
    cases hw : s.world.handle a with
    | none =>
      rw [hw] at hb
      exact (Option.some.inj hb).symm.trans hs.unwritten
    | some stored =>
      rw [hw] at hb
      have hstored := hs.stored a stored hw
      rw [hr] at hstored
      exact (Option.some.inj hb).symm.trans hstored
  · exact hs.stored b other hb

theorem stored_opened (hs : s.Tracked) (he : e.linkEvent = some (.opened a handle)) (b : BdAddr)
    (other : BthHandle) (hb : (s.world.step e).handle b = some other) :
    other = (s.links.after (.opened a handle) b).elim .unset BthHandle.flagged := by
  rw [handle_step_opened s.world he] at hb
  rw [Links.after_opened]
  split at hb
  · rename_i hba
    obtain ⟨_, -, rfl⟩ := Option.map_eq_some_iff.mp hb
    rw [if_pos hba]
    rfl
  · rename_i hba
    rw [if_neg hba]
    exact hs.stored b other hb

theorem lookup_step_closed (hs : s.Tracked) (hc : s.world.children.AllCreated)
    (he : e.linkEvent = some (.closed handle)) (hl : s.links a = some handle) (b : BdAddr) :
    (s.world.step e).children.lookup b = if b = a then none else s.world.children.lookup b := by
  rw [step_closed s.world he, findByHandle_of_linked hs hc hl]
  cases hd : s.world.children.lookup a with
  | none =>
    split
    · rename_i hb
      rw [hb]
      exact hd
    · rfl
  | some device => exact lookup_remove_world

theorem stored_closed (hs : s.Tracked) (hc : s.world.children.AllCreated)
    (he : e.linkEvent = some (.closed handle)) (hl : s.links a = some handle) (b : BdAddr)
    (other : BthHandle) (hb : (s.world.step e).handle b = some other) :
    other = (s.links.after (.closed handle) b).elim .unset BthHandle.flagged := by
  rw [World.handle, lookup_step_closed hs hc he hl] at hb
  split at hb
  · cases hb
  · rename_i hba
    have hne : s.links b ≠ some handle := fun h => hba (hs.injective b a handle h hl)
    rw [Links.after_closed, if_neg hne]
    exact hs.stored b other hb

theorem linked_after_opened {b : BdAddr} {other : BthHandle}
    (h : s.links.after (.opened a handle) b = some other) :
    b = a ∧ other = handle ∨ s.links b = some other := by
  rw [Links.after_opened] at h
  split at h
  · rename_i hb
    exact Or.inl ⟨hb, (Option.some.inj h).symm⟩
  · exact Or.inr h

theorem injective_opened (hs : s.Tracked) (hn : ∀ b, s.links b ≠ some handle) (b c : BdAddr)
    (other : BthHandle) (hb : s.links.after (.opened a handle) b = some other)
    (hc : s.links.after (.opened a handle) c = some other) : b = c := by
  rcases linked_after_opened hb with ⟨hba, hh⟩ | hlb
  · rcases linked_after_opened hc with ⟨hca, -⟩ | hlc
    · rw [hba, hca]
    · exact absurd (hh ▸ hlc) (hn c)
  · rcases linked_after_opened hc with ⟨-, hh⟩ | hlc
    · exact absurd (hh ▸ hlb) (hn b)
    · exact hs.injective b c other hlb hlc

theorem linked_after_closed {b : BdAddr} {other : BthHandle}
    (h : s.links.after (.closed handle) b = some other) : s.links b = some other := by
  rw [Links.after_closed] at h
  split at h
  · cases h
  · exact h

theorem tracked_step (hs : s.Tracked) (hl : s.Legal e) : (s.step e).Tracked := by
  have hu : (s.step e).world.unwrittenHandle = .unset :=
    (congrArg BthDevice.hciConnectionHandle (unwritten_step e)).trans hs.unwritten
  cases hlink : e.linkEvent with
  | none =>
    have hlinks : (s.step e).links = s.links := by rw [step, hlink]; rfl
    refine ⟨hu, fun a handle ha => ?_, ?_, ?_⟩
    · rw [hlinks]
      exact hs.stored a handle (shrinks_step_of_none s.world hlink a handle ha)
    · rw [hlinks]
      exact hs.is12Bit
    · rw [hlinks]
      exact hs.injective
  | some link =>
    have hlinks : (s.step e).links = s.links.after link := by rw [step, hlink]; rfl
    have hr := hl.reports link hlink
    cases link with
    | requested a => exact ⟨hu, hlinks ▸ stored_requested hs hlink hr, hlinks ▸ hs.is12Bit,
        hlinks ▸ hs.injective⟩
    | opened a handle =>
      refine ⟨hu, hlinks ▸ stored_opened hs hlink, fun b other hb => ?_,
        hlinks ▸ injective_opened hs hr.2.2⟩
      rcases linked_after_opened (hlinks ▸ hb) with ⟨-, rfl⟩ | hb
      · exact BthHandle.is12Bit_of_le hr.2.1
      · exact hs.is12Bit b other hb
    | closed handle =>
      obtain ⟨a, ha⟩ := hr
      have hc := hl.created (isTransfer_of_linkEvent hlink)
      refine ⟨hu, hlinks ▸ stored_closed hs hc hlink ha, ?_, ?_⟩
      · rw [hlinks]
        exact fun b other hb => hs.is12Bit b other (linked_after_closed hb)
      · rw [hlinks]
        exact fun b c other hb hc =>
          hs.injective b c other (linked_after_closed hb) (linked_after_closed hc)

end

end Piconet
end WireShock
