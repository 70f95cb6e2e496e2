import FirmwareUpgrade.Cli.Flash

/-!
# Whose functional descriptor a device is flashed with

A composite device has interfaces of several kinds, each with alternate settings, and behind each
setting come descriptors that belong to it alone. Other classes use the type and the length of a
functional descriptor as well, a keyboard for instance. `ReadFrom` says from which bytes of which
setting the descriptor of a device was read, and `DescribesDfu` what is wanted of it: that it belongs
to a DFU interface, and that one is found if a DFU interface has one.

This is not so for every device. Only the settings in force are searched, all of them alike, and the
first find counts. `describesDfu_iff` says for which layouts that is good enough.
-/
namespace FirmwareUpgrade

namespace AlternateSetting

/-- The setting belongs to an interface that speaks DFU. -/
def isDfu (a : AlternateSetting) : Bool :=
  a.interfaceClass == dfuClass && a.subclass == dfuSubclass

/-- The first descriptor of the setting that has the form of a functional descriptor. -/
def functional? (a : AlternateSetting) : Option Descriptor :=
  a.descriptors.findSome? Descriptor.decode?

theorem isSome_functional?_iff {a : AlternateSetting} :
    a.functional?.isSome ↔ ∃ raw ∈ a.descriptors, (Descriptor.decode? raw).isSome :=
  List.findSome?_isSome_iff

end AlternateSetting

namespace BusDevice

variable {d : BusDevice} {a : AlternateSetting} {raw : Bytes} {f : Descriptor}

/-- All settings of the first configuration, in force or not. -/
def firstSettings (d : BusDevice) : List AlternateSetting := d.configurations.headD []

/-- The functional descriptor `f` of the device was read from these bytes behind this setting: they are
the first ones of that form behind the first setting in force that has any. -/
structure ReadFrom (d : BusDevice) (a : AlternateSetting) (raw : Bytes) (f : Descriptor) : Prop where
  setting : ∃ before after, d.primarySettings = before ++ a :: after ∧
    ∀ b ∈ before, b.functional? = none
  bytes : ∃ before after, a.descriptors = before ++ raw :: after ∧
    ∀ r ∈ before, Descriptor.decode? r = none
  decoded : Descriptor.decode? raw = some f

theorem ReadFrom.mem_primarySettings (h : d.ReadFrom a raw f) : a ∈ d.primarySettings := by
  obtain ⟨before, after, hsplit, -⟩ := h.setting
  rw [hsplit]
  exact List.mem_append_right before (.head after)

theorem ReadFrom.functional?_eq (h : d.ReadFrom a raw f) : a.functional? = some f := by
  obtain ⟨before, after, hsplit, hnone⟩ := h.bytes
  exact List.findSome?_eq_some_iff.mpr ⟨before, raw, after, hsplit, h.decoded, hnone⟩

/-- The descriptor of a device, if it has one, was read from somewhere. -/
theorem descriptor?_eq_some_iff : d.descriptor? = some f ↔ ∃ a raw, d.ReadFrom a raw f := by
  constructor
  · intro h
    obtain ⟨before, a, after, hsplit, hfound, hnone⟩ := List.findSome?_eq_some_iff.mp h
    obtain ⟨earlier, raw, later, hbytes, hdecoded, hother⟩ := List.findSome?_eq_some_iff.mp hfound
    exact ⟨a, raw, ⟨before, after, hsplit, hnone⟩, ⟨earlier, later, hbytes, hother⟩, hdecoded⟩
  · rintro ⟨a, raw, h⟩
    obtain ⟨before, after, hsplit, hnone⟩ := h.setting
    exact List.findSome?_eq_some_iff.mpr ⟨before, a, after, hsplit, h.functional?_eq, hnone⟩

/-- What is wanted of the functional descriptor of a device. -/
structure DescribesDfu (d : BusDevice) : Prop where
  /-- It was read from bytes that belong to a DFU interface. -/
  origin : ∀ a raw f, d.ReadFrom a raw f → a.isDfu
  /-- So the block size and the detach timeout of an upgrade are those of a DFU interface. -/
  adopted : ∀ f, d.descriptor? = some f →
    ∃ a ∈ d.firstSettings, a.isDfu ∧ (∃ raw ∈ a.descriptors, Descriptor.decode? raw = some f) ∧
      Flashing.settings d none = Config.standard.withDescriptor f
  /-- One is found if any setting of a DFU interface has one. -/
  found : ∀ a ∈ d.firstSettings, a.isDfu → (∃ raw ∈ a.descriptors, (Descriptor.decode? raw).isSome) →
    d.descriptor?.isSome

/-- A layout with which the search comes upon the right descriptor. -/
structure WellPlaced (d : BusDevice) : Prop where
  /-- In front of what looks like a functional descriptor on another interface there is that of a DFU
  interface. -/
  shadowed : ∀ before a after, d.primarySettings = before ++ a :: after → a.isDfu = false →
    a.functional?.isSome → ∃ b ∈ before, b.isDfu ∧ b.functional?.isSome
  /-- A functional descriptor behind a setting that is not in force is not the only one. -/
  matched : ∀ a ∈ d.firstSettings, a.setting ≠ 0 → a.isDfu → a.functional?.isSome →
    ∃ b ∈ d.primarySettings, b.isDfu ∧ b.functional?.isSome

theorem mem_primarySettings : a ∈ d.primarySettings ↔ a ∈ d.firstSettings ∧ a.setting = 0 := by
  simp [primarySettings, firstSettings]

/-- A setting in force that has a functional descriptor is the one that is read from, or comes behind
that one. -/
theorem ReadFrom.not_before {before after : List AlternateSetting} (h : d.ReadFrom a raw f)
    {b : AlternateSetting} (hsplit : d.primarySettings = before ++ b :: after)
    (hb : b.functional?.isSome) : a = b ∨ a ∈ before := by
  obtain ⟨earlier, later, hfirst, hnone⟩ := h.setting
  rw [hsplit, List.append_eq_append_iff] at hfirst
  rcases hfirst with ⟨between, rfl, hrest⟩ | ⟨between, rfl, hrest⟩
  · cases between with
    | nil => exact .inl (List.cons.inj hrest).1.symm
    | cons x between =>
      -- The other setting would stand in front of the first find.
      obtain rfl : b = x := (List.cons.inj hrest).1
      simp [hnone b (by simp)] at hb
  · cases between with
    | nil => exact .inl (List.cons.inj hrest).1
    | cons x between =>
      obtain rfl : a = x := (List.cons.inj hrest).1
      exact .inr (by simp)

theorem isSome_descriptor?_of_mem (ha : a ∈ d.primarySettings) (hf : a.functional?.isSome) :
    d.descriptor?.isSome :=
  List.findSome?_isSome_iff.mpr ⟨a, ha, hf⟩

/-- Where the descriptor is wanted it is read from a DFU interface. -/
theorem DescribesDfu.exists_mem (h : d.DescribesDfu) (hf : d.descriptor?.isSome) :
    ∃ a raw f, d.ReadFrom a raw f ∧ a.isDfu := by
  obtain ⟨f, hf⟩ := Option.isSome_iff_exists.mp hf
  obtain ⟨a, raw, hread⟩ := descriptor?_eq_some_iff.mp hf
  exact ⟨a, raw, f, hread, h.origin a raw f hread⟩

theorem DescribesDfu.wellPlaced (h : d.DescribesDfu) : d.WellPlaced where
  shadowed before a after hsplit hother hf := by
    have ha : a ∈ d.primarySettings := by
      rw [hsplit]
      exact List.mem_append_right before (.head after)
    obtain ⟨b, raw, f, hread, hdfu⟩ := h.exists_mem (isSome_descriptor?_of_mem ha hf)
    rcases hread.not_before hsplit hf with rfl | hb
    · rw [hother] at hdfu
      cases hdfu
    · exact ⟨b, hb, hdfu, by simp [hread.functional?_eq]⟩
  matched a ha _ hdfu hf := by
    have hfound := h.found a ha hdfu (AlternateSetting.isSome_functional?_iff.mp hf)
    obtain ⟨b, raw, f, hread, hb⟩ := h.exists_mem hfound
    exact ⟨b, hread.mem_primarySettings, hb, by simp [hread.functional?_eq]⟩

theorem WellPlaced.origin (h : d.WellPlaced) (hread : d.ReadFrom a raw f) : a.isDfu := by
  cases hkind : a.isDfu with
  | true => rfl
  | false =>
    obtain ⟨before, after, hsplit, hnone⟩ := hread.setting
    obtain ⟨b, hb, -, hf⟩ := h.shadowed before a after hsplit hkind (by simp [hread.functional?_eq])
    simp [hnone b hb] at hf

theorem WellPlaced.describesDfu (h : d.WellPlaced) : d.DescribesDfu where
  origin _ _ _ hread := h.origin hread
  adopted f hf := by
    obtain ⟨a, raw, hread⟩ := descriptor?_eq_some_iff.mp hf
    obtain ⟨before, after, hbytes, -⟩ := hread.bytes
    have hraw : raw ∈ a.descriptors := by
      rw [hbytes]
      exact List.mem_append_right before (.head after)
    have ha := (mem_primarySettings.mp hread.mem_primarySettings).1
    refine ⟨a, ha, h.origin hread, ⟨raw, hraw, hread.decoded⟩, ?_⟩
    simp [Flashing.settings, hf, Config.withDescriptor?, Config.withChunkSize]
  found a ha hdfu hf := by
    have hfunctional := AlternateSetting.isSome_functional?_iff.mpr hf
    by_cases hforce : a.setting = 0
    · exact isSome_descriptor?_of_mem (mem_primarySettings.mpr ⟨ha, hforce⟩) hfunctional
    · obtain ⟨b, hb, -, hother⟩ := h.matched a ha hforce hdfu hfunctional
      exact isSome_descriptor?_of_mem hb hother

/-- Take any device, with any interfaces, settings and descriptors. Its functional descriptor belongs to
a DFU interface, and is found if a DFU interface has one, exactly if the layout is good for that: what
looks like one on another interface comes behind that of a DFU interface, and a DFU interface has its
own not only behind settings that are not in force. -/
theorem describesDfu_iff (d : BusDevice) : d.DescribesDfu ↔ d.WellPlaced :=
  ⟨DescribesDfu.wellPlaced, WellPlaced.describesDfu⟩

/-- A device with these settings and nothing else of note. -/
def ofSettings (settings : List AlternateSetting) : BusDevice where
  vendor := dfuVendor
  product := dfuProduct
  bus := "1"
  address := 5
  listed := [⟨dfuClass, dfuSubclass⟩]
  configurations := [settings]
  twists := []
  memory := #[]
  uploadOffset := 0
  status := 0
  state := Status.dfuIdle
  pollTimeout := 0
  corrupt := none
  counts := .replicate BusAction.all.length 0

/-- A boot keyboard with the nine bytes of its own class descriptor. -/
def keyboard : AlternateSetting :=
  ⟨0, 0, 3, 1, 1, [#[9, 0x21, 0x11, 0x01, 0x00, 0x01, 0x22, 0x3f, 0x00]]⟩

/-- A DFU interface with a functional descriptor, in some setting. -/
def upgradable (number setting : UInt8) : AlternateSetting :=
  ⟨number, setting, dfuClass, dfuSubclass, 2, [#[9, 0x21, 0x0b, 0xe8, 0x03, 0x00, 0x01, 0x10, 0x01]]⟩

/-- A keyboard in front of a DFU interface has its class descriptor taken for the functional descriptor,
and the upgrade goes with blocks of 8705 bytes. A functional descriptor behind the second setting of a
DFU interface is not found. -/
theorem exists_foreign_descriptor :
    (∃ raw f, (ofSettings [keyboard, upgradable 1 0]).ReadFrom keyboard raw f ∧
      keyboard.isDfu = false ∧
      (Flashing.settings (ofSettings [keyboard, upgradable 1 0]) none).chunkSize = 8705) ∧
    (upgradable 0 1).isDfu = true ∧ (upgradable 0 1).functional?.isSome ∧
      (ofSettings [⟨0, 0, dfuClass, dfuSubclass, 2, []⟩, upgradable 0 1]).descriptor? = none := by
  refine ⟨⟨_, ⟨0x11, 1, 8705, 0x3f⟩, ⟨⟨[], _, rfl, by simp⟩, ⟨[], [], rfl, by simp⟩, ?_⟩, rfl, ?_⟩,
    rfl, ?_, ?_⟩
  all_goals decide

end BusDevice

end FirmwareUpgrade
