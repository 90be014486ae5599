import FwupdDevice.Codec.Serialize
import FwupdDevice.Codec.Decode
import FwupdDevice.Runs

/-!
# Packing then unpacking

Every entry `fwupd_device_to_variant_builder` writes carries the type its key expects and each
key at most once, so the decoder's result is read off one entry per field
(`decodedDevice_fwupdDeviceToVariantBuilder`).  A number survives because 0 is not packed and
unpacks to 0; a string because NULL is not packed and unpacks to NULL; a list because the comma
join is split back, deduplication changing nothing on a list without repeats.  The one loss
is a list holding exactly the empty string: it packs to `""` and unpacks to no item.  The id
and the summary are not packed.
-/

namespace FwupdDevice

open GLib

section Packed

variable (K : ResultKeys) (device : FwupdDevicePrivate)

/-- Each packed value has the type the decoder reads its key as. -/
theorem packedValue_typeString {k : ResultKey} {value : Variant}
    (h : packedValue device k = some value) : value.typeString = k.valueType := by
  cases k <;> simp only [packedValue, Option.map_eq_some', Option.ite_none_right_eq_some,
    Option.some.injEq] at h
  case deviceId => cases h
  all_goals (obtain ⟨-, -, rfl⟩ := h; rfl)

theorem mem_fwupdDeviceToVariantBuilder {entry : String × Variant}
    (h : entry ∈ fwupdDeviceToVariantBuilder K device) :
    ∃ k, packedValue device k = some entry.2 ∧ entry.1 = K.name k := by
  obtain ⟨k, -, hk⟩ := List.mem_filterMap.mp h
  obtain ⟨value, hvalue, rfl⟩ := Option.map_eq_some'.mp hk
  exact ⟨k, hvalue, rfl⟩

/-- The decoder reads every packed entry at its expected type. -/
theorem wellTyped_of_mem_fwupdDeviceToVariantBuilder {entry : String × Variant}
    (h : entry ∈ fwupdDeviceToVariantBuilder K device) : K.WellTyped entry := by
  obtain ⟨k, hvalue, hkey⟩ := mem_fwupdDeviceToVariantBuilder K device h
  intro k' _ hk'
  rw [hkey, K.name_inj] at hk'
  subst hk'
  exact packedValue_typeString device hvalue

theorem map_fst_filterMap_sublist (g : ResultKey → Option Variant) (keys : List ResultKey) :
    ((keys.filterMap fun k ↦ (g k).map fun value ↦ (K.name k, value)).map Prod.fst).Sublist
      (keys.map K.name) := by
  rw [map_fst_filterMap]
  exact (List.filter_sublist keys).map K.name

theorem map_fst_fwupdDeviceToVariantBuilder_nodup :
    ((fwupdDeviceToVariantBuilder K device).map Prod.fst).Nodup :=
  (map_fst_filterMap_sublist K _ _).nodup ((List.nodup_map_iff K.name_injective).mpr (by decide))

/-- Only keys the decoder reads are packed. -/
theorem mem_dispatched_of_packedValue {k : ResultKey} {value : Variant}
    (h : packedValue device k = some value) : k ∈ ResultKey.dispatched := by
  cases k <;> first | decide | simp [packedValue] at h

/-- `fwupd_device_to_variant_builder` writes a dictionary: its keys are pairwise distinct, and
each is a key the decoder reads, with a value of the type the decoder reads it as. -/
theorem fwupdDeviceToVariantBuilder_wellFormed :
    ((fwupdDeviceToVariantBuilder K device).map Prod.fst).Nodup ∧
      ∀ entry ∈ fwupdDeviceToVariantBuilder K device,
        ∃ k ∈ ResultKey.dispatched, entry.1 = K.name k ∧ entry.2.typeString = k.valueType := by
  refine ⟨map_fst_fwupdDeviceToVariantBuilder_nodup K device, fun entry hentry ↦ ?_⟩
  obtain ⟨k, hvalue, hkey⟩ := mem_fwupdDeviceToVariantBuilder K device hentry
  exact ⟨k, mem_dispatched_of_packedValue device hvalue, hkey, packedValue_typeString device hvalue⟩

theorem filterMap_eq_of_nodup {keys : List ResultKey} (hnodup : keys.Nodup) {k : ResultKey}
    (hk : k ∈ keys) {α : Type} (g : ResultKey → Option α) :
    keys.filterMap (fun k' ↦ if k' = k then g k' else none) = (g k).toList := by
  induction keys with
  | nil => cases hk
  | cons head tail ih =>
    obtain ⟨hhead, htail⟩ := List.nodup_cons.mp hnodup
    by_cases h : head = k
    · subst h
      have hrest : tail.filterMap (fun k' ↦ if k' = head then g k' else none) = [] :=
        List.filterMap_eq_nil_iff.mpr fun k' hk' ↦ by simp [show k' ≠ head by rintro rfl; exact hhead hk']
      cases hg : g head <;> simp [hg, hrest]
    · simp [h, ih htail ((List.mem_cons.mp hk).resolve_left (Ne.symm h))]

/-- The entries of the builder carrying the key of a packed field: at most that field's. -/
theorem filter_fwupdDeviceToVariantBuilder {k : ResultKey} (hk : k ∈ ResultKey.packed) :
    (fwupdDeviceToVariantBuilder K device).filter (fun entry ↦ entry.1 = K.name k) =
      ((packedValue device k).map fun value ↦ (K.name k, value)).toList := by
  have hfilter : ∀ k', ((packedValue device k').map fun value ↦ (K.name k', value)).filter
      (fun entry ↦ entry.1 = K.name k) =
        if k' = k then (packedValue device k').map fun value ↦ (K.name k', value) else none := by
    intro k'
    cases packedValue device k' <;> by_cases h : k' = k <;> simp [Option.filter, h]
  rw [fwupdDeviceToVariantBuilder, List.filter_filterMap]
  simp only [hfilter]
  rw [filterMap_eq_of_nodup (by decide) hk]

theorem lastValue_fwupdDeviceToVariantBuilder {k : ResultKey} (hk : k ∈ ResultKey.packed) :
    lastValue (K.name k) (fwupdDeviceToVariantBuilder K device) = packedValue device k := by
  rw [lastValue, filter_fwupdDeviceToVariantBuilder K device hk]
  cases packedValue device k <;> rfl

theorem stringTokens_fwupdDeviceToVariantBuilder {k : ResultKey} (hk : k ∈ ResultKey.packed) :
    stringTokens (K.name k) (fwupdDeviceToVariantBuilder K device) =
      ((packedValue device k).bind fun value ↦ strsplit (stringPayload (some value))).getD [] := by
  rw [stringTokens, filter_fwupdDeviceToVariantBuilder K device hk]
  cases packedValue device k <;> simp

/-- A packed list unpacks to its tokens: itself, unless it is `[""]`. -/
theorem unpacked_list {items : List String} (hnodup : items.Nodup)
    (hcomma : ∀ item ∈ items, ',' ∉ item.data) :
    (((if items.length > 0 then some (Variant.string (joinWithCommas items)) else none).bind
      fun value ↦ strsplit (stringPayload (some value))).getD []).eraseDups =
        if items = [""] then [] else items := by
  by_cases hne : items = []
  · subst hne
    rfl
  · have hpos : items.length > 0 := List.length_pos.mpr hne
    simp only [hpos, if_true, Option.some_bind, stringPayload_string,
      strsplit_joinWithCommas hne hcomma, Option.getD_some]
    split_ifs
    · rfl
    · exact eraseDups_of_nodup hnodup

theorem unpacked_uint64 (x : UInt64) :
    uint64Payload (if x > 0 then some (Variant.uint64 x) else none) = x := by
  split_ifs with h
  · rfl
  · exact (UInt64.eq_zero_of_not_pos h).symm

theorem unpacked_uint32 (x : UInt32) :
    uint32Payload (if x > 0 then some (Variant.uint32 x) else none) = x := by
  split_ifs with h
  · rfl
  · exact (UInt32.eq_zero_of_not_pos h).symm

theorem unpacked_string (text : Option String) : stringPayload (text.map Variant.string) = text := by
  cases text <;> rfl

/-- Unpacking what the builder packed gives the device back, without id and summary, and with
a list `[""]` emptied. -/
theorem decodedDevice_fwupdDeviceToVariantBuilder (hguids : device.guids.Nodup)
    (hchecksums : device.checksums.Nodup) (hguidComma : ∀ guid ∈ device.guids, ',' ∉ guid.data)
    (hchecksumComma : ∀ checksum ∈ device.checksums, ',' ∉ checksum.data) :
    decodedDevice K none (fwupdDeviceToVariantBuilder K device) =
      { device with
        id := none
        summary := none
        guids := if device.guids = [""] then [] else device.guids
        checksums := if device.checksums = [""] then [] else device.checksums } := by
  simp (disch := decide) only [decodedDevice, lastValue_fwupdDeviceToVariantBuilder,
    stringTokens_fwupdDeviceToVariantBuilder, packedValue, unpacked_list hguids hguidComma,
    unpacked_list hchecksums hchecksumComma, unpacked_uint64, unpacked_uint32, unpacked_string]

/-- The round trip for a device whose lists hold no repeats and which has a field the builder
packs. -/
theorem fwupdDeviceNewFromData_fwupdDeviceToData_of_nodup (hpacks : PacksField device)
    (hguids : device.guids.Nodup) (hchecksums : device.checksums.Nodup)
    (hguidComma : ∀ guid ∈ device.guids, ',' ∉ guid.data)
    (hchecksumComma : ∀ checksum ∈ device.checksums, ',' ∉ checksum.data) :
    ∀ typeString ∈ ["a{sv}", "(a{sv})"], ∃ data,
      fwupdDeviceToData K device typeString = .ok (some data) ∧
      fwupdDeviceNewFromData K data = .ok (some { device with
        id := none
        summary := none
        guids := if device.guids = [""] then [] else device.guids
        checksums := if device.checksums = [""] then [] else device.checksums }) := by
  have hdecode : fwupdDeviceSetFromVariantIter K fwupdDeviceNew (fwupdDeviceToVariantBuilder K device) =
      .ok (decodedDevice K none (fwupdDeviceToVariantBuilder K device)) :=
    fwupdDeviceSetFromVariantIter_decodedDevice K none _
      fun _ ↦ wellTyped_of_mem_fwupdDeviceToVariantBuilder K device
  rw [decodedDevice_fwupdDeviceToVariantBuilder K device hguids hchecksums hguidComma
    hchecksumComma] at hdecode
  obtain ⟨hvardict, htuple⟩ := fwupdDeviceToData_of_packsField K device hpacks
  intro typeString htype
  simp only [List.mem_cons, List.mem_singleton, List.not_mem_nil, or_false] at htype
  rcases htype with rfl | rfl
  · exact ⟨_, hvardict, by simp only [fwupdDeviceNewFromData, hdecode]; rfl⟩
  · exact ⟨_, htuple, by simp only [fwupdDeviceNewFromData, hdecode]; rfl⟩

end Packed

/-- Packing a device reached by a run as `a{sv}` or `(a{sv})` and unpacking the result gives
back every field the codec carries, when the device has a field the builder packs and no GUID
or checksum holds a comma; only a list holding exactly the empty string comes back empty.  The
id and the summary are not packed. -/
theorem fwupdDeviceNewFromData_fwupdDeviceToData (K : ResultKeys) (calls : List Call)
    (htyped : ∀ call ∈ calls, call.WellTyped K) (device : FwupdDevicePrivate)
    (hrun : fwupdDeviceRun K calls = .ok device) (hpacks : PacksField device)
    (hguidComma : ∀ guid ∈ device.guids, ',' ∉ guid.data)
    (hchecksumComma : ∀ checksum ∈ device.checksums, ',' ∉ checksum.data) :
    ∀ typeString ∈ ["a{sv}", "(a{sv})"], ∃ data,
      fwupdDeviceToData K device typeString = .ok (some data) ∧
      fwupdDeviceNewFromData K data = .ok (some { device with
        id := none
        summary := none
        guids := if device.guids = [""] then [] else device.guids
        checksums := if device.checksums = [""] then [] else device.checksums }) := by
  obtain ⟨reached, hreached, hguids, hchecksums⟩ :=
    foldlM_apply_lists K calls htyped fwupdDeviceNew [] [] rfl rfl
  have hdevice : reached = device := Except.ok.inj (hreached.symm.trans hrun)
  subst hdevice
  exact fwupdDeviceNewFromData_fwupdDeviceToData_of_nodup K reached hpacks
    (hguids ▸ nodup_eraseDups _) (hchecksums ▸ nodup_eraseDups _) hguidComma hchecksumComma

theorem fwupdDeviceNewFromData_fwupdDeviceToData_colorHug :
    ∃ data, fwupdDeviceToData sampleKeys
        (fwupdDeviceAddGuid fwupdDeviceNew "2082b5e0-7a64-478a-b1b2-e3404fab6dad") "(a{sv})" =
          .ok (some data) ∧
      fwupdDeviceNewFromData sampleKeys data =
        .ok (some (fwupdDeviceAddGuid fwupdDeviceNew "2082b5e0-7a64-478a-b1b2-e3404fab6dad")) :=
  fwupdDeviceNewFromData_fwupdDeviceToData sampleKeys
    [.addGuid "2082b5e0-7a64-478a-b1b2-e3404fab6dad"] (by decide) _ rfl (by decide) (by decide)
    (by decide) "(a{sv})" (by simp)

/-- The comma join loses a list holding exactly the empty string: a device with the one GUID
`""` packs to the entry `Guid = ""`, which unpacks to no GUID. -/
theorem fwupdDeviceNewFromData_fwupdDeviceToData_empty_guid :
    ¬ ∃ K : ResultKeys, ∀ (calls : List Call) (device : FwupdDevicePrivate),
      fwupdDeviceRun K calls = .ok device →
      (∀ guid ∈ device.guids, ',' ∉ guid.data) →
      (∀ checksum ∈ device.checksums, ',' ∉ checksum.data) →
      ∃ data, fwupdDeviceToData K device "a{sv}" = .ok (some data) ∧
        ∃ decoded, fwupdDeviceNewFromData K data = .ok (some decoded) ∧
          decoded.guids = device.guids := by
  rintro ⟨K, hroundTrip⟩
  obtain ⟨data, hdata, decoded, hdecoded, hguids⟩ :=
    hroundTrip [.addGuid ""] (fwupdDeviceAddGuid fwupdDeviceNew "") rfl (by decide) (by decide)
  obtain ⟨data', hdata', hdecoded'⟩ := fwupdDeviceNewFromData_fwupdDeviceToData_of_nodup K
    (fwupdDeviceAddGuid fwupdDeviceNew "") (by decide) (by decide) (by decide) (by decide)
    (by decide) "a{sv}" (by simp)
  rw [hdata, Except.ok.injEq, Option.some.injEq] at hdata'
  subst hdata'
  rw [hdecoded', Except.ok.injEq, Option.some.injEq] at hdecoded
  subst hdecoded
  exact absurd hguids (by decide)

end FwupdDevice
