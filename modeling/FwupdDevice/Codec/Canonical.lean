import FwupdDevice.Codec.RoundTrip

/-!
# Unpacking then packing

The other round trip of the codec.  A dictionary `fwupd_device_to_variant_builder` could have
written (`Canonical`) has pairwise distinct keys, each a key the decoder reads, with a value of
exactly the type it reads, no zero number, and for a list a non-empty string of distinct
comma-separated tokens.  Decoding such a dictionary and encoding the device gives it back, up to
the order of its entries, and `fwupd_device_to_data` sends it unless it is empty, the one
dictionary on which the encoder stops (`fwupdDeviceToData_fwupdDeviceNewFromData`): with distinct
keys every field is read off its one entry, and each field packs back to that entry.
Conversely, what the encoder writes for a device a run reaches is such a dictionary, unless a
GUID or checksum holds a comma or a list is exactly `[""]`
(`fwupdDeviceToVariantBuilder_canonical`).
-/

namespace FwupdDevice

open GLib

/-- The comma-split tokens of a non-empty string, as `g_strsplit` returns them. -/
def commaTokens (text : String) : List String :=
  (text.data.splitOn ',').map String.mk

/-- A value the encoder writes for a key: the type the decoder reads it as, no zero number,
and for a list a non-empty string whose tokens are distinct. -/
def ResultKey.isCanonical : ResultKey → Variant → Bool
  | .guid, .string text | .deviceChecksum, .string text =>
    text != "" && decide (commaTokens text).Nodup
  | .deviceFlags, .uint64 x | .deviceCreated, .uint64 x | .deviceModified, .uint64 x =>
    decide (x > 0)
  | .deviceFlashesLeft, .uint32 x => decide (x > 0)
  | .deviceName, .string _ | .deviceVendor, .string _ | .deviceDescription, .string _
  | .devicePlugin, .string _ | .deviceVersion, .string _ | .deviceVersionLowest, .string _
  | .deviceVersionBootloader, .string _ => true
  | _, _ => false

@[simp]
theorem isCanonical_guid (text : String) :
    ResultKey.guid.isCanonical (.string text) = (text != "" && decide (commaTokens text).Nodup) :=
  rfl

@[simp]
theorem isCanonical_deviceChecksum (text : String) :
    ResultKey.deviceChecksum.isCanonical (.string text) =
      (text != "" && decide (commaTokens text).Nodup) :=
  rfl

@[simp]
theorem isCanonical_deviceFlags (x : UInt64) :
    ResultKey.deviceFlags.isCanonical (.uint64 x) = decide (x > 0) := rfl

@[simp]
theorem isCanonical_deviceCreated (x : UInt64) :
    ResultKey.deviceCreated.isCanonical (.uint64 x) = decide (x > 0) := rfl

@[simp]
theorem isCanonical_deviceModified (x : UInt64) :
    ResultKey.deviceModified.isCanonical (.uint64 x) = decide (x > 0) := rfl

@[simp]
theorem isCanonical_deviceFlashesLeft (x : UInt32) :
    ResultKey.deviceFlashesLeft.isCanonical (.uint32 x) = decide (x > 0) := rfl

/-- A dictionary the encoder could have written. -/
structure Canonical (K : ResultKeys) (entries : Vardict) : Prop where
  keys_nodup : (entries.map Prod.fst).Nodup
  canonical : ∀ entry ∈ entries, ∃ k ∈ ResultKey.dispatched,
    entry.1 = K.name k ∧ k.isCanonical entry.2 = true

instance (K : ResultKeys) (entries : Vardict) : Decidable (Canonical K entries) :=
  decidable_of_iff ((entries.map Prod.fst).Nodup ∧ ∀ entry ∈ entries, ∃ k ∈ ResultKey.dispatched,
      entry.1 = K.name k ∧ k.isCanonical entry.2 = true)
    ⟨fun ⟨hkeys, hentries⟩ ↦ ⟨hkeys, hentries⟩, fun ⟨hkeys, hentries⟩ ↦ ⟨hkeys, hentries⟩⟩

theorem commaTokens_ne_nil (text : String) : commaTokens text ≠ [] := by
  simpa [commaTokens, List.splitOn] using List.splitOnP_ne_nil _ text.data

theorem strsplit_some_of_ne {text : String} (h : text ≠ "") :
    strsplit (some text) = some (commaTokens text) := by
  simp [strsplit, h, commaTokens]

/-- Joining the tokens of a string with commas gives the string back. -/
theorem joinWithCommas_commaTokens (text : String) : joinWithCommas (commaTokens text) = text := by
  apply String.ext
  rw [joinWithCommas_data (commaTokens_ne_nil text), commaTokens, List.map_map]
  simpa [Function.comp_def] using List.intercalate_splitOn text.data ','

/-- A canonical value has the type the decoder reads its key as. -/
theorem typeString_of_isCanonical {k : ResultKey} {value : Variant}
    (h : k.isCanonical value = true) : value.typeString = k.valueType := by
  cases k <;> cases value <;> first | rfl | exact absurd h Bool.false_ne_true

/-! ## Reading a dictionary with distinct keys -/

section DistinctKeys

variable {entries : Vardict} (hkeys : (entries.map Prod.fst).Nodup)
include hkeys

theorem lastValue_eq_some_iff {key : String} {value : Variant} :
    lastValue key entries = some value ↔ (key, value) ∈ entries := by
  have hmem : (key, value) ∈ entries ↔ (key, value) ∈ entries.filter fun entry ↦ entry.1 = key :=
    by simp [List.mem_filter]
  rw [hmem, lastValue]
  have hle := length_filter_key_le_one hkeys key
  have hkey : ∀ entry ∈ entries.filter (fun entry ↦ entry.1 = key), entry.1 = key :=
    fun entry h ↦ by simpa using (List.mem_filter.mp h).2
  generalize entries.filter (fun entry ↦ entry.1 = key) = carrying at hle hkey
  match carrying, hle, hkey with
  | [], _, _ => simp
  | [entry], _, hkey =>
    have : entry.1 = key := hkey entry (List.mem_singleton_self entry)
    constructor
    · rintro h
      simp at h
      simp [← h, ← this]
    · rintro h
      simp only [List.mem_singleton] at h
      simp [← h]

theorem stringTokens_eq_lastValue (key : String) :
    stringTokens key entries =
      ((lastValue key entries).bind fun value ↦ strsplit (stringPayload (some value))).getD [] := by
  unfold stringTokens lastValue
  have hle := length_filter_key_le_one hkeys key
  generalize entries.filter (fun entry ↦ entry.1 = key) = carrying at hle
  match carrying, hle with
  | [], _ => rfl
  | [entry], _ => simp

end DistinctKeys

/-! ## Each field packs back to its entry -/

section Repacked

variable {lastEntry : Option Variant}

theorem repacked_uint64 (h : ∀ value, lastEntry = some value → ∃ x, value = .uint64 x ∧ x > 0) :
    (if uint64Payload lastEntry > 0 then some (Variant.uint64 (uint64Payload lastEntry)) else none) =
      lastEntry := by
  rcases lastEntry with _ | value
  · rfl
  · obtain ⟨x, rfl, hx⟩ := h _ rfl
    simp [hx]

theorem repacked_uint32 (h : ∀ value, lastEntry = some value → ∃ x, value = .uint32 x ∧ x > 0) :
    (if uint32Payload lastEntry > 0 then some (Variant.uint32 (uint32Payload lastEntry)) else none) =
      lastEntry := by
  rcases lastEntry with _ | value
  · rfl
  · obtain ⟨x, rfl, hx⟩ := h _ rfl
    simp [hx]

theorem repacked_string (h : ∀ value, lastEntry = some value → ∃ text, value = .string text) :
    (stringPayload lastEntry).map Variant.string = lastEntry := by
  rcases lastEntry with _ | value
  · rfl
  · obtain ⟨text, rfl⟩ := h _ rfl
    rfl

theorem repacked_list
    (h : ∀ value, lastEntry = some value →
      ∃ text, value = .string text ∧ text ≠ "" ∧ (commaTokens text).Nodup) :
    (if (((lastEntry.bind fun value ↦ strsplit (stringPayload (some value))).getD []).eraseDups).length > 0
      then some (Variant.string (joinWithCommas
        ((lastEntry.bind fun value ↦ strsplit (stringPayload (some value))).getD []).eraseDups))
      else none) = lastEntry := by
  rcases lastEntry with _ | value
  · rfl
  · obtain ⟨text, rfl, hne, hnodup⟩ := h _ rfl
    have hpos : (commaTokens text).length > 0 := List.length_pos.mpr (commaTokens_ne_nil text)
    simp [strsplit_some_of_ne hne, eraseDups_of_nodup hnodup, hpos, joinWithCommas_commaTokens]

end Repacked

/-- With distinct keys, a field of the decoded device packs back to the entry of its key. -/
theorem packedValue_decodedDevice (K : ResultKeys) {entries : Vardict}
    (hkeys : (entries.map Prod.fst).Nodup) {k : ResultKey} (hk : k ≠ .deviceId)
    (hcanonical : ∀ value, lastValue (K.name k) entries = some value → k.isCanonical value = true)
    (id : Option String) :
    packedValue (decodedDevice K id entries) k = lastValue (K.name k) entries := by
  cases k
  case deviceId => contradiction
  case guid | deviceChecksum =>
    simp only [packedValue, decodedDevice, stringTokens_eq_lastValue hkeys]
    refine repacked_list fun value hvalue ↦ ?_
    have hcan := hcanonical value hvalue
    obtain ⟨text, rfl⟩ := Variant.eq_string_of_typeString (typeString_of_isCanonical hcan)
    exact ⟨text, rfl, by simpa using hcan⟩
  case deviceFlags | deviceCreated | deviceModified =>
    refine repacked_uint64 fun value hvalue ↦ ?_
    have hcan := hcanonical value hvalue
    obtain ⟨x, rfl⟩ := Variant.eq_uint64_of_typeString (typeString_of_isCanonical hcan)
    exact ⟨x, rfl, by simpa using hcan⟩
  case deviceFlashesLeft =>
    refine repacked_uint32 fun value hvalue ↦ ?_
    have hcan := hcanonical value hvalue
    obtain ⟨x, rfl⟩ := Variant.eq_uint32_of_typeString (typeString_of_isCanonical hcan)
    exact ⟨x, rfl, by simpa using hcan⟩
  all_goals
    exact repacked_string fun value hvalue ↦
      Variant.eq_string_of_typeString (typeString_of_isCanonical (hcanonical value hvalue))

/-- The decoder reads every entry of a canonical dictionary at its expected type. -/
theorem Canonical.wellTyped {K : ResultKeys} {entries : Vardict} (hcanonical : Canonical K entries)
    {entry : String × Variant} (hentry : entry ∈ entries) : K.WellTyped entry := by
  obtain ⟨k, -, hkey, hk⟩ := hcanonical.canonical entry hentry
  intro k' _ hk'
  rw [hkey, K.name_inj] at hk'
  subst hk'
  exact typeString_of_isCanonical hk

/-- Encoding the device decoded from a canonical dictionary writes the dictionary's entries,
each once, in the encoder's order. -/
theorem fwupdDeviceToVariantBuilder_decodedDevice_perm (K : ResultKeys) {entries : Vardict}
    (hcanonical : Canonical K entries) (id : Option String) :
    (fwupdDeviceToVariantBuilder K (decodedDevice K id entries)).Perm entries := by
  have hkeys := hcanonical.keys_nodup
  have hpacked : ∀ k ∈ ResultKey.packed,
      packedValue (decodedDevice K id entries) k = lastValue (K.name k) entries := by
    intro k hk
    refine packedValue_decodedDevice K hkeys (by rintro rfl; exact absurd hk (by decide))
      (fun value hvalue ↦ ?_) id
    obtain ⟨k', -, hkey, hk'⟩ :=
      hcanonical.canonical _ ((lastValue_eq_some_iff hkeys).mp hvalue)
    rwa [K.name_inj.mp hkey]
  have hbuilder : fwupdDeviceToVariantBuilder K (decodedDevice K id entries) =
      ResultKey.packed.filterMap fun k ↦
        (lastValue (K.name k) entries).map fun value ↦ (K.name k, value) :=
    List.filterMap_congr fun k hk ↦ by rw [hpacked k hk]
  have hnodup := (map_fst_filterMap_sublist K (fun k ↦ lastValue (K.name k) entries)
    ResultKey.packed).nodup
    ((List.nodup_map_iff K.name_injective).mpr (by decide))
  rw [hbuilder, List.perm_ext_iff_of_nodup hnodup.of_map (hkeys.of_map _)]
  intro entry
  constructor
  · intro h
    obtain ⟨k, -, hk⟩ := List.mem_filterMap.mp h
    obtain ⟨value, hvalue, rfl⟩ := Option.map_eq_some'.mp hk
    exact (lastValue_eq_some_iff hkeys).mp hvalue
  · intro h
    obtain ⟨k, hk, hkey, -⟩ := hcanonical.canonical entry h
    have hlast : lastValue (K.name k) entries = some entry.2 :=
      (lastValue_eq_some_iff hkeys).mpr (hkey ▸ h)
    have hpackedKey : ∀ k ∈ ResultKey.dispatched, k ∈ ResultKey.packed := by decide
    refine List.mem_filterMap.mpr ⟨k, hpackedKey k hk, ?_⟩
    rw [hlast]
    exact congrArg some (Prod.ext hkey.symm rfl)

/-- Unpacking a non-empty dictionary the encoder could have written, as `a{sv}` or as
`(a{sv})`, and packing the device again gives the same entries, up to their order. -/
theorem fwupdDeviceToData_fwupdDeviceNewFromData (K : ResultKeys) {entries : Vardict}
    (hcanonical : Canonical K entries) (hne : entries ≠ []) :
    ∃ device, fwupdDeviceNewFromData K (.vardict entries) = .ok (some device) ∧
      fwupdDeviceNewFromData K (.tuple entries) = .ok (some device) ∧
      ∃ entries', entries'.Perm entries ∧
        fwupdDeviceToData K device "a{sv}" = .ok (some (.vardict entries')) ∧
        fwupdDeviceToData K device "(a{sv})" = .ok (some (.tuple entries')) := by
  have hdecode : fwupdDeviceSetFromVariantIter K fwupdDeviceNew entries =
      .ok (decodedDevice K none entries) :=
    fwupdDeviceSetFromVariantIter_decodedDevice K none entries fun _ ↦ hcanonical.wellTyped
  have hperm := fwupdDeviceToVariantBuilder_decodedDevice_perm K hcanonical none
  have hpacks : PacksField (decodedDevice K none entries) :=
    (fwupdDeviceToVariantBuilder_ne_nil_iff K _).mp fun hnil ↦ hne (hnil ▸ hperm.symm).eq_nil
  refine ⟨decodedDevice K none entries, ?_, ?_, _, hperm,
    fwupdDeviceToData_of_packsField K _ hpacks⟩ <;>
    simp only [fwupdDeviceNewFromData, hdecode] <;> rfl

theorem fwupdDeviceToData_fwupdDeviceNewFromData_colorHug :
    ∃ device, fwupdDeviceNewFromData sampleKeys
        (.vardict [("Guid", .string "a,b"), ("Name", .string "ColorHug2"), ("Flags", .uint64 9)]) =
          .ok (some device) ∧
      fwupdDeviceNewFromData sampleKeys
        (.tuple [("Guid", .string "a,b"), ("Name", .string "ColorHug2"), ("Flags", .uint64 9)]) =
          .ok (some device) ∧
      ∃ entries', entries'.Perm
          [("Guid", .string "a,b"), ("Name", .string "ColorHug2"), ("Flags", .uint64 9)] ∧
        fwupdDeviceToData sampleKeys device "a{sv}" = .ok (some (.vardict entries')) ∧
        fwupdDeviceToData sampleKeys device "(a{sv})" = .ok (some (.tuple entries')) :=
  fwupdDeviceToData_fwupdDeviceNewFromData sampleKeys (by decide) (by decide)

/-! ## What the encoder writes is canonical -/

/-- The comma join of distinct comma-free items, other than `[""]`, is a non-empty string whose
tokens are the items. -/
theorem commaTokens_joinWithCommas {items : List String} (hne : items ≠ []) (hsingle : items ≠ [""])
    (hcomma : ∀ item ∈ items, ',' ∉ item.data) :
    joinWithCommas items ≠ "" ∧ commaTokens (joinWithCommas items) = items := by
  have hsplit := strsplit_joinWithCommas hne hcomma
  rw [if_neg hsingle] at hsplit
  have hjoin : joinWithCommas items ≠ "" := by
    intro hjoin
    rw [hjoin] at hsplit
    exact hne (Option.some.inj hsplit).symm
  exact ⟨hjoin, Option.some.inj ((strsplit_some_of_ne hjoin).symm.trans hsplit)⟩

section Encoded

variable {device : FwupdDevicePrivate} (hguids : device.guids.Nodup)
  (hchecksums : device.checksums.Nodup) (hguidComma : ∀ guid ∈ device.guids, ',' ∉ guid.data)
  (hchecksumComma : ∀ checksum ∈ device.checksums, ',' ∉ checksum.data)
  (hguidEmpty : device.guids ≠ [""]) (hchecksumEmpty : device.checksums ≠ [""])
include hguids hchecksums hguidComma hchecksumComma hguidEmpty hchecksumEmpty

theorem isCanonical_packedValue {k : ResultKey} {value : Variant}
    (h : packedValue device k = some value) : k.isCanonical value = true := by
  cases k
  case deviceId => cases h
  case guid =>
    simp only [packedValue, Option.ite_none_right_eq_some, Option.some.injEq] at h
    obtain ⟨hpos, rfl⟩ := h
    obtain ⟨hjoin, htokens⟩ :=
      commaTokens_joinWithCommas (List.length_pos.mp hpos) hguidEmpty hguidComma
    simpa [htokens] using ⟨hjoin, hguids⟩
  case deviceChecksum =>
    simp only [packedValue, Option.ite_none_right_eq_some, Option.some.injEq] at h
    obtain ⟨hpos, rfl⟩ := h
    obtain ⟨hjoin, htokens⟩ :=
      commaTokens_joinWithCommas (List.length_pos.mp hpos) hchecksumEmpty hchecksumComma
    simpa [htokens] using ⟨hjoin, hchecksums⟩
  case deviceFlags | deviceCreated | deviceModified | deviceFlashesLeft =>
    simp only [packedValue, Option.ite_none_right_eq_some, Option.some.injEq] at h
    obtain ⟨hpos, rfl⟩ := h
    simpa using hpos
  all_goals
    obtain ⟨text, -, rfl⟩ := Option.map_eq_some'.mp h
    rfl

/-- The dictionary of a device whose lists hold distinct comma-free items, and neither only
the empty string, is canonical. -/
theorem canonical_fwupdDeviceToVariantBuilder (K : ResultKeys) :
    Canonical K (fwupdDeviceToVariantBuilder K device) where
  keys_nodup := map_fst_fwupdDeviceToVariantBuilder_nodup K device
  canonical entry hentry := by
    obtain ⟨k, hvalue, hkey⟩ := mem_fwupdDeviceToVariantBuilder K device hentry
    exact ⟨k, mem_dispatched_of_packedValue device hvalue, hkey,
      isCanonical_packedValue hguids hchecksums hguidComma hchecksumComma hguidEmpty
        hchecksumEmpty hvalue⟩

end Encoded

/-- Every dictionary the encoder writes for a device a run reaches is canonical, when no GUID
or checksum holds a comma and neither list is exactly `[""]`. -/
theorem fwupdDeviceToVariantBuilder_canonical (K : ResultKeys) (calls : List Call)
    (htyped : ∀ call ∈ calls, call.WellTyped K) (device : FwupdDevicePrivate)
    (hrun : fwupdDeviceRun K calls = .ok device)
    (hguidComma : ∀ guid ∈ device.guids, ',' ∉ guid.data)
    (hchecksumComma : ∀ checksum ∈ device.checksums, ',' ∉ checksum.data)
    (hguidEmpty : device.guids ≠ [""]) (hchecksumEmpty : device.checksums ≠ [""]) :
    Canonical K (fwupdDeviceToVariantBuilder K device) := by
  obtain ⟨reached, hreached, hguids, hchecksums⟩ :=
    foldlM_apply_lists K calls htyped fwupdDeviceNew [] [] rfl rfl
  have hdevice : reached = device := Except.ok.inj (hreached.symm.trans hrun)
  subst hdevice
  exact canonical_fwupdDeviceToVariantBuilder (hguids ▸ nodup_eraseDups _)
    (hchecksums ▸ nodup_eraseDups _) hguidComma hchecksumComma hguidEmpty hchecksumEmpty K

theorem fwupdDeviceToVariantBuilder_canonical_colorHug :
    Canonical sampleKeys (fwupdDeviceToVariantBuilder sampleKeys
      (fwupdDeviceAddGuid fwupdDeviceNew "2082b5e0-7a64-478a-b1b2-e3404fab6dad")) :=
  fwupdDeviceToVariantBuilder_canonical sampleKeys
    [.addGuid "2082b5e0-7a64-478a-b1b2-e3404fab6dad"] (by decide) _ rfl (by decide) (by decide)
    (by decide) (by decide)

end FwupdDevice
