import FwupdDevice.Record
import FwupdDevice.ResultKeys

/-!
# Unpacking a device

`fwupd_device_from_key_value` compares an entry's key with each result key in turn and hands
the value to that field's setter; a list entry is split on commas and every piece goes
through the field's adder.  An unknown key falls through all tests.  No branch checks the
value's type: a getter of the wrong type returns GLib's fallback, and `g_strsplit` of a NULL
string returns the NULL vector, whose first item the loop then reads.  That read never
returns; the model records it as an error.

`fwupd_device_new_from_data` starts from a new device (with the outer id for `{sa{sv}}`) and
applies the entries in order.
-/

namespace FwupdDevice

open GLib

/-- The loop `for (i = 0; split[i] != NULL; i++)` reads the items of a string vector.  On the
NULL vector `split[0]` dereferences NULL and the process stops. -/
def strvItems : Option (List String) → Except String (List String)
  | some items => .ok items
  | none => .error "split[0] dereferences the NULL vector"

/-- The loop reads the pieces of a string vector, and stops on the NULL vector. -/
theorem strvItems_strsplit_map {α : Type} (text : Option String) (f : List String → α) :
    (strvItems (strsplit text)).map f =
      if text = none then .error "split[0] dereferences the NULL vector"
      else .ok (f ((strsplit text).getD [])) := by
  cases text <;> rfl

section Decoder

variable (K : ResultKeys)

/-- `fwupd_device_from_key_value`. -/
def fwupdDeviceFromKeyValue (device : FwupdDevicePrivate) (key : String) (value : Variant) :
    Except String FwupdDevicePrivate :=
  if key = K.name .deviceFlags then .ok (fwupdDeviceSetFlags device value.getUint64)
  else if key = K.name .deviceCreated then .ok (fwupdDeviceSetCreated device value.getUint64)
  else if key = K.name .deviceModified then .ok (fwupdDeviceSetModified device value.getUint64)
  else if key = K.name .guid then
    (strvItems (strsplit value.getString)).map fun split ↦ split.foldl fwupdDeviceAddGuid device
  else if key = K.name .deviceName then .ok (fwupdDeviceSetName device value.getString)
  else if key = K.name .deviceVendor then .ok (fwupdDeviceSetVendor device value.getString)
  else if key = K.name .deviceDescription then
    .ok (fwupdDeviceSetDescription device value.getString)
  else if key = K.name .deviceChecksum then
    (strvItems (strsplit value.getString)).map fun split ↦ split.foldl fwupdDeviceAddChecksum device
  else if key = K.name .devicePlugin then .ok (fwupdDeviceSetProvider device value.getString)
  else if key = K.name .deviceVersion then .ok (fwupdDeviceSetVersion device value.getString)
  else if key = K.name .deviceVersionLowest then
    .ok (fwupdDeviceSetVersionLowest device value.getString)
  else if key = K.name .deviceVersionBootloader then
    .ok (fwupdDeviceSetVersionBootloader device value.getString)
  else if key = K.name .deviceFlashesLeft then
    .ok (fwupdDeviceSetFlashesLeft device value.getUint32)
  else .ok device

/-- `fwupd_device_set_from_variant_iter`: the entries, in iteration order. -/
def fwupdDeviceSetFromVariantIter (device : FwupdDevicePrivate) (iter : Vardict) :
    Except String FwupdDevicePrivate :=
  iter.foldlM (fun device entry ↦ fwupdDeviceFromKeyValue K device entry.1 entry.2) device

/-- `fwupd_device_new_from_data`: a device for the three known shapes, NULL (after a
warning) for any other. -/
def fwupdDeviceNewFromData (data : PackedData) : Except String (Option FwupdDevicePrivate) :=
  match data with
  | .tuple iter => some <$> fwupdDeviceSetFromVariantIter K fwupdDeviceNew iter
  | .vardict iter => some <$> fwupdDeviceSetFromVariantIter K fwupdDeviceNew iter
  | .dictEntry id iter =>
    some <$> fwupdDeviceSetFromVariantIter K (fwupdDeviceSetId fwupdDeviceNew (some id)) iter
  | .other _ => .ok none

/-! ## One equation per branch -/

variable (device : FwupdDevicePrivate) (value : Variant)

@[simp]
theorem fwupdDeviceFromKeyValue_deviceFlags :
    fwupdDeviceFromKeyValue K device (K.name .deviceFlags) value =
      .ok (fwupdDeviceSetFlags device value.getUint64) := by
  simp [fwupdDeviceFromKeyValue]

@[simp]
theorem fwupdDeviceFromKeyValue_deviceCreated :
    fwupdDeviceFromKeyValue K device (K.name .deviceCreated) value =
      .ok (fwupdDeviceSetCreated device value.getUint64) := by
  simp [fwupdDeviceFromKeyValue]

@[simp]
theorem fwupdDeviceFromKeyValue_deviceModified :
    fwupdDeviceFromKeyValue K device (K.name .deviceModified) value =
      .ok (fwupdDeviceSetModified device value.getUint64) := by
  simp [fwupdDeviceFromKeyValue]

@[simp]
theorem fwupdDeviceFromKeyValue_guid :
    fwupdDeviceFromKeyValue K device (K.name .guid) value =
      (strvItems (strsplit value.getString)).map fun split ↦ split.foldl fwupdDeviceAddGuid device := by
  simp [fwupdDeviceFromKeyValue]

@[simp]
theorem fwupdDeviceFromKeyValue_deviceName :
    fwupdDeviceFromKeyValue K device (K.name .deviceName) value =
      .ok (fwupdDeviceSetName device value.getString) := by
  simp [fwupdDeviceFromKeyValue]

@[simp]
theorem fwupdDeviceFromKeyValue_deviceVendor :
    fwupdDeviceFromKeyValue K device (K.name .deviceVendor) value =
      .ok (fwupdDeviceSetVendor device value.getString) := by
  simp [fwupdDeviceFromKeyValue]

@[simp]
theorem fwupdDeviceFromKeyValue_deviceDescription :
    fwupdDeviceFromKeyValue K device (K.name .deviceDescription) value =
      .ok (fwupdDeviceSetDescription device value.getString) := by
  simp [fwupdDeviceFromKeyValue]

@[simp]
theorem fwupdDeviceFromKeyValue_deviceChecksum :
    fwupdDeviceFromKeyValue K device (K.name .deviceChecksum) value =
      (strvItems (strsplit value.getString)).map fun split ↦
        split.foldl fwupdDeviceAddChecksum device := by
  simp [fwupdDeviceFromKeyValue]

@[simp]
theorem fwupdDeviceFromKeyValue_devicePlugin :
    fwupdDeviceFromKeyValue K device (K.name .devicePlugin) value =
      .ok (fwupdDeviceSetProvider device value.getString) := by
  simp [fwupdDeviceFromKeyValue]

@[simp]
theorem fwupdDeviceFromKeyValue_deviceVersion :
    fwupdDeviceFromKeyValue K device (K.name .deviceVersion) value =
      .ok (fwupdDeviceSetVersion device value.getString) := by
  simp [fwupdDeviceFromKeyValue]

@[simp]
theorem fwupdDeviceFromKeyValue_deviceVersionLowest :
    fwupdDeviceFromKeyValue K device (K.name .deviceVersionLowest) value =
      .ok (fwupdDeviceSetVersionLowest device value.getString) := by
  simp [fwupdDeviceFromKeyValue]

@[simp]
theorem fwupdDeviceFromKeyValue_deviceVersionBootloader :
    fwupdDeviceFromKeyValue K device (K.name .deviceVersionBootloader) value =
      .ok (fwupdDeviceSetVersionBootloader device value.getString) := by
  simp [fwupdDeviceFromKeyValue]

@[simp]
theorem fwupdDeviceFromKeyValue_deviceFlashesLeft :
    fwupdDeviceFromKeyValue K device (K.name .deviceFlashesLeft) value =
      .ok (fwupdDeviceSetFlashesLeft device value.getUint32) := by
  simp [fwupdDeviceFromKeyValue]

/-- The thirteen tests of the dispatch, written out. -/
theorem not_dispatched_iff {key : String} :
    (∀ k ∈ ResultKey.dispatched, key ≠ K.name k) ↔
      key ≠ K.name .deviceFlags ∧ key ≠ K.name .deviceCreated ∧ key ≠ K.name .deviceModified ∧
      key ≠ K.name .guid ∧ key ≠ K.name .deviceName ∧ key ≠ K.name .deviceVendor ∧
      key ≠ K.name .deviceDescription ∧ key ≠ K.name .deviceChecksum ∧
      key ≠ K.name .devicePlugin ∧ key ≠ K.name .deviceVersion ∧
      key ≠ K.name .deviceVersionLowest ∧ key ≠ K.name .deviceVersionBootloader ∧
      key ≠ K.name .deviceFlashesLeft := by
  simp [ResultKey.dispatched]

/-- A key no branch tests leaves the device as it was. -/
theorem fwupdDeviceFromKeyValue_of_not_dispatched {key : String}
    (h : ∀ k ∈ ResultKey.dispatched, key ≠ K.name k) :
    fwupdDeviceFromKeyValue K device key value = .ok device := by
  obtain ⟨h1, h2, h3, h4, h5, h6, h7, h8, h9, h10, h11, h12, h13⟩ := (not_dispatched_iff K).mp h
  simp [fwupdDeviceFromKeyValue, *]

/-! ## The dispatch, field by field -/

/-- The dispatch read field by field: a field takes the entry's value exactly when the entry
carries that field's key, and a list folds in the entry's comma-split tokens. -/
def dispatchEntry (device : FwupdDevicePrivate) (key : String) (value : Variant) :
    FwupdDevicePrivate where
  id := device.id
  created := if key = K.name .deviceCreated then value.getUint64 else device.created
  modified := if key = K.name .deviceModified then value.getUint64 else device.modified
  flags := if key = K.name .deviceFlags then value.getUint64 else device.flags
  guids := if key = K.name .guid
    then ((strsplit value.getString).getD []).foldl appendNew device.guids else device.guids
  name := if key = K.name .deviceName then value.getString else device.name
  summary := device.summary
  description := if key = K.name .deviceDescription then value.getString else device.description
  vendor := if key = K.name .deviceVendor then value.getString else device.vendor
  provider := if key = K.name .devicePlugin then value.getString else device.provider
  version := if key = K.name .deviceVersion then value.getString else device.version
  versionLowest := if key = K.name .deviceVersionLowest
    then value.getString else device.versionLowest
  versionBootloader := if key = K.name .deviceVersionBootloader
    then value.getString else device.versionBootloader
  checksums := if key = K.name .deviceChecksum
    then ((strsplit value.getString).getD []).foldl appendNew device.checksums
    else device.checksums
  flashesLeft := if key = K.name .deviceFlashesLeft then value.getUint32 else device.flashesLeft

/-- An entry whose comma split is the NULL vector: a list key with a value that is not a
string.  The dispatch stops on it. -/
def ResultKeys.NullSplit (K : ResultKeys) (entry : String × Variant) : Prop :=
  (entry.1 = K.name .guid ∨ entry.1 = K.name .deviceChecksum) ∧ entry.2.getString = none

instance (entry : String × Variant) : Decidable (K.NullSplit entry) :=
  inferInstanceAs (Decidable (_ ∧ _))

/-- The dispatch on any value: it stops on an entry whose split is NULL, and is otherwise
`dispatchEntry`, each branch writing its own field and no other. -/
theorem fwupdDeviceFromKeyValue_eq_dispatch (key : String) :
    fwupdDeviceFromKeyValue K device key value =
      if K.NullSplit (key, value) then .error "split[0] dereferences the NULL vector"
      else .ok (dispatchEntry K device key value) := by
  by_cases hknown : ∃ k ∈ ResultKey.dispatched, key = K.name k
  · obtain ⟨k, hk, rfl⟩ := hknown
    simp only [ResultKey.dispatched, List.mem_cons, List.mem_singleton, List.not_mem_nil,
      or_false] at hk
    rcases hk with rfl | rfl | rfl | rfl | rfl | rfl | rfl | rfl | rfl | rfl | rfl | rfl | rfl
    all_goals simp [ResultKeys.NullSplit, dispatchEntry, strvItems_strsplit_map,
      foldl_fwupdDeviceAddGuid, foldl_fwupdDeviceAddChecksum]
  · push_neg at hknown
    rw [fwupdDeviceFromKeyValue_of_not_dispatched K device value hknown]
    obtain ⟨h1, h2, h3, h4, h5, h6, h7, h8, h9, h10, h11, h12, h13⟩ :=
      (not_dispatched_iff K).mp hknown
    simp [ResultKeys.NullSplit, dispatchEntry, *]

/-- A list entry of the type its key expects is a string, so its split is not NULL. -/
theorem not_nullSplit_of_wellTyped {entry : String × Variant} (htyped : K.WellTyped entry) :
    ¬ K.NullSplit entry := by
  rintro ⟨hkey | hkey, hnull⟩
  all_goals
    obtain ⟨text, htext⟩ := Variant.eq_string_of_typeString (htyped _ (by decide) hkey)
    simp [htext] at hnull

theorem fwupdDeviceFromKeyValue_eq_dispatchEntry {key : String} (htyped : K.WellTyped (key, value)) :
    fwupdDeviceFromKeyValue K device key value = .ok (dispatchEntry K device key value) := by
  rw [fwupdDeviceFromKeyValue_eq_dispatch, if_neg (not_nullSplit_of_wellTyped K htyped)]

end Decoder

end FwupdDevice
