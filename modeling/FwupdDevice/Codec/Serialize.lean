import FwupdDevice.Record
import FwupdDevice.ResultKeys

/-!
# Packing a device

`fwupd_device_to_variant_builder` adds one `{sv}` entry per set field, in a fixed order: a
list when it is non-empty, joined with commas; a string when it is not NULL; a number when it
is not 0.  The id and the summary are never written.  `fwupd_device_to_data` starts the
builder with the indefinite type `G_VARIANT_TYPE_ARRAY` and wraps the entries as `a{sv}` or
`(a{sv})`.  A builder with no entry has no element type, so `g_variant_new` stops the process:
`fwupd_device_to_data` stops exactly on a device with no field the builder packs, such as
`fwupd_device_new ()`, although its documentation promises the GVariant or NULL.

The comma join is inverted by `g_strsplit` on every non-empty list whose items hold no comma,
except the one-item list `[""]`: its join is the empty string, which `g_strsplit` splits into
no item at all (`strsplit_joinWithCommas`).
-/

namespace FwupdDevice

open GLib

/-! ## The comma join -/

/-- The loop of `fwupd_device_to_variant_builder` that packs a list into one string: every
item followed by `,`, then the last byte truncated when the string is not empty. -/
def joinWithCommas (items : List String) : String :=
  let str := items.foldl (fun str item ↦ str ++ item ++ ",") ""
  if str.length > 0 then truncateLast str else str

theorem foldl_append_comma_data (items : List String) (init : String) :
    (items.foldl (fun str item ↦ str ++ item ++ ",") init).data =
      init.data ++ (items.map fun item ↦ item.data ++ [',']).flatten := by
  induction items generalizing init with
  | nil => simp
  | cons head tail ih =>
    rw [List.foldl_cons, ih]
    simp

theorem flatten_map_append_comma {items : List (List Char)} (h : items ≠ []) :
    (items.map fun item ↦ item ++ [',']).flatten = [','].intercalate items ++ [','] := by
  induction items with
  | nil => exact absurd rfl h
  | cons head tail ih =>
    cases tail with
    | nil => simp [List.intercalate]
    | cons next rest =>
      rw [List.map_cons, List.flatten_cons, ih (List.cons_ne_nil next rest)]
      simp [List.intercalate, List.intersperse_cons_cons]

/-- On a non-empty list the loop computes the comma intercalation. -/
theorem joinWithCommas_data {items : List String} (h : items ≠ []) :
    (joinWithCommas items).data = [','].intercalate (items.map String.data) := by
  have hflat := @flatten_map_append_comma (items.map String.data) (by simpa using h)
  simp only [List.map_map, Function.comp_def] at hflat
  have hfold := foldl_append_comma_data items ""
  rw [hflat] at hfold
  unfold joinWithCommas
  rw [if_pos (by simp [String.length, hfold]), truncateLast, hfold]
  exact congrArg String.data (String.ext List.dropLast_concat)

theorem intercalate_eq_nil {items : List (List Char)} (hne : items ≠ []) :
    [','].intercalate items = [] ↔ items = [[]] := by
  match items, hne with
  | [item], _ => simp [List.intercalate]
  | first :: second :: rest, _ => simp [List.intercalate, List.intersperse_cons_cons]

/-- `g_strsplit` undoes the comma join on a list whose items hold no comma, except that the
join of `[""]` is the empty string, which splits into no item. -/
theorem strsplit_joinWithCommas {items : List String} (hne : items ≠ [])
    (hcomma : ∀ item ∈ items, ',' ∉ item.data) :
    strsplit (some (joinWithCommas items)) = some (if items = [""] then [] else items) := by
  have hdata := joinWithCommas_data hne
  have hempty : joinWithCommas items = "" ↔ items = [""] := by
    have hnil : ("" : String).data = [] := rfl
    rw [String.ext_iff, hdata, hnil, intercalate_eq_nil (by simpa using hne)]
    constructor
    · intro h
      exact List.map_injective_iff.mpr (fun _ _ ↦ String.ext) (h : items.map String.data = [""].map String.data)
    · rintro rfl
      rfl
  simp only [strsplit]
  by_cases hsingle : items = [""]
  · rw [if_pos (hempty.mpr hsingle), if_pos hsingle]
  · have hsplit : (joinWithCommas items).data.splitOn ',' = items.map String.data := by
      rw [hdata]
      exact List.splitOn_intercalate _ ',' (by simpa using hcomma) (by simpa using hne)
    rw [if_neg (mt hempty.mp hsingle), if_neg hsingle, hsplit, List.map_map]
    simp [Function.comp_def]

/-! ## The entries -/

theorem UInt64.eq_zero_of_not_pos {x : UInt64} (h : ¬ x > 0) : x = 0 := by
  simp only [gt_iff_lt, UInt64.lt_def, BitVec.lt_def] at h
  exact UInt64.toNat.inj (Nat.eq_zero_of_not_pos h)

theorem UInt32.eq_zero_of_not_pos {x : UInt32} (h : ¬ x > 0) : x = 0 := by
  simp only [gt_iff_lt, UInt32.lt_def, BitVec.lt_def] at h
  exact UInt32.toNat.inj (Nat.eq_zero_of_not_pos h)

theorem UInt64.pos_iff_ne_zero {x : UInt64} : x > 0 ↔ x ≠ 0 :=
  ⟨fun hpos hzero ↦ absurd (hzero ▸ hpos) (by decide), not_imp_comm.mp UInt64.eq_zero_of_not_pos⟩

theorem UInt32.pos_iff_ne_zero {x : UInt32} : x > 0 ↔ x ≠ 0 :=
  ⟨fun hpos hzero ↦ absurd (hzero ▸ hpos) (by decide), not_imp_comm.mp UInt32.eq_zero_of_not_pos⟩

section Builder

variable (K : ResultKeys) (device : FwupdDevicePrivate)

/-- The value `fwupd_device_to_variant_builder` packs for a key, if the field is set. -/
def packedValue : ResultKey → Option Variant
  | .guid => if device.guids.length > 0 then some (.string (joinWithCommas device.guids)) else none
  | .deviceId => none
  | .deviceName => device.name.map .string
  | .deviceVendor => device.vendor.map .string
  | .deviceFlags => if device.flags > 0 then some (.uint64 device.flags) else none
  | .deviceCreated => if device.created > 0 then some (.uint64 device.created) else none
  | .deviceModified => if device.modified > 0 then some (.uint64 device.modified) else none
  | .deviceDescription => device.description.map .string
  | .deviceChecksum => if device.checksums.length > 0
      then some (.string (joinWithCommas device.checksums)) else none
  | .devicePlugin => device.provider.map .string
  | .deviceVersion => device.version.map .string
  | .deviceVersionLowest => device.versionLowest.map .string
  | .deviceVersionBootloader => device.versionBootloader.map .string
  | .deviceFlashesLeft => if device.flashesLeft > 0 then some (.uint32 device.flashesLeft) else none

/-- The order in which `fwupd_device_to_variant_builder` visits the fields. -/
def ResultKey.packed : List ResultKey :=
  [.guid, .deviceName, .deviceVendor, .deviceFlags, .deviceCreated, .deviceModified,
    .deviceDescription, .deviceChecksum, .devicePlugin, .deviceVersion, .deviceVersionLowest,
    .deviceVersionBootloader, .deviceFlashesLeft]

/-- `fwupd_device_to_variant_builder`: the entries of the set fields, in the code's order. -/
def fwupdDeviceToVariantBuilder : Vardict :=
  ResultKey.packed.filterMap fun k ↦ (packedValue device k).map fun value ↦ (K.name k, value)

/-- `fwupd_device_to_data`: the entries as `a{sv}` or `(a{sv})`, ended by `g_variant_new`,
which stops on an empty builder; NULL for any other type. -/
def fwupdDeviceToData (typeString : String) : Except String (Option PackedData) :=
  if typeString = "a{sv}" then
    (gVariantBuilderEnd (fwupdDeviceToVariantBuilder K device)).map fun entries ↦
      some (.vardict entries)
  else if typeString = "(a{sv})" then
    (gVariantBuilderEnd (fwupdDeviceToVariantBuilder K device)).map fun entries ↦
      some (.tuple entries)
  else .ok none

/-! ## When the encoder stops -/

/-- The interface's notion of a set field: a string that is not NULL, a list that is not
empty, a number that is not 0. -/
def ResultKey.isSet : ResultKey → Bool
  | .guid => !device.guids.isEmpty
  | .deviceId => device.id.isSome
  | .deviceName => device.name.isSome
  | .deviceVendor => device.vendor.isSome
  | .deviceFlags => device.flags != 0
  | .deviceCreated => device.created != 0
  | .deviceModified => device.modified != 0
  | .deviceDescription => device.description.isSome
  | .deviceChecksum => !device.checksums.isEmpty
  | .devicePlugin => device.provider.isSome
  | .deviceVersion => device.version.isSome
  | .deviceVersionLowest => device.versionLowest.isSome
  | .deviceVersionBootloader => device.versionBootloader.isSome
  | .deviceFlashesLeft => device.flashesLeft != 0

/-- The device has a set field the builder packs: a GUID or checksum, a string other than the
id and the summary, or a nonzero number. -/
def PacksField : Prop :=
  ∃ k ∈ ResultKey.packed, k.isSet device = true

instance : Decidable (PacksField device) :=
  inferInstanceAs (Decidable (∃ k ∈ ResultKey.packed, _))

/-- Each field the builder visits is packed exactly when it is set. -/
theorem isSome_packedValue {k : ResultKey} (hk : k ∈ ResultKey.packed) :
    (packedValue device k).isSome = k.isSet device := by
  cases k
  case deviceId => exact absurd hk (by decide)
  all_goals
    rw [Bool.eq_iff_iff]
    simp only [packedValue, ResultKey.isSet, Option.isSome_ite, Option.isSome_map',
      UInt64.pos_iff_ne_zero, UInt32.pos_iff_ne_zero, List.length_pos, bne_iff_ne, ne_eq,
      Bool.not_eq_true', List.isEmpty_eq_false]

theorem map_fst_filterMap (g : ResultKey → Option Variant) (keys : List ResultKey) :
    (keys.filterMap fun k ↦ (g k).map fun value ↦ (K.name k, value)).map Prod.fst =
      (keys.filter fun k ↦ (g k).isSome).map K.name := by
  induction keys with
  | nil => rfl
  | cons k rest ih => cases hg : g k <;> simp [List.filter_cons, hg, ih]

/-- The builder writes some entry exactly when the device has a set field it packs. -/
theorem fwupdDeviceToVariantBuilder_ne_nil_iff :
    fwupdDeviceToVariantBuilder K device ≠ [] ↔ PacksField device := by
  rw [Ne, ← List.map_eq_nil_iff (f := Prod.fst), fwupdDeviceToVariantBuilder, map_fst_filterMap,
    List.map_eq_nil_iff, List.filter_congr fun k hk ↦ isSome_packedValue device hk,
    List.filter_eq_nil_iff, PacksField]
  simp

/-- `fwupd_device_to_data` of a device with a set field it packs. -/
theorem fwupdDeviceToData_of_packsField (h : PacksField device) :
    fwupdDeviceToData K device "a{sv}" = .ok (some (.vardict (fwupdDeviceToVariantBuilder K device))) ∧
      fwupdDeviceToData K device "(a{sv})" =
        .ok (some (.tuple (fwupdDeviceToVariantBuilder K device))) := by
  have hne := (fwupdDeviceToVariantBuilder_ne_nil_iff K device).mpr h
  simp only [fwupdDeviceToData, gVariantBuilderEnd, if_neg hne]
  exact ⟨rfl, rfl⟩

/-- `fwupd_device_to_data`, as either dictionary type, stops exactly on a device with no set
field the builder packs. -/
theorem fwupdDeviceToData_error_iff {typeString : String}
    (htype : typeString ∈ ["a{sv}", "(a{sv})"]) :
    (∃ message, fwupdDeviceToData K device typeString = .error message) ↔ ¬ PacksField device := by
  rw [← fwupdDeviceToVariantBuilder_ne_nil_iff, not_not]
  simp only [List.mem_cons, List.mem_singleton, List.not_mem_nil, or_false] at htype
  rcases htype with rfl | rfl
  · exact gVariantBuilderEnd_map_error_iff _ _
  · rw [fwupdDeviceToData, if_neg (by decide), if_pos rfl]
    exact gVariantBuilderEnd_map_error_iff _ _

example : fwupdDeviceToVariantBuilder sampleKeys fwupdDeviceNew = [] := by decide

end Builder

end FwupdDevice
