import FwupdDevice.Codec.Deserialize
import Mathlib.Data.List.Perm.Basic

/-!
# What the decoder computes

`mergedDevice` states what the entry loop makes of any device: the last entry carrying a key
sets that field, and each list takes the comma-split tokens of its key's entries, skipping
those it holds.  `fwupdDeviceSetFromVariantIter_eq` shows that the loop computes it, unless
some list entry is not a string, on which the process stops; merging is idempotent, so
replaying a dictionary changes nothing (`fwupdDeviceSetFromVariantIter_append_self`), and with
distinct keys the order of the entries does not matter (`fwupdDeviceSetFromVariantIter_perm`).

`decodedDevice` states the decoder's result in the words of the interface: every scalar field
holds the payload of the last entry carrying its key, each list the first-occurrence
deduplication of the comma-split tokens of its key's entries, the id is the envelope's, and
nothing else is set.  It reads each payload at the type the key expects, with no GLib getter.
When every entry with a known key carries that type, it is the merge into a new device, so the
entry loop computes it (`fwupdDeviceSetFromVariantIter_decodedDevice`).

Without that typing the decoder does not skip an entry: the branch runs on GLib's fallback
reading of the value, and a list entry that is not a string stops the process.
-/

namespace FwupdDevice

open GLib

/-! ## The interface's reading of a vardict -/

/-- The value of the last entry carrying `key`, if any. -/
def lastValue (key : String) (entries : Vardict) : Option Variant :=
  ((entries.filter fun entry ↦ entry.1 = key).getLast?).map Prod.snd

/-- The comma-split tokens of the entries carrying `key`, in entry order. -/
def keyTokens (key : String) (entries : Vardict) : List String :=
  (entries.filter fun entry ↦ entry.1 = key).flatMap fun entry ↦
    (strsplit entry.2.getString).getD []

@[simp]
theorem lastValue_nil (key : String) : lastValue key [] = none := rfl

@[simp]
theorem keyTokens_nil (key : String) : keyTokens key [] = [] := rfl

theorem lastValue_append_singleton (key : String) (entries : Vardict) (entry : String × Variant) :
    lastValue key (entries ++ [entry]) =
      if entry.1 = key then some entry.2 else lastValue key entries := by
  by_cases h : entry.1 = key <;> simp [lastValue, h]

theorem keyTokens_append_singleton (key : String) (entries : Vardict) (entry : String × Variant) :
    keyTokens key (entries ++ [entry]) =
      keyTokens key entries ++ if entry.1 = key then (strsplit entry.2.getString).getD [] else [] := by
  by_cases h : entry.1 = key <;> simp [keyTokens, h]

section Decoded

variable (K : ResultKeys)

/-! ## The interface's reading of a well-typed vardict -/

/-- The payload of a `t` value; 0 when there is none. -/
def uint64Payload : Option Variant → UInt64
  | some (.uint64 x) => x
  | _ => 0

/-- The payload of a `u` value; 0 when there is none. -/
def uint32Payload : Option Variant → UInt32
  | some (.uint32 x) => x
  | _ => 0

/-- The text of an `s` value; NULL when there is none. -/
def stringPayload : Option Variant → Option String
  | some (.string text) => some text
  | _ => none

@[simp] theorem uint64Payload_uint64 (x : UInt64) : uint64Payload (some (.uint64 x)) = x := rfl
@[simp] theorem uint64Payload_none : uint64Payload none = 0 := rfl
@[simp] theorem uint32Payload_uint32 (x : UInt32) : uint32Payload (some (.uint32 x)) = x := rfl
@[simp] theorem uint32Payload_none : uint32Payload none = 0 := rfl
@[simp] theorem stringPayload_string (text : String) :
    stringPayload (some (.string text)) = some text := rfl
@[simp] theorem stringPayload_none : stringPayload none = none := rfl

/-- The comma-split tokens of the strings of the entries carrying `key`, in entry order. -/
def stringTokens (key : String) (entries : Vardict) : List String :=
  (entries.filter fun entry ↦ entry.1 = key).flatMap fun entry ↦
    (strsplit (stringPayload (some entry.2))).getD []

@[simp]
theorem stringTokens_nil (key : String) : stringTokens key [] = [] := rfl

/-- The device the interface describes for an id and a vardict. -/
def decodedDevice (id : Option String) (entries : Vardict) : FwupdDevicePrivate where
  id := id
  created := uint64Payload (lastValue (K.name .deviceCreated) entries)
  modified := uint64Payload (lastValue (K.name .deviceModified) entries)
  flags := uint64Payload (lastValue (K.name .deviceFlags) entries)
  guids := (stringTokens (K.name .guid) entries).eraseDups
  name := stringPayload (lastValue (K.name .deviceName) entries)
  summary := none
  description := stringPayload (lastValue (K.name .deviceDescription) entries)
  vendor := stringPayload (lastValue (K.name .deviceVendor) entries)
  provider := stringPayload (lastValue (K.name .devicePlugin) entries)
  version := stringPayload (lastValue (K.name .deviceVersion) entries)
  versionLowest := stringPayload (lastValue (K.name .deviceVersionLowest) entries)
  versionBootloader := stringPayload (lastValue (K.name .deviceVersionBootloader) entries)
  checksums := (stringTokens (K.name .deviceChecksum) entries).eraseDups
  flashesLeft := uint32Payload (lastValue (K.name .deviceFlashesLeft) entries)

theorem decodedDevice_nil_none : decodedDevice K none [] = fwupdDeviceNew := rfl

theorem decodedDevice_nil_some (id : String) :
    decodedDevice K (some id) [] = fwupdDeviceSetId fwupdDeviceNew (some id) := rfl

/-! ## The entry loop on any device -/

/-- What the entry loop makes of `device`: the last entry carrying a key sets that field, read
as its setter reads the value, and each list takes the comma-split tokens of its key's entries
in order, skipping those it holds. -/
def mergedDevice (device : FwupdDevicePrivate) (entries : Vardict) : FwupdDevicePrivate where
  id := device.id
  created :=
    ((lastValue (K.name .deviceCreated) entries).map Variant.getUint64).getD device.created
  modified :=
    ((lastValue (K.name .deviceModified) entries).map Variant.getUint64).getD device.modified
  flags := ((lastValue (K.name .deviceFlags) entries).map Variant.getUint64).getD device.flags
  guids := (keyTokens (K.name .guid) entries).foldl appendNew device.guids
  name := ((lastValue (K.name .deviceName) entries).map Variant.getString).getD device.name
  summary := device.summary
  description := ((lastValue (K.name .deviceDescription) entries).map Variant.getString).getD
    device.description
  vendor := ((lastValue (K.name .deviceVendor) entries).map Variant.getString).getD device.vendor
  provider :=
    ((lastValue (K.name .devicePlugin) entries).map Variant.getString).getD device.provider
  version :=
    ((lastValue (K.name .deviceVersion) entries).map Variant.getString).getD device.version
  versionLowest := ((lastValue (K.name .deviceVersionLowest) entries).map Variant.getString).getD
    device.versionLowest
  versionBootloader :=
    ((lastValue (K.name .deviceVersionBootloader) entries).map Variant.getString).getD
      device.versionBootloader
  checksums := (keyTokens (K.name .deviceChecksum) entries).foldl appendNew device.checksums
  flashesLeft := ((lastValue (K.name .deviceFlashesLeft) entries).map Variant.getUint32).getD
    device.flashesLeft

theorem mergedDevice_nil (device : FwupdDevicePrivate) : mergedDevice K device [] = device := rfl

/-- One entry takes the merge of the entries before it to the merge of the entries up to it. -/
theorem dispatchEntry_mergedDevice (device : FwupdDevicePrivate) (entries : Vardict)
    (key : String) (value : Variant) :
    dispatchEntry K (mergedDevice K device entries) key value =
      mergedDevice K device (entries ++ [(key, value)]) := by
  simp only [dispatchEntry, mergedDevice, lastValue_append_singleton, keyTokens_append_singleton,
    List.foldl_append]
  congr 1 <;> split_ifs <;> simp

/-- The entry loop from the merge of some entries: it stops at the first entry whose split is
NULL, and otherwise reaches the merge of all of them. -/
theorem fwupdDeviceSetFromVariantIter_mergedDevice (device : FwupdDevicePrivate)
    (done rest : Vardict) :
    fwupdDeviceSetFromVariantIter K (mergedDevice K device done) rest =
      if ∃ entry ∈ rest, K.NullSplit entry then .error "split[0] dereferences the NULL vector"
      else .ok (mergedDevice K device (done ++ rest)) := by
  induction rest generalizing done with
  | nil => rw [List.append_nil]; rfl
  | cons entry rest ih =>
    simp only [fwupdDeviceSetFromVariantIter, List.foldlM_cons] at ih ⊢
    rw [fwupdDeviceFromKeyValue_eq_dispatch]
    by_cases hnull : K.NullSplit entry
    · rw [if_pos hnull, if_pos ⟨entry, List.mem_cons_self entry rest, hnull⟩]
      rfl
    · rw [if_neg hnull, dispatchEntry_mergedDevice, Prod.mk.eta]
      refine (ih _).trans ?_
      have hcons := List.exists_mem_cons_iff K.NullSplit entry rest
      by_cases hrest : ∃ entry ∈ rest, K.NullSplit entry
      · rw [if_pos hrest, if_pos (hcons.mpr (.inr hrest))]
      · rw [if_neg hrest, if_neg (hcons.not.mpr (not_or.mpr ⟨hnull, hrest⟩)), List.append_assoc,
          List.singleton_append]

/-- `fwupd_device_set_from_variant_iter` on any device and any entries: the process stops if
some list entry is not a string; otherwise each key's last entry sets its field, and each list
takes the new tokens of its entries. -/
theorem fwupdDeviceSetFromVariantIter_eq (K : ResultKeys) (device : FwupdDevicePrivate)
    (entries : Vardict) :
    fwupdDeviceSetFromVariantIter K device entries =
      if ∃ entry ∈ entries, K.NullSplit entry then .error "split[0] dereferences the NULL vector"
      else .ok (mergedDevice K device entries) :=
  fwupdDeviceSetFromVariantIter_mergedDevice K device [] entries

theorem getD_map_getD_map {α β : Type} (value : Option α) (read : α → β) (default : β) :
    (value.map read).getD ((value.map read).getD default) = (value.map read).getD default := by
  cases value <;> rfl

/-- Merging the same entries twice is merging them once. -/
theorem mergedDevice_mergedDevice (device : FwupdDevicePrivate) (entries : Vardict) :
    mergedDevice K (mergedDevice K device entries) entries = mergedDevice K device entries := by
  simp only [mergedDevice, getD_map_getD_map, foldl_appendNew_idem]

/-- Replaying a dictionary on the device it was just applied to changes nothing: running the
entry loop over the entries twice in a row gives the same device, or the same stop, as once. -/
theorem fwupdDeviceSetFromVariantIter_append_self (K : ResultKeys) (device : FwupdDevicePrivate)
    (entries : Vardict) :
    fwupdDeviceSetFromVariantIter K device (entries ++ entries) =
      fwupdDeviceSetFromVariantIter K device entries := by
  have honce := fwupdDeviceSetFromVariantIter_mergedDevice K device [] entries
  rw [mergedDevice_nil, List.nil_append] at honce
  rw [fwupdDeviceSetFromVariantIter, List.foldlM_append]
  change (fwupdDeviceSetFromVariantIter K device entries >>= fun merged ↦
    fwupdDeviceSetFromVariantIter K merged entries) = _
  rw [honce]
  split_ifs with hnull
  · rfl
  · have htwice :=
      fwupdDeviceSetFromVariantIter_mergedDevice K (mergedDevice K device entries) [] entries
    rw [mergedDevice_nil, List.nil_append, if_neg hnull, mergedDevice_mergedDevice] at htwice
    exact htwice

/-! ## The entry loop computes the decoded device -/

/-- The last entry carrying a key is one of the entries. -/
theorem mem_of_lastValue_eq_some {key : String} {entries : Vardict} {value : Variant}
    (h : lastValue key entries = some value) : (key, value) ∈ entries := by
  obtain ⟨entry, hlast, rfl⟩ := Option.map_eq_some'.mp h
  obtain ⟨hmem, hkey⟩ := List.mem_filter.mp (List.mem_of_getLast?_eq_some hlast)
  rw [← of_decide_eq_true hkey]
  exact hmem

section WellTyped

variable {K} {entries : Vardict} (htyped : ∀ entry ∈ entries, K.WellTyped entry)
include htyped

/-- The last entry of a key the decoder reads has the type the key expects. -/
theorem typeString_of_lastValue {k : ResultKey} (hk : k ∈ ResultKey.dispatched) {value : Variant}
    (h : lastValue (K.name k) entries = some value) : value.typeString = k.valueType :=
  htyped _ (mem_of_lastValue_eq_some h) k hk rfl

theorem getUint64_lastValue {k : ResultKey} (hk : k ∈ ResultKey.dispatched)
    (ht : k.valueType = "t") :
    ((lastValue (K.name k) entries).map Variant.getUint64).getD 0 =
      uint64Payload (lastValue (K.name k) entries) := by
  cases hlast : lastValue (K.name k) entries with
  | none => rfl
  | some value =>
    obtain ⟨x, rfl⟩ := Variant.eq_uint64_of_typeString (ht ▸ typeString_of_lastValue htyped hk hlast)
    rfl

theorem getUint32_lastValue {k : ResultKey} (hk : k ∈ ResultKey.dispatched)
    (hu : k.valueType = "u") :
    ((lastValue (K.name k) entries).map Variant.getUint32).getD 0 =
      uint32Payload (lastValue (K.name k) entries) := by
  cases hlast : lastValue (K.name k) entries with
  | none => rfl
  | some value =>
    obtain ⟨x, rfl⟩ := Variant.eq_uint32_of_typeString (hu ▸ typeString_of_lastValue htyped hk hlast)
    rfl

theorem getString_lastValue {k : ResultKey} (hk : k ∈ ResultKey.dispatched)
    (hs : k.valueType = "s") :
    ((lastValue (K.name k) entries).map Variant.getString).getD none =
      stringPayload (lastValue (K.name k) entries) := by
  cases hlast : lastValue (K.name k) entries with
  | none => rfl
  | some value =>
    obtain ⟨text, rfl⟩ := Variant.eq_string_of_typeString (hs ▸ typeString_of_lastValue htyped hk hlast)
    rfl

/-- The tokens of a list key's entries are those of their strings. -/
theorem keyTokens_eq_stringTokens {k : ResultKey} (hk : k ∈ ResultKey.dispatched)
    (hs : k.valueType = "s") : keyTokens (K.name k) entries = stringTokens (K.name k) entries := by
  refine List.flatMap_congr fun entry hentry ↦ ?_
  obtain ⟨hmem, hkey⟩ := List.mem_filter.mp hentry
  obtain ⟨text, htext⟩ := Variant.eq_string_of_typeString
    (hs ▸ htyped entry hmem k hk (of_decide_eq_true hkey))
  rw [htext]
  rfl

end WellTyped

/-- On well-typed entries the decoded device is the merge of the entries into the decoded
device of none. -/
theorem decodedDevice_eq_mergedDevice (id : Option String) {entries : Vardict}
    (htyped : ∀ entry ∈ entries, K.WellTyped entry) :
    decodedDevice K id entries = mergedDevice K (decodedDevice K id []) entries := by
  have hlist := fun k hk hs ↦ (foldl_appendNew_eraseDups [] (keyTokens (K.name k) entries)).trans
    (congrArg List.eraseDups (keyTokens_eq_stringTokens htyped (k := k) hk hs))
  simp only [decodedDevice, mergedDevice, lastValue_nil, stringTokens_nil, Option.map_none',
    Option.getD_none, uint64Payload_none, uint32Payload_none, stringPayload_none,
    getUint64_lastValue htyped (k := .deviceCreated) (by decide) rfl,
    getUint64_lastValue htyped (k := .deviceModified) (by decide) rfl,
    getUint64_lastValue htyped (k := .deviceFlags) (by decide) rfl,
    getUint32_lastValue htyped (k := .deviceFlashesLeft) (by decide) rfl,
    getString_lastValue htyped (k := .deviceName) (by decide) rfl,
    getString_lastValue htyped (k := .deviceVendor) (by decide) rfl,
    getString_lastValue htyped (k := .deviceDescription) (by decide) rfl,
    getString_lastValue htyped (k := .devicePlugin) (by decide) rfl,
    getString_lastValue htyped (k := .deviceVersion) (by decide) rfl,
    getString_lastValue htyped (k := .deviceVersionLowest) (by decide) rfl,
    getString_lastValue htyped (k := .deviceVersionBootloader) (by decide) rfl,
    hlist .guid (by decide) rfl, hlist .deviceChecksum (by decide) rfl, List.nil_append]

/-- The entry loop, from the decoded device of no entries, reaches that of well-typed
entries. -/
theorem fwupdDeviceSetFromVariantIter_decodedDevice (id : Option String) (entries : Vardict)
    (htyped : ∀ entry ∈ entries, K.WellTyped entry) :
    fwupdDeviceSetFromVariantIter K (decodedDevice K id []) entries =
      .ok (decodedDevice K id entries) := by
  have hsplit : ¬ ∃ entry ∈ entries, K.NullSplit entry := fun ⟨entry, hentry, hnull⟩ ↦
    not_nullSplit_of_wellTyped K (htyped entry hentry) hnull
  have hloop := fwupdDeviceSetFromVariantIter_mergedDevice K (decodedDevice K id []) [] entries
  rw [mergedDevice_nil, if_neg hsplit, List.nil_append] at hloop
  rw [hloop, decodedDevice_eq_mergedDevice K id htyped]

/-! ## The decoder's contract -/

/-- With pairwise distinct keys, at most one entry carries a key. -/
theorem length_filter_key_le_one {entries : Vardict} (hkeys : (entries.map Prod.fst).Nodup)
    (key : String) : (entries.filter fun entry ↦ entry.1 = key).length ≤ 1 := by
  set carrying := entries.filter fun entry ↦ entry.1 = key
  have hnodup : (carrying.map Prod.fst).Nodup :=
    hkeys.sublist ((List.filter_sublist entries).map Prod.fst)
  have hreplicate : carrying.map Prod.fst = List.replicate carrying.length key :=
    List.eq_replicate_iff.mpr ⟨List.length_map _ _, by simp [carrying]⟩
  exact List.nodup_replicate.mp (hreplicate ▸ hnodup)

/-- So a permutation keeps the entries carrying each key. -/
theorem filter_key_eq_of_perm {entries entries' : Vardict} (hperm : entries.Perm entries')
    (hkeys : (entries.map Prod.fst).Nodup) (key : String) :
    entries.filter (fun entry ↦ entry.1 = key) = entries'.filter (fun entry ↦ entry.1 = key) := by
  set carrying := entries.filter fun entry ↦ entry.1 = key
  have hlength : carrying.length ≤ 1 := length_filter_key_le_one hkeys key
  have hcarried : carrying.Perm (entries'.filter fun entry ↦ entry.1 = key) := hperm.filter _
  match carrying, hlength, hcarried with
  | [], _, h => exact (List.nil_perm.mp h).symm
  | [entry], _, h => exact List.singleton_perm.mp h

theorem decodedDevice_perm {entries entries' : Vardict} (hperm : entries.Perm entries')
    (hkeys : (entries.map Prod.fst).Nodup) (id : Option String) :
    decodedDevice K id entries = decodedDevice K id entries' := by
  simp only [decodedDevice, lastValue, stringTokens, filter_key_eq_of_perm hperm hkeys]

theorem mergedDevice_perm (device : FwupdDevicePrivate) {entries entries' : Vardict}
    (hperm : entries.Perm entries') (hkeys : (entries.map Prod.fst).Nodup) :
    mergedDevice K device entries = mergedDevice K device entries' := by
  simp only [mergedDevice, lastValue, keyTokens, filter_key_eq_of_perm hperm hkeys]

/-- On any device, the entry loop does not depend on the order of entries with distinct keys,
whatever their values. -/
theorem fwupdDeviceSetFromVariantIter_perm (K : ResultKeys) (device : FwupdDevicePrivate)
    {entries entries' : Vardict} (hperm : entries.Perm entries')
    (hkeys : (entries.map Prod.fst).Nodup) :
    fwupdDeviceSetFromVariantIter K device entries =
      fwupdDeviceSetFromVariantIter K device entries' := by
  have hloop := fun entries ↦ fwupdDeviceSetFromVariantIter_mergedDevice K device [] entries
  simp only [mergedDevice_nil, List.nil_append] at hloop
  rw [hloop, hloop, mergedDevice_perm K device hperm hkeys]
  simp only [hperm.mem_iff]

theorem fwupdDeviceSetFromVariantIter_perm_swap :
    fwupdDeviceSetFromVariantIter sampleKeys (fwupdDeviceSetVendor fwupdDeviceNew (some "vendor-a"))
        [("Name", .uint64 1), ("Flags", .uint64 9)] =
      fwupdDeviceSetFromVariantIter sampleKeys (fwupdDeviceSetVendor fwupdDeviceNew (some "vendor-a"))
        [("Flags", .uint64 9), ("Name", .uint64 1)] :=
  fwupdDeviceSetFromVariantIter_perm sampleKeys _ (by decide) (by decide)

/-- `fwupd_device_new_from_data` on the three accepted shapes, when every entry with a known
key carries the type that key expects: the decoded device, the outer string as id for
`{sa{sv}}`.  Permuting entries with distinct keys changes nothing, and `a{sv}` and `(a{sv})`
decode alike. -/
theorem fwupdDeviceNewFromData_decodedDevice :
    (∀ entries : Vardict, (∀ entry ∈ entries, K.WellTyped entry) →
      fwupdDeviceNewFromData K (.vardict entries) = .ok (some (decodedDevice K none entries)) ∧
      fwupdDeviceNewFromData K (.tuple entries) = .ok (some (decodedDevice K none entries)) ∧
      ∀ id, fwupdDeviceNewFromData K (.dictEntry id entries) =
        .ok (some (decodedDevice K (some id) entries))) ∧
    (∀ entries entries' : Vardict, entries.Perm entries' → (entries.map Prod.fst).Nodup →
      (∀ entry ∈ entries, K.WellTyped entry) →
      fwupdDeviceNewFromData K (.vardict entries) = fwupdDeviceNewFromData K (.vardict entries') ∧
      fwupdDeviceNewFromData K (.tuple entries) = fwupdDeviceNewFromData K (.tuple entries') ∧
      ∀ id, fwupdDeviceNewFromData K (.dictEntry id entries) =
        fwupdDeviceNewFromData K (.dictEntry id entries')) ∧
    (∀ entries : Vardict,
      fwupdDeviceNewFromData K (.vardict entries) = fwupdDeviceNewFromData K (.tuple entries)) := by
  have hdecode : ∀ entries : Vardict, (∀ entry ∈ entries, K.WellTyped entry) →
      fwupdDeviceNewFromData K (.vardict entries) = .ok (some (decodedDevice K none entries)) ∧
      fwupdDeviceNewFromData K (.tuple entries) = .ok (some (decodedDevice K none entries)) ∧
      ∀ id, fwupdDeviceNewFromData K (.dictEntry id entries) =
        .ok (some (decodedDevice K (some id) entries)) := by
    intro entries htyped
    have hnone := fwupdDeviceSetFromVariantIter_decodedDevice K none entries htyped
    refine ⟨?_, ?_, fun id ↦ ?_⟩
    · simp only [fwupdDeviceNewFromData, ← decodedDevice_nil_none K, hnone, List.nil_append]
      rfl
    · simp only [fwupdDeviceNewFromData, ← decodedDevice_nil_none K, hnone, List.nil_append]
      rfl
    · have hsome := fwupdDeviceSetFromVariantIter_decodedDevice K (some id) entries htyped
      simp only [fwupdDeviceNewFromData, ← decodedDevice_nil_some K, hsome, List.nil_append]
      rfl
  refine ⟨hdecode, fun entries entries' hperm hkeys htyped ↦ ?_, fun _ ↦ rfl⟩
  have htyped' : ∀ entry ∈ entries', K.WellTyped entry :=
    fun entry h ↦ htyped entry (hperm.symm.subset h)
  obtain ⟨h1, h2, h3⟩ := hdecode entries htyped
  obtain ⟨h1', h2', h3'⟩ := hdecode entries' htyped'
  refine ⟨?_, ?_, fun id ↦ ?_⟩
  · rw [h1, h1', decodedDevice_perm K hperm hkeys]
  · rw [h2, h2', decodedDevice_perm K hperm hkeys]
  · rw [h3, h3', decodedDevice_perm K hperm hkeys]

/-- A dictionary with a repeated key and a key the decoder does not read: the last name wins,
the GUID tokens are deduplicated in order, and the unknown `b` entry changes nothing. -/
theorem fwupdDeviceNewFromData_decodedDevice_repeatedName :
    fwupdDeviceNewFromData sampleKeys
        (.vardict [("Name", .string "ColorHug"), ("Guid", .string "a,b"),
          ("Icon", .other ⟨"b", by decide⟩), ("Name", .string "ColorHug2"), ("Guid", .string "b,c")]) =
      .ok (some { fwupdDeviceNew with name := some "ColorHug2", guids := ["a", "b", "c"] }) :=
  (((fwupdDeviceNewFromData_decodedDevice sampleKeys).1 _ (by decide)).1).trans rfl

/-! ## Entries the dispatch does not expect -/

/-- What `fwupd_device_from_key_value` does with an entry it does not expect.  An unknown key
changes nothing.  A known key whose value has another type is not skipped: a number field is
set to 0 and a string field to NULL; an object path or a signature is read by every string
branch, the two list branches included, as a string of its text. -/
theorem fwupdDeviceFromKeyValue_unexpected (device : FwupdDevicePrivate) (key : String)
    (value : Variant) :
    ((∀ k ∈ ResultKey.dispatched, key ≠ K.name k) →
      fwupdDeviceFromKeyValue K device key value = .ok device) ∧
    (value.typeString ≠ "t" →
      fwupdDeviceFromKeyValue K device (K.name .deviceFlags) value = .ok { device with flags := 0 } ∧
      fwupdDeviceFromKeyValue K device (K.name .deviceCreated) value =
        .ok { device with created := 0 } ∧
      fwupdDeviceFromKeyValue K device (K.name .deviceModified) value =
        .ok { device with modified := 0 }) ∧
    (value.typeString ≠ "u" →
      fwupdDeviceFromKeyValue K device (K.name .deviceFlashesLeft) value =
        .ok { device with flashesLeft := 0 }) ∧
    (value.typeString ∉ ["s", "o", "g"] →
      fwupdDeviceFromKeyValue K device (K.name .deviceName) value = .ok { device with name := none } ∧
      fwupdDeviceFromKeyValue K device (K.name .deviceVendor) value =
        .ok { device with vendor := none } ∧
      fwupdDeviceFromKeyValue K device (K.name .deviceDescription) value =
        .ok { device with description := none } ∧
      fwupdDeviceFromKeyValue K device (K.name .devicePlugin) value =
        .ok { device with provider := none } ∧
      fwupdDeviceFromKeyValue K device (K.name .deviceVersion) value =
        .ok { device with version := none } ∧
      fwupdDeviceFromKeyValue K device (K.name .deviceVersionLowest) value =
        .ok { device with versionLowest := none } ∧
      fwupdDeviceFromKeyValue K device (K.name .deviceVersionBootloader) value =
        .ok { device with versionBootloader := none }) ∧
    (∀ text, value.getString = some text → ∀ k ∈ ResultKey.dispatched, k.valueType = "s" →
      fwupdDeviceFromKeyValue K device (K.name k) value =
        fwupdDeviceFromKeyValue K device (K.name k) (.string text)) := by
  refine ⟨fwupdDeviceFromKeyValue_of_not_dispatched K device value, fun ht ↦ ?_, fun hu ↦ ?_,
    fun hs ↦ ?_, fun text htext k hk hs ↦ ?_⟩
  · simp [Variant.getUint64_of_typeString_ne ht]
  · simp [Variant.getUint32_of_typeString_ne hu]
  · simp [Variant.getString_eq_none hs]
  · simp only [ResultKey.dispatched, List.mem_cons, List.mem_singleton, List.not_mem_nil,
      or_false] at hk
    rcases hk with rfl | rfl | rfl | rfl | rfl | rfl | rfl | rfl | rfl | rfl | rfl | rfl | rfl <;>
      simp_all [ResultKey.valueType]

/-- An entry of a known key with a value of the wrong type is not skipped: a `t` value under
the name key clears a name set before. -/
theorem fwupdDeviceFromKeyValue_illTyped_clears_name :
    ¬ ∃ K : ResultKeys, ∀ (device : FwupdDevicePrivate) (key : String) (value : Variant),
      ((∀ k ∈ ResultKey.dispatched, key ≠ K.name k) ∨
        ∃ k ∈ ResultKey.dispatched, key = K.name k ∧ value.typeString ≠ k.valueType) →
      fwupdDeviceFromKeyValue K device key value = .ok device := by
  rintro ⟨K, hunchanged⟩
  have hname := hunchanged (fwupdDeviceSetName fwupdDeviceNew (some "ColorHug2"))
    (K.name .deviceName) (.uint64 1)
    (.inr ⟨.deviceName, by simp [ResultKey.dispatched], rfl, by decide⟩)
  simp [Variant.getString] at hname

end Decoded

end FwupdDevice
