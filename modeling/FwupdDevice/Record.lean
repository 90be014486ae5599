import Mathlib.Data.List.Nodup

/-!
# The device record and its accessors

`FwupdDevicePrivate` holds the fields of a device.  Each setter of `fwupd-device.c` replaces
one field, the two list adders append a string only when the list does not hold it yet, and
the flag calls are bitwise operations on the 64-bit mask.  A NULL string is `none`; both
`GPtrArray`s are lists in array order.  The getters are the structure's projections.
-/

namespace FwupdDevice

/-- The fields of `FwupdDevicePrivate` that the functions of `fwupd-device.c` read or write.
A text field is a Lean string, so it holds valid UTF-8: the only text a GVariant string can
carry.  A setter handed other bytes is outside the model; `g_variant_new_string` refuses such
a string, and the encoder then writes no entry for it. -/
structure FwupdDevicePrivate where
  id : Option String
  created : UInt64
  modified : UInt64
  flags : UInt64
  guids : List String
  name : Option String
  summary : Option String
  description : Option String
  vendor : Option String
  provider : Option String
  version : Option String
  versionLowest : Option String
  versionBootloader : Option String
  checksums : List String
  flashesLeft : UInt32
  deriving DecidableEq, Repr

/-- `fwupd_device_new`: `fwupd_device_init` allocates two empty arrays; every other field is
zeroed. -/
def fwupdDeviceNew : FwupdDevicePrivate where
  id := none
  created := 0
  modified := 0
  flags := 0
  guids := []
  name := none
  summary := none
  description := none
  vendor := none
  provider := none
  version := none
  versionLowest := none
  versionBootloader := none
  checksums := []
  flashesLeft := 0

/-! ## Scalar setters -/

section Setters

variable (device : FwupdDevicePrivate)

def fwupdDeviceSetId (id : Option String) : FwupdDevicePrivate := { device with id }
def fwupdDeviceSetSummary (summary : Option String) : FwupdDevicePrivate := { device with summary }
def fwupdDeviceSetName (name : Option String) : FwupdDevicePrivate := { device with name }
def fwupdDeviceSetVendor (vendor : Option String) : FwupdDevicePrivate := { device with vendor }

def fwupdDeviceSetDescription (description : Option String) : FwupdDevicePrivate :=
  { device with description }

def fwupdDeviceSetVersion (version : Option String) : FwupdDevicePrivate := { device with version }

def fwupdDeviceSetVersionLowest (versionLowest : Option String) : FwupdDevicePrivate :=
  { device with versionLowest }

def fwupdDeviceSetVersionBootloader (versionBootloader : Option String) : FwupdDevicePrivate :=
  { device with versionBootloader }

def fwupdDeviceSetProvider (provider : Option String) : FwupdDevicePrivate :=
  { device with provider }

def fwupdDeviceSetFlashesLeft (flashesLeft : UInt32) : FwupdDevicePrivate :=
  { device with flashesLeft }

def fwupdDeviceSetCreated (created : UInt64) : FwupdDevicePrivate := { device with created }
def fwupdDeviceSetModified (modified : UInt64) : FwupdDevicePrivate := { device with modified }
def fwupdDeviceSetFlags (flags : UInt64) : FwupdDevicePrivate := { device with flags }

/-- `fwupd_device_add_flag`: `priv->flags |= flag`. -/
def fwupdDeviceAddFlag (flag : UInt64) : FwupdDevicePrivate :=
  { device with flags := device.flags ||| flag }

/-- `fwupd_device_remove_flag`: `priv->flags &= ~flag`. -/
def fwupdDeviceRemoveFlag (flag : UInt64) : FwupdDevicePrivate :=
  { device with flags := device.flags &&& ~~~flag }

/-- `fwupd_device_has_flag`: `(priv->flags & flag) > 0`. -/
def fwupdDeviceHasFlag (flag : UInt64) : Bool :=
  decide ((device.flags &&& flag) > 0)

end Setters

attribute [simp] fwupdDeviceSetId fwupdDeviceSetSummary fwupdDeviceSetName fwupdDeviceSetVendor
  fwupdDeviceSetDescription fwupdDeviceSetVersion fwupdDeviceSetVersionLowest
  fwupdDeviceSetVersionBootloader fwupdDeviceSetProvider fwupdDeviceSetFlashesLeft
  fwupdDeviceSetCreated fwupdDeviceSetModified fwupdDeviceSetFlags fwupdDeviceAddFlag
  fwupdDeviceRemoveFlag

/-! ## The flag calls -/

section Flags

@[simp] theorem toBitVec_and (a b : UInt64) : (a &&& b).toBitVec = a.toBitVec &&& b.toBitVec := rfl
@[simp] theorem toBitVec_or (a b : UInt64) : (a ||| b).toBitVec = a.toBitVec ||| b.toBitVec := rfl
@[simp] theorem toBitVec_not (a : UInt64) : (~~~a).toBitVec = ~~~a.toBitVec := rfl
@[simp] theorem toBitVec_zero : (0 : UInt64).toBitVec = 0 := rfl

theorem eq_iff_getLsbD {a b : UInt64} :
    a = b ↔ ∀ i < 64, a.toBitVec.getLsbD i = b.toBitVec.getLsbD i := by
  constructor
  · rintro rfl _ _
    rfl
  · intro h
    apply UInt64.eq_of_toBitVec_eq
    apply BitVec.eq_of_getLsbD_eq
    intro i
    exact h i i.isLt

theorem fwupdDeviceHasFlag_iff (device : FwupdDevicePrivate) (flag : UInt64) :
    fwupdDeviceHasFlag device flag = true ↔ device.flags &&& flag ≠ 0 := by
  rw [fwupdDeviceHasFlag, decide_eq_true_iff, gt_iff_lt, UInt64.lt_def, BitVec.lt_def]
  constructor
  · rintro h h0
    rw [h0] at h
    exact absurd h (by decide)
  · intro h
    exact Nat.pos_of_ne_zero fun h0 ↦ h (UInt64.toNat.inj h0)

/-- `fwupd_device_has_flag` holds exactly when the device and the mask share a set bit. -/
theorem fwupdDeviceHasFlag_iff_getLsbD (device : FwupdDevicePrivate) (flag : UInt64) :
    fwupdDeviceHasFlag device flag = true ↔
      ∃ i < 64, device.flags.toBitVec.getLsbD i = true ∧ flag.toBitVec.getLsbD i = true := by
  rw [fwupdDeviceHasFlag_iff, Ne, eq_iff_getLsbD]
  simp

/-- A flag is set by `fwupd_device_add_flag` and cleared by `fwupd_device_remove_flag`, and
neither call changes what `fwupd_device_has_flag` says of a flag with no bit in common. -/
theorem fwupdDeviceHasFlag_addFlag_removeFlag (device : FwupdDevicePrivate) (flag other : UInt64)
    (hflag : flag ≠ 0) (hdisjoint : flag &&& other = 0) :
    fwupdDeviceHasFlag (fwupdDeviceAddFlag device flag) flag = true ∧
      fwupdDeviceHasFlag (fwupdDeviceRemoveFlag device flag) flag = false ∧
      fwupdDeviceHasFlag (fwupdDeviceAddFlag device flag) other = fwupdDeviceHasFlag device other ∧
      fwupdDeviceHasFlag (fwupdDeviceRemoveFlag device flag) other =
        fwupdDeviceHasFlag device other := by
  rw [eq_iff_getLsbD] at hdisjoint
  -- one case analysis on the three bits at each position
  have hbits : ∀ i < 64,
      ((device.flags ||| flag) &&& flag).toBitVec.getLsbD i = flag.toBitVec.getLsbD i ∧
      ((device.flags &&& ~~~flag) &&& flag).toBitVec.getLsbD i = (0 : UInt64).toBitVec.getLsbD i ∧
      ((device.flags ||| flag) &&& other).toBitVec.getLsbD i =
        (device.flags &&& other).toBitVec.getLsbD i ∧
      ((device.flags &&& ~~~flag) &&& other).toBitVec.getLsbD i =
        (device.flags &&& other).toBitVec.getLsbD i := by
    intro i hi
    have hdis := hdisjoint i hi
    simp only [toBitVec_and, toBitVec_or, toBitVec_not, toBitVec_zero, BitVec.getLsbD_and,
      BitVec.getLsbD_or, BitVec.getLsbD_not, BitVec.getLsbD_zero, hi, decide_True,
      Bool.true_and] at hdis ⊢
    revert hdis
    cases device.flags.toBitVec.getLsbD i <;> cases flag.toBitVec.getLsbD i <;>
      cases other.toBitVec.getLsbD i <;> simp
  have hset : (device.flags ||| flag) &&& flag = flag :=
    eq_iff_getLsbD.mpr fun i hi ↦ (hbits i hi).1
  have hclear : (device.flags &&& ~~~flag) &&& flag = 0 :=
    eq_iff_getLsbD.mpr fun i hi ↦ (hbits i hi).2.1
  have hor : (device.flags ||| flag) &&& other = device.flags &&& other :=
    eq_iff_getLsbD.mpr fun i hi ↦ (hbits i hi).2.2.1
  have hnot : (device.flags &&& ~~~flag) &&& other = device.flags &&& other :=
    eq_iff_getLsbD.mpr fun i hi ↦ (hbits i hi).2.2.2
  refine ⟨?_, ?_, ?_, ?_⟩
  · rw [fwupdDeviceHasFlag_iff]
    simpa only [fwupdDeviceAddFlag, hset] using hflag
  · rw [← Bool.not_eq_true, fwupdDeviceHasFlag_iff]
    simp [fwupdDeviceRemoveFlag, hclear]
  · simp only [fwupdDeviceHasFlag, fwupdDeviceAddFlag, hor]
  · simp only [fwupdDeviceHasFlag, fwupdDeviceRemoveFlag, hnot]

theorem fwupdDeviceHasFlag_addFlag_removeFlag_bits :
    (4 : UInt64) ≠ 0 ∧ (4 : UInt64) &&& 1 = 0 ∧
      fwupdDeviceHasFlag (fwupdDeviceAddFlag fwupdDeviceNew 4) 4 = true ∧
      fwupdDeviceHasFlag (fwupdDeviceRemoveFlag fwupdDeviceNew 4) 4 = false ∧
      fwupdDeviceHasFlag (fwupdDeviceAddFlag fwupdDeviceNew 4) 1 =
        fwupdDeviceHasFlag fwupdDeviceNew 1 ∧
      fwupdDeviceHasFlag (fwupdDeviceRemoveFlag fwupdDeviceNew 4) 1 =
        fwupdDeviceHasFlag fwupdDeviceNew 1 :=
  ⟨by decide, by decide,
    fwupdDeviceHasFlag_addFlag_removeFlag fwupdDeviceNew 4 1 (by decide) (by decide)⟩

end Flags

/-! ## The GUID and checksum lists -/

/-- `fwupd_device_has_guid`: a scan for a string equal to `guid`. -/
def fwupdDeviceHasGuid (device : FwupdDevicePrivate) (guid : String) : Bool :=
  device.guids.any fun guidTmp ↦ guid == guidTmp

/-- `fwupd_device_add_guid`: appends `guid` unless `fwupd_device_has_guid` finds it.  A NULL
`guid` is outside the model. -/
def fwupdDeviceAddGuid (device : FwupdDevicePrivate) (guid : String) : FwupdDevicePrivate :=
  if fwupdDeviceHasGuid device guid then device else { device with guids := device.guids ++ [guid] }

/-- `fwupd_device_get_guid_default`: the first GUID, or NULL for an empty array. -/
def fwupdDeviceGetGuidDefault (device : FwupdDevicePrivate) : Option String :=
  device.guids.head?

/-- `fwupd_device_add_checksum`: its own inline scan, then an append.  The call refuses a NULL
`checksum`, which is outside the model. -/
def fwupdDeviceAddChecksum (device : FwupdDevicePrivate) (checksum : String) :
    FwupdDevicePrivate :=
  if device.checksums.any (fun checksumTmp ↦ checksumTmp == checksum) then device
  else { device with checksums := device.checksums ++ [checksum] }

@[simp]
theorem fwupdDeviceHasGuid_iff (device : FwupdDevicePrivate) (guid : String) :
    fwupdDeviceHasGuid device guid = true ↔ guid ∈ device.guids :=
  List.any_beq

/-- The list-level step both adders take: append `item` unless `items` holds it. -/
def appendNew (items : List String) (item : String) : List String :=
  if item ∈ items then items else items ++ [item]

theorem prefix_appendNew (items : List String) (item : String) : items <+: appendNew items item := by
  unfold appendNew
  split_ifs
  · exact List.prefix_refl items
  · exact List.prefix_append items [item]

theorem mem_appendNew {items : List String} {new item : String} :
    item ∈ appendNew items new ↔ item ∈ items ∨ item = new := by
  unfold appendNew
  split_ifs with h
  · exact ⟨.inl, fun hitem ↦ hitem.elim id fun heq ↦ heq ▸ h⟩
  · simp

theorem nodup_appendNew {items : List String} (h : items.Nodup) (item : String) :
    (appendNew items item).Nodup := by
  unfold appendNew
  split_ifs with hmem
  · exact h
  · exact h.append (List.nodup_singleton item) (by simpa using hmem)

theorem nodup_foldl_appendNew {seen : List String} (h : seen.Nodup) (items : List String) :
    (items.foldl appendNew seen).Nodup := by
  induction items generalizing seen with
  | nil => exact h
  | cons item rest ih => exact ih (nodup_appendNew h item)

/-! ## First-occurrence deduplication

`List.eraseDups` keeps the first occurrence of each element.  The adders compute it one
element at a time: every fact below follows from `eraseDups_append_singleton`. -/

theorem eraseDupsLoop_append_singleton (items : List String) (item : String) (seen : List String) :
    List.eraseDups.loop (items ++ [item]) seen =
      appendNew (List.eraseDups.loop items seen) item := by
  induction items generalizing seen with
  | nil =>
    by_cases h : item ∈ seen <;> simp [List.eraseDups.loop, appendNew, h, List.elem_eq_mem]
  | cons head tail ih =>
    by_cases h : head ∈ seen <;> simp [List.eraseDups.loop, h, ih]

theorem eraseDups_append_singleton (items : List String) (item : String) :
    (items ++ [item]).eraseDups = appendNew items.eraseDups item :=
  eraseDupsLoop_append_singleton items item []

@[simp]
theorem mem_eraseDups {items : List String} {item : String} :
    item ∈ items.eraseDups ↔ item ∈ items := by
  induction items using List.reverseRecOn with
  | nil => rfl
  | append_singleton init last ih =>
    rw [eraseDups_append_singleton, mem_appendNew, ih, List.mem_append, List.mem_singleton]

theorem nodup_eraseDups (items : List String) : items.eraseDups.Nodup := by
  induction items using List.reverseRecOn with
  | nil => exact List.nodup_nil
  | append_singleton init last ih =>
    rw [eraseDups_append_singleton]
    exact nodup_appendNew ih last

theorem eraseDups_of_nodup {items : List String} (h : items.Nodup) : items.eraseDups = items := by
  induction items using List.reverseRecOn with
  | nil => rfl
  | append_singleton init last ih =>
    have hfresh : last ∉ init := by simpa using (List.nodup_append.mp h).2.2
    rw [eraseDups_append_singleton, ih (List.nodup_append.mp h).1, appendNew, if_neg hfresh]

theorem prefix_foldl_appendNew (seen items : List String) : seen <+: items.foldl appendNew seen := by
  induction items generalizing seen with
  | nil => exact List.prefix_refl seen
  | cons head tail ih => exact (prefix_appendNew seen head).trans (ih _)

theorem mem_foldl_appendNew {seen items : List String} {item : String} :
    item ∈ items.foldl appendNew seen ↔ item ∈ seen ∨ item ∈ items := by
  induction items generalizing seen with
  | nil => simp
  | cons head tail ih => rw [List.foldl_cons, ih, mem_appendNew, List.mem_cons, or_assoc]

/-- Folding in items the list already holds changes nothing. -/
theorem foldl_appendNew_of_subset {seen items : List String} (h : ∀ item ∈ items, item ∈ seen) :
    items.foldl appendNew seen = seen := by
  induction items with
  | nil => rfl
  | cons head tail ih =>
    rw [List.foldl_cons, appendNew, if_pos (h head (List.mem_cons_self head tail))]
    exact ih fun item hitem ↦ h item (List.mem_cons_of_mem head hitem)

/-- Folding in the same items twice is folding them in once. -/
theorem foldl_appendNew_idem (seen items : List String) :
    items.foldl appendNew (items.foldl appendNew seen) = items.foldl appendNew seen :=
  foldl_appendNew_of_subset fun _ hitem ↦ mem_foldl_appendNew.mpr (.inr hitem)

/-- Folding `appendNew` over new items continues the deduplication of everything seen. -/
theorem foldl_appendNew_eraseDups (seen items : List String) :
    items.foldl appendNew seen.eraseDups = (seen ++ items).eraseDups := by
  induction items generalizing seen with
  | nil => simp
  | cons head tail ih =>
    rw [List.foldl_cons, ← eraseDups_append_singleton, ih]
    simp

/-- Deduplicating more items only extends the deduplicated list. -/
theorem eraseDups_prefix_append (seen items : List String) :
    seen.eraseDups <+: (seen ++ items).eraseDups := by
  rw [← foldl_appendNew_eraseDups]
  exact prefix_foldl_appendNew _ items

/-- `fwupd_device_add_guid` is `appendNew` on the GUID list. -/
theorem fwupdDeviceAddGuid_eq (device : FwupdDevicePrivate) (guid : String) :
    fwupdDeviceAddGuid device guid = { device with guids := appendNew device.guids guid } := by
  by_cases h : guid ∈ device.guids <;> simp [fwupdDeviceAddGuid, appendNew, h]

/-- `fwupd_device_add_checksum` is `appendNew` on the checksum list. -/
theorem fwupdDeviceAddChecksum_eq (device : FwupdDevicePrivate) (checksum : String) :
    fwupdDeviceAddChecksum device checksum =
      { device with checksums := appendNew device.checksums checksum } := by
  by_cases h : checksum ∈ device.checksums <;>
    simp [fwupdDeviceAddChecksum, appendNew, h, List.any_beq']

/-- Adding GUIDs one after another folds `appendNew` over the GUID list. -/
theorem foldl_fwupdDeviceAddGuid (guids : List String) (device : FwupdDevicePrivate) :
    guids.foldl fwupdDeviceAddGuid device =
      { device with guids := guids.foldl appendNew device.guids } := by
  induction guids generalizing device with
  | nil => rfl
  | cons head tail ih => simp [ih, fwupdDeviceAddGuid_eq]

/-- Adding checksums one after another folds `appendNew` over the checksum list. -/
theorem foldl_fwupdDeviceAddChecksum (checksums : List String) (device : FwupdDevicePrivate) :
    checksums.foldl fwupdDeviceAddChecksum device =
      { device with checksums := checksums.foldl appendNew device.checksums } := by
  induction checksums generalizing device with
  | nil => rfl
  | cons head tail ih => simp [ih, fwupdDeviceAddChecksum_eq]

end FwupdDevice
