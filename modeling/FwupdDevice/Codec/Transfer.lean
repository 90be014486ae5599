import FwupdDevice.Codec.RoundTrip
import FwupdDevice.Text.Format

/-!
# Sending a device more than once

A device crosses the bus as `fwupd_device_to_data (device, "a{sv}")` read back by
`fwupd_device_new_from_data`.  A transfer stops the process exactly when the sender has no field
the encoder packs, in `g_variant_new` on the empty builder; otherwise the decoder never stops,
since every packed entry carries the type its key expects.  It does not give the device back in
general: the id and the summary are dropped, a list item holding a comma comes back split into
its pieces (and deduplicated with the others), and a list `[""]` comes back empty.

What one transfer returns has no id or summary and lists without repeats whose items hold no
comma (`Transferred`), and such a device comes back from a further transfer unchanged, unless a
list is exactly `[""]`.  So a device is fixed after at most two transfers, unless one of them
stops (`fwupdDeviceTransfer_stable`): emptying a `[""]` list can leave nothing to pack.

A client prints what it received with `fwupd_device_to_string`.  For a device with a packed
field whose lists hold no repeats, no comma in an item and are not exactly `[""]`, that report
is the sender's without its id line: the summary is not shown, and no other line carries the
id's key (`fwupdDeviceToString_fwupdDeviceTransfer`).
-/

namespace FwupdDevice

open GLib

/-- The device read back from `fwupd_device_to_data (device, "a{sv}")`. -/
def fwupdDeviceTransfer (K : ResultKeys) (device : FwupdDevicePrivate) :
    Except String (Option FwupdDevicePrivate) :=
  match fwupdDeviceToData K device "a{sv}" with
  | .ok (some data) => fwupdDeviceNewFromData K data
  | .ok none => .ok none
  | .error message => .error message

/-- A device with a list that is exactly `[""]` emptied, as a transfer returns it. -/
def emptiedLists (device : FwupdDevicePrivate) : FwupdDevicePrivate :=
  { device with
    guids := if device.guids = [""] then [] else device.guids
    checksums := if device.checksums = [""] then [] else device.checksums }

/-- A transfer of `sent` reads back `received`, or, when `sent` has no field the encoder packs,
stops the process. -/
def TransfersTo (K : ResultKeys) (sent received : FwupdDevicePrivate) : Prop :=
  if PacksField sent then fwupdDeviceTransfer K sent = .ok (some received)
  else ∃ message, fwupdDeviceTransfer K sent = .error message

/-- The shape of a device one transfer returns. -/
structure Transferred (device : FwupdDevicePrivate) : Prop where
  id_eq : device.id = none
  summary_eq : device.summary = none
  guids_nodup : device.guids.Nodup
  checksums_nodup : device.checksums.Nodup
  guids_comma : ∀ guid ∈ device.guids, ',' ∉ guid.data
  checksums_comma : ∀ checksum ∈ device.checksums, ',' ∉ checksum.data

section Transfer

variable (K : ResultKeys)

/-- A transfer of a device with a packed field reads back the decoded device of the packed
entries. -/
theorem fwupdDeviceTransfer_of_packsField {device : FwupdDevicePrivate} (h : PacksField device) :
    fwupdDeviceTransfer K device =
      .ok (some (decodedDevice K none (fwupdDeviceToVariantBuilder K device))) := by
  have hdecode := fwupdDeviceSetFromVariantIter_decodedDevice K none
    (fwupdDeviceToVariantBuilder K device)
    fun _ ↦ wellTyped_of_mem_fwupdDeviceToVariantBuilder K device
  rw [fwupdDeviceTransfer, (fwupdDeviceToData_of_packsField K device h).1]
  simp only [fwupdDeviceNewFromData, ← decodedDevice_nil_none K, hdecode]
  rfl

/-- A transfer of a device without a packed field stops where `fwupd_device_to_data` does. -/
theorem fwupdDeviceTransfer_of_not_packsField {device : FwupdDevicePrivate}
    (h : ¬ PacksField device) : ∃ message, fwupdDeviceTransfer K device = .error message := by
  obtain ⟨message, hstop⟩ :=
    (fwupdDeviceToData_error_iff K device (List.mem_cons_self "a{sv}" _)).mpr h
  exact ⟨message, by rw [fwupdDeviceTransfer, hstop]⟩

/-- Every device transfers to the decoded device of its packed entries, or stops. -/
theorem transfersTo_decodedDevice (device : FwupdDevicePrivate) :
    TransfersTo K device (decodedDevice K none (fwupdDeviceToVariantBuilder K device)) := by
  unfold TransfersTo
  split_ifs with h
  exacts [fwupdDeviceTransfer_of_packsField K h, fwupdDeviceTransfer_of_not_packsField K h]

theorem comma_not_mem_of_mem_stringTokens {key : String} {entries : Vardict} {token : String}
    (h : token ∈ stringTokens key entries) : ',' ∉ token.data := by
  obtain ⟨entry, -, htoken⟩ := List.mem_flatMap.mp h
  exact comma_not_mem_of_mem_strsplit htoken

/-- Every decoded device without an id has the shape of a transferred one. -/
theorem transferred_decodedDevice (entries : Vardict) :
    Transferred (decodedDevice K none entries) where
  id_eq := rfl
  summary_eq := rfl
  guids_nodup := nodup_eraseDups _
  checksums_nodup := nodup_eraseDups _
  guids_comma _ h := comma_not_mem_of_mem_stringTokens (mem_eraseDups.mp h)
  checksums_comma _ h := comma_not_mem_of_mem_stringTokens (mem_eraseDups.mp h)

/-- A transferred device reads back with only a `[""]` list emptied. -/
theorem decodedDevice_of_transferred {device : FwupdDevicePrivate} (h : Transferred device) :
    decodedDevice K none (fwupdDeviceToVariantBuilder K device) = emptiedLists device := by
  rw [decodedDevice_fwupdDeviceToVariantBuilder K device h.guids_nodup h.checksums_nodup
    h.guids_comma h.checksums_comma]
  obtain ⟨hid, hsummary, -, -, -, -⟩ := h
  cases device
  subst hid hsummary
  rfl

/-- A transferred device comes back from a further transfer with only a `[""]` list emptied,
or stops. -/
theorem transfersTo_of_transferred {device : FwupdDevicePrivate} (h : Transferred device) :
    TransfersTo K device (emptiedLists device) :=
  decodedDevice_of_transferred K h ▸ transfersTo_decodedDevice K device

theorem nodup_emptied {items : List String} (h : items.Nodup) :
    (if items = [""] then [] else items).Nodup := by
  split_ifs
  exacts [List.nodup_nil, h]

theorem comma_not_mem_emptied {items : List String} (h : ∀ item ∈ items, ',' ∉ item.data) :
    ∀ item ∈ (if items = [""] then [] else items), ',' ∉ item.data := by
  split_ifs
  exacts [fun _ hitem ↦ absurd hitem (List.not_mem_nil _), h]

/-- Emptying a `[""]` list twice is emptying it once: an emptied list is never `[""]`. -/
theorem emptied_idem (items : List String) :
    (if (if items = [""] then [] else items) = [""] then [] else
      if items = [""] then [] else items) = if items = [""] then [] else items := by
  split_ifs <;> simp_all

theorem emptiedLists_emptiedLists (device : FwupdDevicePrivate) :
    emptiedLists (emptiedLists device) = emptiedLists device := by
  simp only [emptiedLists, emptied_idem]

/-- Emptying a `[""]` list keeps the shape. -/
theorem transferred_emptied {device : FwupdDevicePrivate} (h : Transferred device) :
    Transferred (emptiedLists device) where
  id_eq := h.id_eq
  summary_eq := h.summary_eq
  guids_nodup := nodup_emptied h.guids_nodup
  checksums_nodup := nodup_emptied h.checksums_nodup
  guids_comma := comma_not_mem_emptied h.guids_comma
  checksums_comma := comma_not_mem_emptied h.checksums_comma

end Transfer

/-- Sending a device over the bus and reading it back stops the process exactly when the device
has no field the encoder packs.  Otherwise repeated transfers are fixed after two: the second
returns the first one's device with a list that is exactly `[""]` emptied, and the third returns
that device unchanged, unless the sent device has nothing left to pack and the transfer stops. -/
theorem fwupdDeviceTransfer_stable (K : ResultKeys) (device : FwupdDevicePrivate) :
    ∃ once : FwupdDevicePrivate, TransfersTo K device once ∧
      TransfersTo K once (emptiedLists once) ∧
      TransfersTo K (emptiedLists once) (emptiedLists once) := by
  have honce := transferred_decodedDevice K (fwupdDeviceToVariantBuilder K device)
  refine ⟨_, transfersTo_decodedDevice K device, transfersTo_of_transferred K honce, ?_⟩
  have htwice := transfersTo_of_transferred K (transferred_emptied honce)
  rwa [emptiedLists_emptiedLists] at htwice

/-! ## What a client prints -/

/-- Without an id or a summary, the report loses exactly the id line: the summary is never
shown, and key names are distinct, so no other line is under the id's key. -/
theorem reportLines_without_id (K : ResultKeys) (name : UInt64 → String)
    (checksumFormatForDisplay : String → String) (device : FwupdDevicePrivate) :
    reportLines K name checksumFormatForDisplay { device with id := none, summary := none } =
      (reportLines K name checksumFormatForDisplay device).filter
        fun line ↦ line.1 ≠ K.name .deviceId := by
  -- the filter keeps every piece but the id line, whose key is the only one equal to the id's
  simp only [reportLines, List.filter_append, List.filter_map, optionalLine, Function.comp_def,
    apply_ite (List.filter _), List.filter_cons, List.filter_nil, ne_eq, ResultKeys.name_inj,
    reduceCtorEq, not_false_eq_true, not_true_eq_false, decide_True, decide_False, List.filter_true,
    List.filter_false, Option.toList_none, List.map_nil, List.append_nil, if_true]

/-- The report a client prints for a device it received is the sender's report without the id
line, for a device whose lists hold no repeats, no comma in an item, and are not `[""]`. -/
theorem fwupdDeviceToString_fwupdDeviceTransfer (K : ResultKeys) (name : UInt64 → String)
    (checksumFormatForDisplay : String → String) {device : FwupdDevicePrivate}
    (hsent : PacksField device) (hguids : device.guids.Nodup) (hchecksums : device.checksums.Nodup)
    (hguidComma : ∀ guid ∈ device.guids, ',' ∉ guid.data)
    (hchecksumComma : ∀ checksum ∈ device.checksums, ',' ∉ checksum.data)
    (hguid : device.guids ≠ [""]) (hchecksum : device.checksums ≠ [""]) :
    ∃ received, fwupdDeviceTransfer K device = .ok (some received) ∧
      fwupdDeviceToString K (fun flag ↦ some (name flag)) checksumFormatForDisplay received =
        paddedText ((reportLines K name checksumFormatForDisplay device).filter
          fun line ↦ line.1 ≠ K.name .deviceId) := by
  refine ⟨{ device with id := none, summary := none }, ?_, ?_⟩
  · rw [fwupdDeviceTransfer_of_packsField K hsent, decodedDevice_fwupdDeviceToVariantBuilder K device
      hguids hchecksums hguidComma hchecksumComma, if_neg hguid, if_neg hchecksum]
  · rw [← paddedText_reportLines, reportLines_without_id]

theorem fwupdDeviceToString_fwupdDeviceTransfer_colorHug :
    ∃ received, fwupdDeviceTransfer sampleKeys
        (fwupdDeviceSetId (fwupdDeviceAddGuid fwupdDeviceNew "guid-a") (some "usb:00:01")) =
          .ok (some received) ∧
      fwupdDeviceToString sampleKeys (fun _ ↦ some "none") id received =
        paddedText ((reportLines sampleKeys (fun _ ↦ "none") id
          (fwupdDeviceSetId (fwupdDeviceAddGuid fwupdDeviceNew "guid-a") (some "usb:00:01"))).filter
            fun line ↦ line.1 ≠ sampleKeys.name .deviceId) :=
  fwupdDeviceToString_fwupdDeviceTransfer sampleKeys (fun _ ↦ "none") id (by decide) (by decide)
    (by decide) (by decide) (by decide) (by decide) (by decide)

/-- The GUID `","` comes back from a first transfer as `""`, which a second one drops, and a
third transfer of the device left with nothing to pack stops. -/
example : fwupdDeviceTransfer sampleKeys (fwupdDeviceAddGuid fwupdDeviceNew ",") =
      .ok (some (fwupdDeviceAddGuid fwupdDeviceNew "")) ∧
    fwupdDeviceTransfer sampleKeys (fwupdDeviceAddGuid fwupdDeviceNew "") = .ok (some fwupdDeviceNew) ∧
    fwupdDeviceTransfer sampleKeys fwupdDeviceNew =
      .error "g_variant_new: expected array GVariantBuilder but the built value has type '(null)'" :=
  ⟨rfl, rfl, rfl⟩

end FwupdDevice
