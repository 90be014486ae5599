import FwupdDevice.Codec.Deserialize

/-!
# Runs of calls on one device

A run starts at `fwupd_device_new` and applies any sequence of the file's mutators: the scalar
setters, the flag calls, the two adders and the decoder's `fwupd_device_from_key_value`.  Each
call supplies some GUIDs and checksums (an adder's argument, a list entry's comma-split
tokens) and folds them into its list with `appendNew`, so along every run each list is the
first-occurrence deduplication of everything supplied so far, and a later state's list extends
an earlier state's.  Lists without repeats are the only constraint on where a run can end: every
device whose lists hold none is reached (`fwupdDeviceRun_reachable`).  Each flag bit is the last
value a call wrote to it (`fwupdDeviceRun_hasFlag`).
-/

namespace FwupdDevice

open GLib

/-- The calls of `fwupd-device.c` that change a device. -/
inductive Call
  | setId (id : Option String)
  | setSummary (summary : Option String)
  | setName (name : Option String)
  | setVendor (vendor : Option String)
  | setDescription (description : Option String)
  | setVersion (version : Option String)
  | setVersionLowest (versionLowest : Option String)
  | setVersionBootloader (versionBootloader : Option String)
  | setProvider (provider : Option String)
  | setFlashesLeft (flashesLeft : UInt32)
  | setCreated (created : UInt64)
  | setModified (modified : UInt64)
  | setFlags (flags : UInt64)
  | addFlag (flag : UInt64)
  | removeFlag (flag : UInt64)
  | addGuid (guid : String)
  | addChecksum (checksum : String)
  | fromKeyValue (key : String) (value : Variant)
  deriving DecidableEq, Repr

section Runs

variable (K : ResultKeys)

namespace Call

/-- One call on a device; only the decoder can fail. -/
def apply (device : FwupdDevicePrivate) : Call → Except String FwupdDevicePrivate
  | setId id => .ok (fwupdDeviceSetId device id)
  | setSummary summary => .ok (fwupdDeviceSetSummary device summary)
  | setName name => .ok (fwupdDeviceSetName device name)
  | setVendor vendor => .ok (fwupdDeviceSetVendor device vendor)
  | setDescription description => .ok (fwupdDeviceSetDescription device description)
  | setVersion version => .ok (fwupdDeviceSetVersion device version)
  | setVersionLowest versionLowest => .ok (fwupdDeviceSetVersionLowest device versionLowest)
  | setVersionBootloader versionBootloader =>
    .ok (fwupdDeviceSetVersionBootloader device versionBootloader)
  | setProvider provider => .ok (fwupdDeviceSetProvider device provider)
  | setFlashesLeft flashesLeft => .ok (fwupdDeviceSetFlashesLeft device flashesLeft)
  | setCreated created => .ok (fwupdDeviceSetCreated device created)
  | setModified modified => .ok (fwupdDeviceSetModified device modified)
  | setFlags flags => .ok (fwupdDeviceSetFlags device flags)
  | addFlag flag => .ok (fwupdDeviceAddFlag device flag)
  | removeFlag flag => .ok (fwupdDeviceRemoveFlag device flag)
  | addGuid guid => .ok (fwupdDeviceAddGuid device guid)
  | addChecksum checksum => .ok (fwupdDeviceAddChecksum device checksum)
  | fromKeyValue key value => fwupdDeviceFromKeyValue K device key value

/-- A call whose decoded entry, if any, carries the type its key expects. -/
def WellTyped : Call → Prop
  | fromKeyValue key value => K.WellTyped (key, value)
  | _ => True

instance (call : Call) : Decidable (call.WellTyped K) :=
  match call with
  | fromKeyValue key value => inferInstanceAs (Decidable (K.WellTyped (key, value)))
  | setId _ | setSummary _ | setName _ | setVendor _ | setDescription _ | setVersion _
  | setVersionLowest _ | setVersionBootloader _ | setProvider _ | setFlashesLeft _
  | setCreated _ | setModified _ | setFlags _ | addFlag _ | removeFlag _ | addGuid _
  | addChecksum _ => isTrue trivial

/-- The GUIDs a call supplies. -/
def suppliedGuids : Call → List String
  | addGuid guid => [guid]
  | fromKeyValue key value =>
    if key = K.name .guid then (strsplit value.getString).getD [] else []
  | _ => []

/-- The checksums a call supplies. -/
def suppliedChecksums : Call → List String
  | addChecksum checksum => [checksum]
  | fromKeyValue key value =>
    if key = K.name .deviceChecksum then (strsplit value.getString).getD [] else []
  | _ => []

/-- One call folds what it supplies into each list. -/
theorem apply_lists {call : Call} (htyped : call.WellTyped K) (device : FwupdDevicePrivate) :
    ∃ next, call.apply K device = .ok next ∧
      next.guids = (call.suppliedGuids K).foldl appendNew device.guids ∧
      next.checksums = (call.suppliedChecksums K).foldl appendNew device.checksums := by
  cases call with
  | addGuid guid =>
    exact ⟨_, rfl, by simp [suppliedGuids, suppliedChecksums, fwupdDeviceAddGuid_eq]⟩
  | addChecksum checksum =>
    exact ⟨_, rfl, by simp [suppliedGuids, suppliedChecksums, fwupdDeviceAddChecksum_eq]⟩
  | fromKeyValue key value =>
    refine ⟨_, fwupdDeviceFromKeyValue_eq_dispatchEntry K device value htyped, ?_, ?_⟩
    · by_cases hkey : key = K.name .guid <;> simp [dispatchEntry, suppliedGuids, hkey]
    · by_cases hsum : key = K.name .deviceChecksum <;> simp [dispatchEntry, suppliedChecksums, hsum]
  | _ => exact ⟨_, rfl, rfl, rfl⟩

end Call

/-- A run of calls from `fwupd_device_new`. -/
def fwupdDeviceRun (calls : List Call) : Except String FwupdDevicePrivate :=
  calls.foldlM (fun device call ↦ call.apply K device) fwupdDeviceNew

/-- Everything a run supplies to the GUID list, in order. -/
def suppliedGuids (calls : List Call) : List String :=
  calls.flatMap (Call.suppliedGuids K)

/-- Everything a run supplies to the checksum list, in order. -/
def suppliedChecksums (calls : List Call) : List String :=
  calls.flatMap (Call.suppliedChecksums K)

/-- Calls from a device whose lists deduplicate what was seen so far keep deduplicating. -/
theorem foldlM_apply_lists (calls : List Call) (htyped : ∀ call ∈ calls, call.WellTyped K)
    (device : FwupdDevicePrivate) (seenGuids seenChecksums : List String)
    (hguids : device.guids = seenGuids.eraseDups)
    (hchecksums : device.checksums = seenChecksums.eraseDups) :
    ∃ next, calls.foldlM (fun device call ↦ call.apply K device) device = .ok next ∧
      next.guids = (seenGuids ++ suppliedGuids K calls).eraseDups ∧
      next.checksums = (seenChecksums ++ suppliedChecksums K calls).eraseDups := by
  induction calls generalizing device seenGuids seenChecksums with
  | nil => exact ⟨device, rfl, by simpa [suppliedGuids], by simpa [suppliedChecksums]⟩
  | cons call rest ih =>
    obtain ⟨next, hnext, hg, hc⟩ :=
      Call.apply_lists K (htyped call (List.mem_cons_self call rest)) device
    rw [hguids, foldl_appendNew_eraseDups] at hg
    rw [hchecksums, foldl_appendNew_eraseDups] at hc
    obtain ⟨final, hfinal, hg', hc'⟩ :=
      ih (fun c hc ↦ htyped c (List.mem_cons_of_mem call hc)) next _ _ hg hc
    refine ⟨final, ?_, ?_, ?_⟩
    · rw [List.foldlM_cons, hnext]
      exact hfinal
    · simpa [suppliedGuids] using hg'
    · simpa [suppliedChecksums] using hc'

/-- What holds of the lists in the state a run of `calls` reaches. -/
structure ListsInvariant (calls : List Call) (device : FwupdDevicePrivate) : Prop where
  guids_eq : device.guids = (suppliedGuids K calls).eraseDups
  checksums_eq : device.checksums = (suppliedChecksums K calls).eraseDups
  guids_nodup : device.guids.Nodup
  checksums_nodup : device.checksums.Nodup
  hasGuid_iff : ∀ guid, fwupdDeviceHasGuid device guid = true ↔ guid ∈ device.guids

theorem ListsInvariant.of_eq {calls : List Call} {device : FwupdDevicePrivate}
    (hguids : device.guids = (suppliedGuids K calls).eraseDups)
    (hchecksums : device.checksums = (suppliedChecksums K calls).eraseDups) :
    ListsInvariant K calls device where
  guids_eq := hguids
  checksums_eq := hchecksums
  guids_nodup := hguids ▸ nodup_eraseDups _
  checksums_nodup := hchecksums ▸ nodup_eraseDups _
  hasGuid_iff := fwupdDeviceHasGuid_iff device

/-- Along every run of well-typed calls from `fwupd_device_new`, each list is the
first-occurrence deduplication of everything supplied so far; a later state's lists extend
the earlier ones, so the default GUID, once there, never changes. -/
theorem fwupdDeviceRun_lists (calls : List Call) (htyped : ∀ call ∈ calls, call.WellTyped K) :
    ∃ device, fwupdDeviceRun K calls = .ok device ∧ ListsInvariant K calls device ∧
      ∀ later : List Call, (∀ call ∈ later, call.WellTyped K) →
        ∃ device', fwupdDeviceRun K (calls ++ later) = .ok device' ∧
          device.guids <+: device'.guids ∧ device.checksums <+: device'.checksums ∧
          ∀ guid, fwupdDeviceGetGuidDefault device = some guid →
            fwupdDeviceGetGuidDefault device' = some guid := by
  obtain ⟨device, hrun, hguids, hchecksums⟩ :=
    foldlM_apply_lists K calls htyped fwupdDeviceNew [] [] rfl rfl
  refine ⟨device, hrun, ListsInvariant.of_eq K hguids hchecksums, fun later hlater ↦ ?_⟩
  obtain ⟨device', hrun', hguids', hchecksums'⟩ :=
    foldlM_apply_lists K later hlater device _ _ hguids hchecksums
  have hprefix : device.guids <+: device'.guids := by
    rw [hguids, hguids']
    exact eraseDups_prefix_append _ _
  refine ⟨device', ?_, hprefix, ?_, fun guid (hdefault : device.guids.head? = some guid) ↦ ?_⟩
  · rw [fwupdDeviceRun, List.foldlM_append, hrun]
    exact hrun'
  · rw [hchecksums, hchecksums']
    exact eraseDups_prefix_append _ _
  · obtain ⟨rest, hrest⟩ := hprefix
    rw [fwupdDeviceGetGuidDefault, ← hrest, List.head?_append, hdefault]
    rfl

end Runs

theorem fwupdDeviceRun_lists_guidEntry :
    ∃ device, fwupdDeviceRun sampleKeys
        [.addGuid "guid-a", .fromKeyValue "Guid" (.string "guid-b,guid-a")] = .ok device ∧
      ListsInvariant sampleKeys
        [.addGuid "guid-a", .fromKeyValue "Guid" (.string "guid-b,guid-a")] device ∧
      ∀ later : List Call, (∀ call ∈ later, call.WellTyped sampleKeys) →
        ∃ device', fwupdDeviceRun sampleKeys
            ([.addGuid "guid-a", .fromKeyValue "Guid" (.string "guid-b,guid-a")] ++ later) =
              .ok device' ∧
          device.guids <+: device'.guids ∧ device.checksums <+: device'.checksums ∧
          ∀ guid, fwupdDeviceGetGuidDefault device = some guid →
            fwupdDeviceGetGuidDefault device' = some guid :=
  fwupdDeviceRun_lists sampleKeys _ (by decide)

/-! ## Which states runs reach

Every call that does not stop keeps both lists free of repeats, typed or not, so every run that
ends in a device ends in one whose lists hold no repeats.  Conversely that is the only
constraint on a reachable state: the scalar setters give any value to every other field, and
the adders rebuild any list without repeats item by item. -/

section Reachable

variable (K : ResultKeys)

/-- A run that does not stop takes its first call without stopping. -/
theorem foldlM_apply_cons_eq_ok {call : Call} {rest : List Call} {device final : FwupdDevicePrivate}
    (h : (call :: rest).foldlM (fun device call ↦ call.apply K device) device = .ok final) :
    ∃ next, call.apply K device = .ok next ∧
      rest.foldlM (fun device call ↦ call.apply K device) next = .ok final := by
  rw [List.foldlM_cons] at h
  cases hcall : call.apply K device with
  | error e => rw [hcall] at h; cases h
  | ok next => exact ⟨next, rfl, by rwa [hcall] at h⟩

/-- A property every call keeps holds along every run that does not stop. -/
theorem foldlM_apply_invariant (P : FwupdDevicePrivate → Prop)
    (hstep : ∀ (call : Call) device next, call.apply K device = .ok next → P device → P next)
    (calls : List Call) {device final : FwupdDevicePrivate}
    (h : calls.foldlM (fun device call ↦ call.apply K device) device = .ok final)
    (hdevice : P device) : P final := by
  induction calls generalizing device with
  | nil => cases h; exact hdevice
  | cons call rest ih =>
    obtain ⟨next, hcall, hrest⟩ := foldlM_apply_cons_eq_ok K h
    exact ih hrest (hstep call device next hcall hdevice)

/-- A call that does not stop keeps both lists free of repeats, whatever the type of a decoded
entry. -/
theorem Call.nodup_of_apply {call : Call} {device next : FwupdDevicePrivate}
    (h : call.apply K device = .ok next) (hlists : device.guids.Nodup ∧ device.checksums.Nodup) :
    next.guids.Nodup ∧ next.checksums.Nodup := by
  obtain ⟨hguids, hchecksums⟩ := hlists
  cases call with
  | addGuid guid =>
    cases h
    rw [fwupdDeviceAddGuid_eq]
    exact ⟨nodup_appendNew hguids guid, hchecksums⟩
  | addChecksum checksum =>
    cases h
    rw [fwupdDeviceAddChecksum_eq]
    exact ⟨hguids, nodup_appendNew hchecksums checksum⟩
  | fromKeyValue key value =>
    replace h : fwupdDeviceFromKeyValue K device key value = .ok next := h
    rw [fwupdDeviceFromKeyValue_eq_dispatch] at h
    split_ifs at h
    cases h
    refine ⟨?_, ?_⟩ <;> simp only [dispatchEntry] <;> split_ifs
    exacts [nodup_foldl_appendNew hguids _, hguids, nodup_foldl_appendNew hchecksums _, hchecksums]
  | _ => cases h; exact ⟨hguids, hchecksums⟩

@[simp]
theorem except_ok_bind {ε α β : Type} (a : α) (f : α → Except ε β) :
    (Except.ok a >>= f : Except ε β) = f a :=
  rfl

/-- The setter calls that give a device's scalar fields their values. -/
def scalarCalls (device : FwupdDevicePrivate) : List Call :=
  [.setId device.id, .setSummary device.summary, .setName device.name,
    .setVendor device.vendor, .setDescription device.description, .setVersion device.version,
    .setVersionLowest device.versionLowest, .setVersionBootloader device.versionBootloader,
    .setProvider device.provider, .setFlashesLeft device.flashesLeft, .setCreated device.created,
    .setModified device.modified, .setFlags device.flags]

/-- Folding `appendNew` over a list without repeats from the empty list rebuilds it. -/
theorem foldl_appendNew_nil {items : List String} (h : items.Nodup) :
    items.foldl appendNew [] = items := by
  simpa [eraseDups_of_nodup h] using foldl_appendNew_eraseDups [] items

/-- Calls that cannot fail fold like their pure counterpart. -/
theorem foldlM_apply_map {α : Type} (mk : α → Call) (g : FwupdDevicePrivate → α → FwupdDevicePrivate)
    (hg : ∀ device item, (mk item).apply K device = .ok (g device item)) (items : List α)
    (device : FwupdDevicePrivate) :
    (items.map mk).foldlM (fun device call ↦ call.apply K device) device =
      .ok (items.foldl g device) := by
  induction items generalizing device with
  | nil => rfl
  | cons item rest ih =>
    rw [List.map_cons, List.foldlM_cons, hg]
    exact ih _

/-- Every device whose lists hold no repeats is reached by setting its scalar fields and then
adding its GUIDs and checksums in order. -/
theorem fwupdDeviceRun_scalarCalls {device : FwupdDevicePrivate} (hguids : device.guids.Nodup)
    (hchecksums : device.checksums.Nodup) :
    fwupdDeviceRun K (scalarCalls device ++ device.guids.map .addGuid ++
      device.checksums.map .addChecksum) = .ok device := by
  have hscalars : fwupdDeviceRun K (scalarCalls device) =
      .ok { device with guids := [], checksums := [] } := by
    cases device
    rfl
  rw [fwupdDeviceRun, List.foldlM_append, List.foldlM_append, ← fwupdDeviceRun, hscalars,
    except_ok_bind, foldlM_apply_map K .addGuid fwupdDeviceAddGuid (fun _ _ ↦ rfl), except_ok_bind,
    foldlM_apply_map K .addChecksum fwupdDeviceAddChecksum (fun _ _ ↦ rfl),
    foldl_fwupdDeviceAddGuid, foldl_fwupdDeviceAddChecksum]
  cases device
  simp_all only [foldl_appendNew_nil]

end Reachable

/-- The states that runs from `fwupd_device_new` reach without stopping, whatever the types of
the decoded entries, are exactly the devices whose GUID and checksum lists hold no repeats. -/
theorem fwupdDeviceRun_reachable (K : ResultKeys) (device : FwupdDevicePrivate) :
    (∃ calls : List Call, fwupdDeviceRun K calls = .ok device) ↔
      device.guids.Nodup ∧ device.checksums.Nodup := by
  constructor
  · rintro ⟨calls, hrun⟩
    exact foldlM_apply_invariant K _ (fun _ _ _ ↦ Call.nodup_of_apply K) calls hrun
      ⟨List.nodup_nil, List.nodup_nil⟩
  · rintro ⟨hguids, hchecksums⟩
    exact ⟨_, fwupdDeviceRun_scalarCalls K hguids hchecksums⟩

/-! ## The flags along a run

`fwupd_device_set_flags` and a decoded `Flags` entry write every bit of the flags,
`fwupd_device_add_flag` sets the bits of its mask and `fwupd_device_remove_flag` clears them;
no other call touches the flags.  So each bit of a run's flags is the value the last call that
wrote it left there, and 0 if none did. -/

section Flags

variable (K : ResultKeys)

/-- What a call writes to bit `i` of the flags, if it writes that bit. -/
def Call.flagBit (i : Nat) : Call → Option Bool
  | .setFlags flags => some (flags.toBitVec.getLsbD i)
  | .addFlag flag => if flag.toBitVec.getLsbD i then some true else none
  | .removeFlag flag => if flag.toBitVec.getLsbD i then some false else none
  | .fromKeyValue key value =>
    if key = K.name .deviceFlags then some (value.getUint64.toBitVec.getLsbD i) else none
  | _ => none

@[simp]
theorem Call.flagBit_addFlag (i : Nat) (flag : UInt64) :
    (Call.addFlag flag).flagBit K i = if flag.toBitVec.getLsbD i then some true else none :=
  rfl

@[simp]
theorem Call.flagBit_removeFlag (i : Nat) (flag : UInt64) :
    (Call.removeFlag flag).flagBit K i = if flag.toBitVec.getLsbD i then some false else none :=
  rfl

@[simp]
theorem Call.flagBit_fromKeyValue (i : Nat) (key : String) (value : Variant) :
    (Call.fromKeyValue key value).flagBit K i =
      if key = K.name .deviceFlags then some (value.getUint64.toBitVec.getLsbD i) else none :=
  rfl

/-- One call leaves bit `i` as it writes it, or as it was. -/
theorem Call.flagBit_apply {call : Call} {device next : FwupdDevicePrivate}
    (h : call.apply K device = .ok next) (i : Nat) :
    next.flags.toBitVec.getLsbD i = (call.flagBit K i).getD (device.flags.toBitVec.getLsbD i) := by
  cases call with
  | addFlag flag =>
    cases h
    by_cases hbit : flag.toBitVec.getLsbD i <;> simp [fwupdDeviceAddFlag, hbit]
  | removeFlag flag =>
    cases h
    by_cases hi : i < 64
    · by_cases hbit : flag.toBitVec.getLsbD i <;> simp [fwupdDeviceRemoveFlag, hbit, hi]
    · simp [fwupdDeviceRemoveFlag, BitVec.getLsbD_ge _ i (Nat.le_of_not_lt hi)]
  | fromKeyValue key value =>
    replace h : fwupdDeviceFromKeyValue K device key value = .ok next := h
    rw [fwupdDeviceFromKeyValue_eq_dispatch] at h
    split_ifs at h
    cases h
    by_cases hkey : key = K.name .deviceFlags <;> simp [dispatchEntry, hkey]
  | addGuid guid => cases h; rw [fwupdDeviceAddGuid_eq]; rfl
  | addChecksum checksum => cases h; rw [fwupdDeviceAddChecksum_eq]; rfl
  | _ => cases h; rfl

/-- Calls from any device leave each bit as the last call that wrote it did. -/
theorem foldlM_apply_flagBit (calls : List Call) {device final : FwupdDevicePrivate}
    (h : calls.foldlM (fun device call ↦ call.apply K device) device = .ok final) (i : Nat) :
    final.flags.toBitVec.getLsbD i =
      ((calls.filterMap (Call.flagBit K i)).getLast?).getD (device.flags.toBitVec.getLsbD i) := by
  induction calls generalizing device with
  | nil => cases h; rfl
  | cons call rest ih =>
    obtain ⟨next, hcall, hrest⟩ := foldlM_apply_cons_eq_ok K h
    rw [ih hrest, Call.flagBit_apply K hcall, List.filterMap_cons]
    cases call.flagBit K i <;> simp [List.getLast?_cons]

/-- After a run from `fwupd_device_new`, bit `i` of the flags is what the last call writing it
wrote, and unset if no call did. -/
theorem fwupdDeviceRun_flagBit (calls : List Call) {device : FwupdDevicePrivate}
    (hrun : fwupdDeviceRun K calls = .ok device) (i : Nat) :
    device.flags.toBitVec.getLsbD i = ((calls.filterMap (Call.flagBit K i)).getLast?).getD false := by
  simpa [fwupdDeviceNew] using foldlM_apply_flagBit K calls hrun i

/-- After any run from `fwupd_device_new`, `fwupd_device_has_flag` holds of a mask exactly when
one of its bits was last written set: later writes win, a bit no call wrote stays unset, and the
order of calls writing other bits does not matter. -/
theorem fwupdDeviceRun_hasFlag (calls : List Call) {device : FwupdDevicePrivate}
    (hrun : fwupdDeviceRun K calls = .ok device) (flag : UInt64) :
    fwupdDeviceHasFlag device flag = true ↔ ∃ i < 64, flag.toBitVec.getLsbD i = true ∧
      ((calls.filterMap (Call.flagBit K i)).getLast?).getD false = true := by
  simp only [fwupdDeviceHasFlag_iff_getLsbD, fwupdDeviceRun_flagBit K calls hrun, and_comm]

end Flags

/-- Bit 2, set by the first call, is cleared by the decoded `Flags` entry 1, and bit 1 is set
by the last call. -/
theorem fwupdDeviceRun_hasFlag_decodedFlags :
    fwupdDeviceRun sampleKeys [.addFlag 4, .fromKeyValue "Flags" (.uint64 1), .addFlag 2] =
        .ok (fwupdDeviceAddFlag (fwupdDeviceSetFlags (fwupdDeviceAddFlag fwupdDeviceNew 4) 1) 2) ∧
      (fwupdDeviceHasFlag
          (fwupdDeviceAddFlag (fwupdDeviceSetFlags (fwupdDeviceAddFlag fwupdDeviceNew 4) 1) 2) 6 =
          true ↔ ∃ i < 64, (6 : UInt64).toBitVec.getLsbD i = true ∧
        (([.addFlag 4, .fromKeyValue "Flags" (.uint64 1), .addFlag 2].filterMap
          (Call.flagBit sampleKeys i)).getLast?).getD false = true) :=
  ⟨rfl, fwupdDeviceRun_hasFlag sampleKeys
    [.addFlag 4, .fromKeyValue "Flags" (.uint64 1), .addFlag 2] rfl 6⟩

end FwupdDevice
