import Mathlib.Data.String.Basic
import FwupdDevice.Record
import FwupdDevice.ResultKeys
import FwupdDevice.GLib.DateTime

/-!
# The text dump

`fwupd_device_to_string` appends one padded `key: value` line per set field: one line per
GUID, the id, the description, the plugin, the flags, one line per checksum (through the
display formatter), the vendor and versions, the flash count when it is 1, and the two dates.
The flag-name lookup `fwupd_device_flag_to_string` and the checksum display formatter are
defined outside this file and are parameters; the lookup may return NULL, which glibc prints
as `(null)`.

`fwupdDeviceToString_flagsLine` says what the dump's one Flags line carries for every 64-bit
mask: the names of the set bits, low to high, joined by `|`, or the name of 0 for the empty
mask.
-/

namespace FwupdDevice

open GLib

/-- `%s` of glibc's `printf`, which prints NULL as `(null)`. -/
def printfString : Option String → String
  | some value => value
  | none => "(null)"

/-- `g_string_append`: a NULL string is refused and nothing appended. -/
def gStringAppend (str : String) : Option String → String
  | some value => str ++ value
  | none => str

/-- `fwupd_pad_kv_str`: nothing for a NULL value; otherwise `"  key: "`, spaces until 20 bytes
past the key, the value and a newline. -/
def fwupdPadKvStr (key : String) : Option String → String
  | none => ""
  | some value =>
    "  " ++ key ++ ": " ++ ⟨List.replicate (20 - key.utf8ByteSize) ' '⟩ ++ value ++ "\n"

/-- `fwupd_pad_kv_unx`: nothing for 0; otherwise the `%F` date of the timestamp read as a
`gint64`. -/
def fwupdPadKvUnx (key : String) (value : UInt64) : String :=
  if value = 0 then ""
  else
    let date := gDateTimeNewFromUnixUtc value.toBitVec.toInt
    fwupdPadKvStr key (gDateTimeFormatF date)

/-- The loop of `fwupd_pad_kv_dfl` over the 64 bit positions: each set bit's name followed
by `|`. -/
def flagNamesLoop (flagToString : UInt64 → Option String) (deviceFlags : UInt64) : String :=
  (List.range 64).foldl (fun tmp i ↦
    if deviceFlags &&& ((1 : UInt64) <<< i.toUInt64) = 0 then tmp
    else tmp ++ printfString (flagToString ((1 : UInt64) <<< i.toUInt64)) ++ "|") ""

/-- `fwupd_pad_kv_dfl`: the loop's text with its last `|` truncated, or the name of flag 0
when no bit is set. -/
def fwupdPadKvDfl (flagToString : UInt64 → Option String) (key : String)
    (deviceFlags : UInt64) : String :=
  let tmp := flagNamesLoop flagToString deviceFlags
  let tmp := if tmp.length = 0 then gStringAppend tmp (flagToString 0) else truncateLast tmp
  fwupdPadKvStr key (some tmp)

/-- `fwupd_pad_kv_int`: nothing for 0; otherwise the decimal value. -/
def fwupdPadKvInt (key : String) (value : UInt32) : String :=
  if value = 0 then "" else fwupdPadKvStr key (some (toString value.toNat))

/-- `fwupd_device_to_string`. -/
def fwupdDeviceToString (K : ResultKeys) (flagToString : UInt64 → Option String)
    (checksumFormatForDisplay : String → String) (device : FwupdDevicePrivate) : String :=
  String.join (device.guids.map fun guid ↦ fwupdPadKvStr (K.name .guid) (some guid)) ++
  fwupdPadKvStr (K.name .deviceId) device.id ++
  fwupdPadKvStr (K.name .deviceDescription) device.description ++
  fwupdPadKvStr (K.name .devicePlugin) device.provider ++
  fwupdPadKvDfl flagToString (K.name .deviceFlags) device.flags ++
  String.join (device.checksums.map fun checksum ↦
    fwupdPadKvStr (K.name .deviceChecksum) (some (checksumFormatForDisplay checksum))) ++
  fwupdPadKvStr (K.name .deviceVendor) device.vendor ++
  fwupdPadKvStr (K.name .deviceVersion) device.version ++
  fwupdPadKvStr (K.name .deviceVersionLowest) device.versionLowest ++
  fwupdPadKvStr (K.name .deviceVersionBootloader) device.versionBootloader ++
  (if device.flashesLeft < 2 then fwupdPadKvInt (K.name .deviceFlashesLeft) device.flashesLeft
    else "") ++
  fwupdPadKvUnx (K.name .deviceCreated) device.created ++
  fwupdPadKvUnx (K.name .deviceModified) device.modified

/-! ## Strings -/

theorem utf8ByteSize_append (str suffix : String) :
    (str ++ suffix).utf8ByteSize = str.utf8ByteSize + suffix.utf8ByteSize :=
  String.utf8Len_append str.data suffix.data

theorem utf8ByteSize_replicate_space (n : Nat) :
    (String.mk (List.replicate n ' ')).utf8ByteSize = n := by
  induction n with
  | zero => rfl
  | succ n ih =>
    rw [List.replicate_succ, String.utf8ByteSize_mk, String.utf8Len_cons,
      ← String.utf8ByteSize_mk, ih]
    rfl

/-- Every value `fwupd_pad_kv_str` prints starts at byte 24 of its line, or right after the
key's `": "` when the key is longer than 20 bytes. -/
theorem fwupdPadKvStr_column (key value : String) :
    ∃ pre : String, fwupdPadKvStr key (some value) = pre ++ value ++ "\n" ∧
      pre.utf8ByteSize = max 24 (key.utf8ByteSize + 4) := by
  refine ⟨_, rfl, ?_⟩
  have hindent : ("  " : String).utf8ByteSize = 2 := rfl
  have hcolon : (": " : String).utf8ByteSize = 2 := rfl
  simp only [utf8ByteSize_append, utf8ByteSize_replicate_space]
  omega

theorem join_cons (head : String) (tail : List String) :
    String.join (head :: tail) = head ++ String.join tail := by
  simp only [String.join_eq, List.map_cons, List.flatten_cons]
  rfl

theorem join_append (first second : List String) :
    String.join (first ++ second) = String.join first ++ String.join second := by
  simp only [String.join_eq, List.map_append, List.flatten_append]
  rfl

theorem intercalateGo_append (str acc sep : String) (items : List String) :
    String.intercalate.go (str ++ acc) sep items = str ++ String.intercalate.go acc sep items := by
  induction items generalizing acc <;> simp [String.intercalate.go, String.append_assoc, *]

theorem intercalate_cons_cons (sep first second : String) (items : List String) :
    sep.intercalate (first :: second :: items) = first ++ sep ++ sep.intercalate (second :: items) := by
  simp [String.intercalate, String.intercalate.go, ← intercalateGo_append]

/-- Each name followed by `|`, less the last `|`, is the names joined by `|`. -/
theorem truncateLast_join_bar {names : List String} (h : names ≠ []) :
    truncateLast (String.join (names.map (· ++ "|"))) = "|".intercalate names := by
  induction names with
  | nil => contradiction
  | cons name rest ih =>
    cases rest with
    | nil => exact truncateLast_append_singleton name '|'
    | cons next rest =>
      rw [List.map_cons, join_cons, truncateLast_append _ (by simp), ih (List.cons_ne_nil _ _),
        intercalate_cons_cons]

theorem length_join_bar_eq_zero {names : List String} :
    (String.join (names.map (· ++ "|"))).length = 0 ↔ names = [] := by
  cases names with
  | nil => simp [String.join]
  | cons name rest =>
    have hbar : ("|" : String).length = 1 := rfl
    simp [join_cons, String.length_append, hbar]

/-! ## The Flags line -/

/-- The loop's shift is a 64-bit one: `1 << i` is `2 ^ i` at each of its positions. -/
theorem one_shiftLeft_eq_two_pow : ∀ i < 64, (1 : UInt64) <<< i.toUInt64 = UInt64.ofNat (2 ^ i) := by
  decide

theorem toNat_two_pow {i : Nat} (hi : i < 64) : (UInt64.ofNat (2 ^ i)).toNat = 2 ^ i :=
  UInt64.toNat_ofNat_of_lt (Nat.pow_lt_pow_right (by decide) hi)

/-- The loop's test reads bit `i` of the mask. -/
theorem and_two_pow_eq_zero_iff {deviceFlags : UInt64} {i : Nat} (hi : i < 64) :
    deviceFlags &&& UInt64.ofNat (2 ^ i) = 0 ↔ deviceFlags.toNat.testBit i = false := by
  constructor
  · intro h
    simpa [UInt64.and_toNat, toNat_two_pow hi, Nat.testBit_two_pow] using
      congrArg (fun flags ↦ flags.toNat.testBit i) h
  · intro h
    apply UInt64.toNat.inj
    rw [UInt64.and_toNat, toNat_two_pow hi, UInt64.toNat_zero]
    apply Nat.eq_of_testBit_eq
    intro j
    by_cases hj : i = j
    · subst hj
      simp [h]
    · simp [Nat.testBit_two_pow, hj]

/-- A mask is 0 exactly when none of its 64 bits is set. -/
theorem eq_zero_iff_testBit {deviceFlags : UInt64} :
    deviceFlags = 0 ↔ ∀ i < 64, deviceFlags.toNat.testBit i = false := by
  constructor
  · rintro rfl i _
    simp
  · intro h
    apply UInt64.toNat.inj
    apply Nat.eq_of_testBit_eq
    intro i
    rw [UInt64.toNat_zero, Nat.zero_testBit]
    by_cases hi : i < 64
    · exact h i hi
    · have hsize : 2 ^ 64 ≤ 2 ^ i := Nat.pow_le_pow_right (by decide) (by omega)
      exact Nat.testBit_lt_two_pow (lt_of_lt_of_le deviceFlags.toNat_lt_size hsize)

theorem setPositions_eq_nil {deviceFlags : UInt64} :
    (List.range 64).filter (fun i ↦ deviceFlags.toNat.testBit i) = [] ↔ deviceFlags = 0 := by
  rw [eq_zero_iff_testBit, List.filter_eq_nil_iff]
  simp

/-- Over positions below 64, the loop appends the lookup of each set position's power of two,
followed by `|`. -/
theorem foldl_flagNames (flagToString : UInt64 → Option String) (deviceFlags : UInt64)
    (positions : List Nat) (hpositions : ∀ i ∈ positions, i < 64) (init : String) :
    positions.foldl (fun tmp i ↦
        if deviceFlags &&& ((1 : UInt64) <<< i.toUInt64) = 0 then tmp
        else tmp ++ printfString (flagToString ((1 : UInt64) <<< i.toUInt64)) ++ "|") init =
      init ++ String.join (((positions.filter fun i ↦ deviceFlags.toNat.testBit i).map fun i ↦
        printfString (flagToString (UInt64.ofNat (2 ^ i)))).map (· ++ "|")) := by
  induction positions generalizing init with
  | nil => simp [String.join]
  | cons i rest ih =>
    have hi := hpositions i (List.mem_cons_self i rest)
    rw [List.foldl_cons, one_shiftLeft_eq_two_pow i hi,
      ih (fun j hj ↦ hpositions j (List.mem_cons_of_mem i hj))]
    by_cases hbit : deviceFlags.toNat.testBit i = true
    · have hset : ¬ deviceFlags &&& UInt64.ofNat (2 ^ i) = 0 := by
        rw [and_two_pow_eq_zero_iff hi, hbit]
        decide
      simp [hset, hbit, List.filter_cons, join_cons, String.append_assoc]
    · have hclear : deviceFlags &&& UInt64.ofNat (2 ^ i) = 0 := by
        rw [and_two_pow_eq_zero_iff hi]
        simpa using hbit
      simp [hclear, hbit, List.filter_cons]

theorem flagNamesLoop_eq (flagToString : UInt64 → Option String) (deviceFlags : UInt64) :
    flagNamesLoop flagToString deviceFlags =
      String.join ((((List.range 64).filter fun i ↦ deviceFlags.toNat.testBit i).map fun i ↦
        printfString (flagToString (UInt64.ofNat (2 ^ i)))).map (· ++ "|")) := by
  rw [flagNamesLoop, foldl_flagNames _ _ _ (fun i ↦ List.mem_range.mp)]
  simp

/-- The Flags line for any lookup: the names of the set bits, low to high, joined by `|` (a
NULL name printed as `(null)`), or the name of 0 (nothing for a NULL one) for the empty mask. -/
theorem fwupdPadKvDfl_spec (flagToString : UInt64 → Option String) (key : String)
    (deviceFlags : UInt64) :
    fwupdPadKvDfl flagToString key deviceFlags =
      fwupdPadKvStr key (some (if deviceFlags = 0 then gStringAppend "" (flagToString 0) else
        "|".intercalate (((List.range 64).filter fun i ↦ deviceFlags.toNat.testBit i).map
          fun i ↦ printfString (flagToString (UInt64.ofNat (2 ^ i)))))) := by
  rw [fwupdPadKvDfl, flagNamesLoop_eq]
  by_cases hzero : deviceFlags = 0
  · have hnil := setPositions_eq_nil.mpr hzero
    simp [hzero, hnil, String.join]
  · have hne := mt setPositions_eq_nil.mp hzero
    simp only [length_join_bar_eq_zero, List.map_eq_nil_iff, hne, hzero, if_false,
      truncateLast_join_bar (mt List.map_eq_nil_iff.mp hne)]

theorem fwupdPadKvDfl_eq (name : UInt64 → String) (key : String) (deviceFlags : UInt64) :
    fwupdPadKvDfl (fun flag ↦ some (name flag)) key deviceFlags =
      fwupdPadKvStr key (some (if deviceFlags = 0 then name 0 else
        "|".intercalate (((List.range 64).filter fun i ↦ deviceFlags.toNat.testBit i).map
          fun i ↦ name (UInt64.ofNat (2 ^ i))))) := by
  simp [fwupdPadKvDfl_spec, printfString, gStringAppend]

/-! ## The report's lines

The interface describes the report as one padded `key: value` line per set field, in a fixed
order.  `reportLines` lists those lines in its words; `fwupdDeviceToString_eq_reportLines`
shows the dump is exactly their padded text, for any total flag-name lookup.  Two readings of
the interface are made precise there: the Flags line is always present, and the flash count
shows only when it is 1 (it must be below 2 and is omitted at 0). -/

/-- The line of an optional value: none for NULL. -/
def optionalLine (key : String) (value : Option String) : List (String × String) :=
  value.toList.map fun value ↦ (key, value)

/-- The Flags value in the interface's words: the names of the set bits, low to high, joined
by `|`, or the name of 0 when no bit is set. -/
def flagNames (name : UInt64 → String) (deviceFlags : UInt64) : String :=
  if deviceFlags = 0 then name 0 else
    "|".intercalate (((List.range 64).filter fun i ↦ deviceFlags.toNat.testBit i).map
      fun i ↦ name (UInt64.ofNat (2 ^ i)))

/-- The `%F` date the dump shows for a timestamp, if GLib gives one. -/
def timestampText (value : UInt64) : Option String :=
  gDateTimeFormatF (gDateTimeNewFromUnixUtc value.toBitVec.toInt)

/-- The report's lines: one per GUID; the id, description and plugin when set; the flags;
one per checksum, as displayed; the vendor and the three versions when set; the flash count
when it is 1; each date when its timestamp is set and has a date. -/
def reportLines (K : ResultKeys) (name : UInt64 → String)
    (checksumFormatForDisplay : String → String) (device : FwupdDevicePrivate) :
    List (String × String) :=
  device.guids.map (fun guid ↦ (K.name .guid, guid)) ++
  optionalLine (K.name .deviceId) device.id ++
  optionalLine (K.name .deviceDescription) device.description ++
  optionalLine (K.name .devicePlugin) device.provider ++
  [(K.name .deviceFlags, flagNames name device.flags)] ++
  device.checksums.map (fun checksum ↦
    (K.name .deviceChecksum, checksumFormatForDisplay checksum)) ++
  optionalLine (K.name .deviceVendor) device.vendor ++
  optionalLine (K.name .deviceVersion) device.version ++
  optionalLine (K.name .deviceVersionLowest) device.versionLowest ++
  optionalLine (K.name .deviceVersionBootloader) device.versionBootloader ++
  (if device.flashesLeft = 1 then [(K.name .deviceFlashesLeft, "1")] else []) ++
  (if device.created = 0 then [] else
    optionalLine (K.name .deviceCreated) (timestampText device.created)) ++
  (if device.modified = 0 then [] else
    optionalLine (K.name .deviceModified) (timestampText device.modified))

section ReportLines

/-- The padded text of some lines. -/
def paddedText (lines : List (String × String)) : String :=
  String.join (lines.map fun line ↦ fwupdPadKvStr line.1 (some line.2))

@[simp]
theorem paddedText_append (first second : List (String × String)) :
    paddedText (first ++ second) = paddedText first ++ paddedText second := by
  simp only [paddedText, List.map_append, join_append]

@[simp]
theorem paddedText_optionalLine (key : String) (value : Option String) :
    paddedText (optionalLine key value) = fwupdPadKvStr key value := by
  cases value <;> rfl

theorem paddedText_map (values : List String) (line : String → String × String) :
    paddedText (values.map line) =
      String.join (values.map fun value ↦ fwupdPadKvStr (line value).1 (some (line value).2)) := by
  simp only [paddedText, List.map_map, Function.comp_def]

/-- The dump prints the flash count only when it is 1. -/
theorem flashesLeft_text (key : String) (flashesLeft : UInt32) :
    (if flashesLeft < 2 then fwupdPadKvInt key flashesLeft else "") =
      paddedText (if flashesLeft = 1 then [(key, "1")] else []) := by
  by_cases hone : flashesLeft = 1
  · subst hone
    rfl
  · by_cases hzero : flashesLeft = 0
    · subst hzero
      rfl
    · have hlarge : ¬ flashesLeft < 2 := by
        have hne : flashesLeft.toNat ≠ 0 ∧ flashesLeft.toNat ≠ 1 :=
          ⟨fun h ↦ hzero (UInt32.toNat.inj h), fun h ↦ hone (UInt32.toNat.inj h)⟩
        rw [UInt32.lt_def, BitVec.lt_def]
        exact fun h ↦ by change flashesLeft.toNat < 2 at h; omega
      simp only [hlarge, hone, if_false]
      rfl

theorem fwupdPadKvUnx_text (key : String) (value : UInt64) :
    fwupdPadKvUnx key value =
      paddedText (if value = 0 then [] else optionalLine key (timestampText value)) := by
  unfold fwupdPadKvUnx
  split_ifs
  · rfl
  · rw [paddedText_optionalLine]
    rfl

end ReportLines

/-- The report's lines, padded, are the dump, for any total flag-name lookup. -/
theorem paddedText_reportLines (K : ResultKeys) (name : UInt64 → String)
    (checksumFormatForDisplay : String → String) (device : FwupdDevicePrivate) :
    paddedText (reportLines K name checksumFormatForDisplay device) =
      fwupdDeviceToString K (fun flag ↦ some (name flag)) checksumFormatForDisplay device := by
  have hflags : fwupdPadKvDfl (fun flag ↦ some (name flag)) (K.name .deviceFlags) device.flags =
      paddedText [(K.name .deviceFlags, flagNames name device.flags)] := by
    simp [fwupdPadKvDfl_eq, flagNames, paddedText, String.join]
  simp only [fwupdDeviceToString, reportLines, paddedText_append, paddedText_optionalLine,
    paddedText_map, hflags, flashesLeft_text, fwupdPadKvUnx_text]

example : reportLines sampleKeys (fun _ ↦ "unknown") id
    (fwupdDeviceSetFlashesLeft (fwupdDeviceSetName fwupdDeviceNew (some "ColorHug2")) 5) =
      [("Flags", "unknown")] := by
  decide

example : reportLines sampleKeys (fun _ ↦ "unknown") id
    (fwupdDeviceSetFlashesLeft fwupdDeviceNew 1) = [("Flags", "unknown"), ("FlashesLeft", "1")] := by
  decide

end FwupdDevice
