import FwupdDevice.Text.Format

/-!
# The Created and Modified lines

`fwupd_pad_kv_unx` casts the 64-bit timestamp to `gint64`, builds a UTC date from it and
prints the date's `%F`.  For the timestamps up to the end of year 9999 the line is the
calendar date of the instant (`fwupdPadKvUnx_civilDate`).  Past GLib's last day the
constructor returns NULL, which reaches `g_date_time_format` and leaves no line; a timestamp
of 2⁶³ or more is read as negative and shows a date before 1970.

The timestamps are taken up to 9 × 10¹² seconds either side of the epoch, where the
constructor's microsecond product fits a `gint64`.
-/

namespace FwupdDevice

open GLib Calendar

/-- The `(gint64)` cast: a value of 2⁶³ or more is read as `value - 2⁶⁴`. -/
theorem toInt_toBitVec (value : UInt64) :
    value.toBitVec.toInt =
      if 2 * value.toNat < 2 ^ 64 then (value.toNat : Int)
      else (value.toNat : Int) - ((2 ^ 64 : Nat) : Int) :=
  BitVec.toInt_eq_toNat_cond _

theorem ne_zero_of_toNat_pos {value : UInt64} (h : 0 < value.toNat) : value ≠ 0 := by
  rintro rfl
  exact absurd h (by decide)

/-- Past GLib's last day, and below 2⁶⁴ - 62135596800 among the values read as negative, the
constructor returns NULL, which is passed to `g_date_time_format`, and no line is printed. -/
theorem fwupdPadKvUnx_eq_empty (key : String) {value : UInt64}
    (h : 253402300800 ≤ value.toNat ∧ value.toNat ≤ 9000000000000 ∨
      2 ^ 64 - 9000000000000 ≤ value.toNat ∧ value.toNat < 2 ^ 64 - 62135596800) :
    gDateTimeNewFromUnixUtc value.toBitVec.toInt = none ∧ fwupdPadKvUnx key value = "" := by
  have hsize := value.toNat_lt_size
  simp only [UInt64.size] at hsize
  have hnone : gDateTimeNewFromUnixUtc value.toBitVec.toInt = none := by
    apply gDateTimeNewFromUnixUtc_eq_none
    rw [toInt_toBitVec]
    split_ifs <;> omega
  refine ⟨hnone, ?_⟩
  rw [fwupdPadKvUnx, if_neg (ne_zero_of_toNat_pos (by omega)), hnone]
  rfl

theorem fwupdPadKvUnx_eq_empty_year11476 :
    (253402300800 ≤ (300000000000 : UInt64).toNat ∧ (300000000000 : UInt64).toNat ≤ 9000000000000 ∨
      2 ^ 64 - 9000000000000 ≤ (300000000000 : UInt64).toNat ∧
        (300000000000 : UInt64).toNat < 2 ^ 64 - 62135596800) ∧
      gDateTimeNewFromUnixUtc (300000000000 : UInt64).toBitVec.toInt = none ∧
      fwupdPadKvUnx "Created" 300000000000 = "" :=
  ⟨Or.inl ⟨by decide, by decide⟩, fwupdPadKvUnx_eq_empty "Created" (Or.inl ⟨by decide, by decide⟩)⟩

theorem fwupdDeviceToString_timestamp_out_of_range :
    gDateTimeNewFromUnixUtc (300000000000 : UInt64).toBitVec.toInt = none ∧
      fwupdDeviceToString sampleKeys (fun _ ↦ some "unknown") id
          (fwupdDeviceSetCreated fwupdDeviceNew 300000000000) =
        "  Flags:                unknown\n" ∧
      fwupdDeviceToString sampleKeys (fun _ ↦ some "unknown") id
          (fwupdDeviceSetCreated fwupdDeviceNew 18446744073709551615) =
        "  Flags:                unknown\n  Created:              1969-12-31\n" :=
  ⟨by decide, by decide, by decide⟩

end FwupdDevice
