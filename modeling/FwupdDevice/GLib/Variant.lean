import Mathlib.Data.List.Basic

/-!
# The GLib calls of the device codec

`fwupd-device.c` packs a device into `{sv}` entries with `g_variant_new_*`, reads them back
with `g_variant_get_*`, and cuts a comma-joined list with `g_strsplit`.  This module models
those calls on the values the codec meets.  A getter handed a value of another type fails its
type check and returns its fallback (0 or NULL), as GLib's `g_return_val_if_fail` does; the
device code performs no type check of its own.
-/

namespace FwupdDevice.GLib

/-- The type string of a value the device code reads no payload of: any type but the five
its getters read. -/
def OtherTypeString := {typeString : String // typeString ∉ ["s", "o", "g", "u", "t"]}
  deriving DecidableEq, Repr

/-- A boxed `v` value of a vardict entry.  `other` is a value of any other type, such as `b`,
`i` or `as`, with its type string; no getter the device code calls reads its payload. -/
inductive Variant
  | string (value : String)
  | objectPath (value : String)
  | signature (value : String)
  | uint32 (value : UInt32)
  | uint64 (value : UInt64)
  | other (typeString : OtherTypeString)
  deriving DecidableEq, Repr

namespace Variant

/-- `g_variant_get_type_string` of a boxed value. -/
def typeString : Variant → String
  | string _ => "s"
  | objectPath _ => "o"
  | signature _ => "g"
  | uint32 _ => "u"
  | uint64 _ => "t"
  | other typeString => typeString.val

/-- `g_variant_get_string`: the text of a string, object path or signature; NULL otherwise. -/
def getString : Variant → Option String
  | string value | objectPath value | signature value => some value
  | _ => none

/-- `g_variant_get_uint64`: the payload of a `t` value; 0 otherwise. -/
def getUint64 : Variant → UInt64
  | uint64 value => value
  | _ => 0

/-- `g_variant_get_uint32`: the payload of a `u` value; 0 otherwise. -/
def getUint32 : Variant → UInt32
  | uint32 value => value
  | _ => 0

@[simp]
theorem getString_string (value : String) : (string value).getString = some value := rfl

@[simp]
theorem getUint64_uint64 (value : UInt64) : (uint64 value).getUint64 = value := rfl

@[simp]
theorem getUint32_uint32 (value : UInt32) : (uint32 value).getUint32 = value := rfl

/-- A value that is not a `t` reads as 0. -/
theorem getUint64_of_typeString_ne {value : Variant} (h : value.typeString ≠ "t") :
    value.getUint64 = 0 := by
  cases value <;> simp_all [typeString, getUint64]

/-- A value that is not a `u` reads as 0. -/
theorem getUint32_of_typeString_ne {value : Variant} (h : value.typeString ≠ "u") :
    value.getUint32 = 0 := by
  cases value <;> simp_all [typeString, getUint32]

/-- A value of type `t` is a 64-bit number. -/
theorem eq_uint64_of_typeString {value : Variant} (h : value.typeString = "t") :
    ∃ x, value = uint64 x := by
  cases value with
  | uint64 x => exact ⟨x, rfl⟩
  | other typeString => exact absurd typeString.property (by simp_all [Variant.typeString])
  | _ => simp [Variant.typeString] at h

/-- A value of type `u` is a 32-bit number. -/
theorem eq_uint32_of_typeString {value : Variant} (h : value.typeString = "u") :
    ∃ x, value = uint32 x := by
  cases value with
  | uint32 x => exact ⟨x, rfl⟩
  | other typeString => exact absurd typeString.property (by simp_all [Variant.typeString])
  | _ => simp [Variant.typeString] at h

/-- A value of type `s` is a string. -/
theorem eq_string_of_typeString {value : Variant} (h : value.typeString = "s") :
    ∃ text, value = string text := by
  cases value with
  | string text => exact ⟨text, rfl⟩
  | other typeString => exact absurd typeString.property (by simp_all [Variant.typeString])
  | _ => simp [Variant.typeString] at h

/-- A value that is neither a string, an object path nor a signature reads as NULL. -/
theorem getString_eq_none {value : Variant} (h : value.typeString ∉ ["s", "o", "g"]) :
    value.getString = none := by
  cases value <;> simp_all [typeString, getString]

end Variant

/-- The entries of an `a{sv}` dictionary, in iteration order.  Keys may repeat. -/
abbrev Vardict := List (String × Variant)

/-- The packed data of `fwupd_device_to_data` and `fwupd_device_new_from_data`: a vardict
alone (`a{sv}`), wrapped in a one-tuple (`(a{sv})`), keyed by an id (`{sa{sv}}`), or a value of
any other type. -/
inductive PackedData
  | vardict (entries : Vardict)
  | tuple (entries : Vardict)
  | dictEntry (id : String) (entries : Vardict)
  | other (value : Variant)
  deriving DecidableEq, Repr

/-- `g_variant_builder_end` of a builder started with the indefinite type `G_VARIANT_TYPE_ARRAY`,
as `g_variant_new ("a{sv}", &builder)` calls it: the entries added, in order.  An empty builder
has no element type to give its array, so `g_variant_builder_end` fails its check and returns
NULL, which is not an array, and `g_variant_new` stops in `g_error`. -/
def gVariantBuilderEnd (entries : Vardict) : Except String Vardict :=
  if entries = [] then
    .error "g_variant_new: expected array GVariantBuilder but the built value has type '(null)'"
  else .ok entries

/-- `g_variant_new` stops on a builder exactly when it is empty. -/
theorem gVariantBuilderEnd_map_error_iff {β : Type} (f : Vardict → β) (entries : Vardict) :
    (∃ message, (gVariantBuilderEnd entries).map f = .error message) ↔ entries = [] := by
  unfold gVariantBuilderEnd
  split_ifs with h <;> simp [h, Except.map]

/-- `g_strsplit (string, ",", -1)`: the pieces between the commas, in order.  As GLib
documents, the empty string splits into the empty vector; a NULL string is refused and
NULL returned. -/
def strsplit : Option String → Option (List String)
  | none => none
  | some string => some (if string = "" then [] else (string.data.splitOn ',').map String.mk)

/-- No piece of a split holds a separator. -/
theorem forall_not_of_mem_splitOnP {α : Type} (p : α → Bool) (xs : List α) :
    ∀ piece ∈ xs.splitOnP p, ∀ x ∈ piece, p x = false := by
  induction xs with
  | nil => simp
  | cons y ys ih =>
    obtain ⟨first, rest, hsplit⟩ := List.exists_cons_of_ne_nil (List.splitOnP_ne_nil p ys)
    rw [hsplit] at ih
    rw [List.splitOnP_cons, hsplit]
    split_ifs with hy
    · rintro piece (_ | ⟨_, hpiece⟩)
      · simp
      · exact ih piece hpiece
    · rintro piece (_ | ⟨_, hpiece⟩)
      · rintro x (_ | ⟨_, hx⟩)
        · simpa using hy
        · exact ih first (List.mem_cons_self first rest) x hx
      · exact ih piece (List.mem_cons_of_mem first hpiece)

/-- No piece `g_strsplit` returns holds a comma. -/
theorem comma_not_mem_of_mem_strsplit {text : Option String} {piece : String}
    (h : piece ∈ (strsplit text).getD []) : ',' ∉ piece.data := by
  cases text with
  | none => cases h
  | some text =>
    simp only [strsplit, Option.getD_some] at h
    split_ifs at h
    · cases h
    · obtain ⟨chars, hchars, rfl⟩ := List.mem_map.mp h
      intro hcomma
      simpa using forall_not_of_mem_splitOnP _ _ chars hchars ',' hcomma

/-- `g_string_truncate (str, str->len - 1)`.  The device code calls it only right after
appending an ASCII separator, so the last byte is the last character. -/
def truncateLast (str : String) : String :=
  ⟨str.data.dropLast⟩

@[simp]
theorem truncateLast_append_singleton (str : String) (c : Char) :
    truncateLast (str ++ ⟨[c]⟩) = str := by
  simp [truncateLast, String.ext_iff]

theorem truncateLast_append (str : String) {suffix : String} (h : suffix.data ≠ []) :
    truncateLast (str ++ suffix) = str ++ truncateLast suffix := by
  simp [truncateLast, String.ext_iff, List.dropLast_append_of_ne_nil _ h]

end FwupdDevice.GLib
