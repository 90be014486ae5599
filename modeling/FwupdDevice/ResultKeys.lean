import FwupdDevice.GLib.Variant

/-!
# The result keys

Every entry the codec writes or reads is keyed by one of the `FWUPD_RESULT_KEY_*` macros.
Their strings are defined in a header outside `fwupd-device.c`, so the model takes them as a
parameter: any assignment of distinct strings.  Which keys the decoder dispatches on, and the
type it reads each of them as, come from `fwupd_device_from_key_value` itself.
-/

namespace FwupdDevice

open GLib

/-- The `FWUPD_RESULT_KEY_*` constants `fwupd-device.c` uses. -/
inductive ResultKey
  | guid
  | deviceId
  | deviceName
  | deviceVendor
  | deviceFlags
  | deviceCreated
  | deviceModified
  | deviceDescription
  | deviceChecksum
  | devicePlugin
  | deviceVersion
  | deviceVersionLowest
  | deviceVersionBootloader
  | deviceFlashesLeft
  deriving DecidableEq, Repr

/-- The strings the key macros expand to: distinct, as the header's constants are. -/
structure ResultKeys where
  name : ResultKey → String
  name_injective : Function.Injective name

@[simp]
theorem ResultKeys.name_inj (K : ResultKeys) {a b : ResultKey} : K.name a = K.name b ↔ a = b :=
  K.name_injective.eq_iff

namespace ResultKey

/-- The keys `fwupd_device_from_key_value` tests, in its order.  `deviceId` is not one of them:
the decoder takes the id only from a `{sa{sv}}` envelope. -/
def dispatched : List ResultKey :=
  [deviceFlags, deviceCreated, deviceModified, guid, deviceName, deviceVendor, deviceDescription,
    deviceChecksum, devicePlugin, deviceVersion, deviceVersionLowest, deviceVersionBootloader,
    deviceFlashesLeft]

/-- The type string the decoder reads a key's value as: `g_variant_get_uint64` for the three
64-bit fields, `g_variant_get_uint32` for the flash count, `g_variant_get_string` for the rest. -/
def valueType : ResultKey → String
  | deviceFlags | deviceCreated | deviceModified => "t"
  | deviceFlashesLeft => "u"
  | _ => "s"

end ResultKey

/-- An entry carries the type its key expects, when its key is one the decoder reads. -/
def ResultKeys.WellTyped (K : ResultKeys) (entry : String × Variant) : Prop :=
  ∀ k ∈ ResultKey.dispatched, entry.1 = K.name k → entry.2.typeString = k.valueType

instance (K : ResultKeys) (entry : String × Variant) : Decidable (K.WellTyped entry) :=
  inferInstanceAs (Decidable (∀ k ∈ ResultKey.dispatched, _ → _))

/-- A concrete assignment of the key strings, `Name` as in the spec's id-carrying example and
the others spelled after their fields, used to evaluate the codec on concrete data. -/
def sampleKeys : ResultKeys where
  name
    | .guid => "Guid"
    | .deviceId => "DeviceId"
    | .deviceName => "Name"
    | .deviceVendor => "Vendor"
    | .deviceFlags => "Flags"
    | .deviceCreated => "Created"
    | .deviceModified => "Modified"
    | .deviceDescription => "Description"
    | .deviceChecksum => "Checksum"
    | .devicePlugin => "Plugin"
    | .deviceVersion => "Version"
    | .deviceVersionLowest => "VersionLowest"
    | .deviceVersionBootloader => "VersionBootloader"
    | .deviceFlashesLeft => "FlashesLeft"
  name_injective a b h := by
    cases a <;> cases b <;> first | rfl | exact absurd h (by decide)

end FwupdDevice
