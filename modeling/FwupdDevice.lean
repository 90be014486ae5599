import FwupdDevice.GLib.Variant
import FwupdDevice.Record
import FwupdDevice.ResultKeys
import FwupdDevice.Codec.Serialize
import FwupdDevice.Codec.Deserialize
import FwupdDevice.Codec.Decode
import FwupdDevice.Runs
import FwupdDevice.Codec.RoundTrip
import FwupdDevice.Codec.Canonical
import FwupdDevice.Calendar
import FwupdDevice.GLib.DateTime
import FwupdDevice.Text.Format
import FwupdDevice.Text.Dates
import FwupdDevice.Codec.Transfer
