import GpuDiscovery.Outcome
import GpuDiscovery.Property.Key
import GpuDiscovery.SortedMap
import GpuDiscovery.Text.Blank
import GpuDiscovery.Text.Integer

/-!
# Device properties

A property of a plug-and-play device has a value of one of six types, and a device is a bag of
properties with names. Readers ask for a property in the type they need; a value of another type is
an error that names the property, the type found and the type expected. Adapter identifiers are the
exception: every numeric type, and text that holds a number, will do.
-/

namespace GpuDiscovery

open Text

/-- The value of a device property. -/
inductive PropertyValue where
  | boolean (value : Bool)
  | int64 (value : Int64)
  | uint32 (value : UInt32)
  | uint64 (value : UInt64)
  | string (value : String)
  | stringList (value : List String)
  deriving DecidableEq, Repr

/-- What reading a property by name comes to: it may be absent, and reading it may fail. -/
abbrev PropertyBag := String → Outcome (Option PropertyValue)

/-- The properties of a device that has all of them at hand. -/
abbrev PropertyMap := SortedMap String PropertyValue

/-- Reading a property that is at hand never fails. -/
def PropertyMap.bag (map : PropertyMap) : PropertyBag :=
  fun name => .value (map.get? name)

/-! ## Names of the properties that discovery reads -/

namespace PropertyName

/-- The identifier of the device instance. -/
def deviceId : String := "DeviceID"

/-- What the device calls itself. -/
def description : String := "Description"

/-- Who made the device. -/
def manufacturer : String := "Manufacturer"

/-- The registry key of the device's driver, below the key of all driver classes. -/
def driver : String := "DEVPKEY_Device_Driver"

/-- Where the device sits, in one or more ways of saying so. -/
def locationPaths : String := "DEVPKEY_Device_LocationPaths"

/-- The identifier of the device's adapter. -/
def adapterLuid : String := PropertyKey.adapterLuid.name

end PropertyName

namespace PropertyValue

/-- What the type of a value is called in error texts. -/
def typeName : PropertyValue → String
  | boolean _ => "boolean"
  | int64 _ => "int64"
  | uint32 _ => "uint32"
  | uint64 _ => "uint64"
  | string _ => "string"
  | stringList _ => "string list"

/-- The error for a value of the wrong type. -/
def typeMismatch (name expected : String) (found : PropertyValue) : DiscoveryError :=
  .message ("property " ++ name ++ " has type " ++ found.typeName ++ ", expected " ++ expected)

/-- The error for an unsigned value above the signed range. -/
def outOfRange (name : String) (found : UInt64) : DiscoveryError :=
  .message ("property " ++ name ++ " holds " ++ decimal found.toNat ++
    ", which does not fit a signed 64-bit integer")

/-- The error for text that holds no number. -/
def notInteger (name found : String) (fault : IntegerFault) : DiscoveryError :=
  .message ("property " ++ name ++ " holds \"" ++ found ++
    "\", which is not a 64-bit integer: " ++ fault.text)

/-- The value of a property that is to be text. -/
def asString (name : String) : PropertyValue → Except DiscoveryError String
  | string value => .ok value
  | other => .error (typeMismatch name "string" other)

/-- The value of a property that is to be a list of texts. -/
def asStringList (name : String) : PropertyValue → Except DiscoveryError (List String)
  | stringList value => .ok value
  | other => .error (typeMismatch name "string list" other)

/-- The value of a property that is to be a signed 64-bit number, however it is given. Text may
have white space around the number. -/
def asInt64 (name : String) : PropertyValue → Except DiscoveryError Int64
  | int64 value => .ok value
  | uint64 value =>
    -- A number above the signed range is refused rather than read as a negative one.
    if value.toNat ≤ greatestInt64 then .ok (Int64.ofNat value.toNat)
    else .error (outOfRange name value)
  | uint32 value => .ok (Int64.ofNat value.toNat)
  | string value =>
    match readInt64 (trim value.toList) with
    | .ok number => .ok number
    | .error fault => .error (notInteger name value fault)
  | other => .error (typeMismatch name "64-bit integer" other)

end PropertyValue

end GpuDiscovery
