import MqttProfile.Json.Display

/-!
# Units of time and size

Values that carry a unit, and the largest value that the protocol allows for a field in each unit.
-/

namespace MqttProfile

/-- A unit of time. -/
inductive TimeUnit where
  | milliseconds
  | seconds
  | minutes
  | hours
deriving DecidableEq, Repr

/-- A unit of size. -/
inductive SizeUnit where
  | byte
  | kilobyte
  | megabyte
deriving DecidableEq, Repr

namespace TimeUnit

def all : List TimeUnit := [.milliseconds, .seconds, .minutes, .hours]

def name : TimeUnit → String
  | .milliseconds => "MILLISECONDS"
  | .seconds => "SECONDS"
  | .minutes => "MINUTES"
  | .hours => "HOURS"

def ofName? (s : String) : Option TimeUnit := all.find? (·.name == s)

def factor : TimeUnit → Nat
  | .milliseconds => 1
  | .seconds => 1000
  | .minutes => 60000
  | .hours => 3600000

end TimeUnit

namespace SizeUnit

def all : List SizeUnit := [.byte, .kilobyte, .megabyte]

def name : SizeUnit → String
  | .byte => "BYTE"
  | .kilobyte => "KILOBYTE"
  | .megabyte => "MEGABYTE"

def ofName? (s : String) : Option SizeUnit := all.find? (·.name == s)

def factor : SizeUnit → Nat
  | .byte => 1
  | .kilobyte => 1024
  | .megabyte => 1048576

end SizeUnit

/-- A unit of either kind. -/
inductive Measure where
  | time (u : TimeUnit)
  | size (u : SizeUnit)
deriving DecidableEq, Repr

/-- The fields with a largest value. -/
inductive Bounded where
  | keepAlive
  | sessionExpiryInterval
  | maxPacketSize
deriving DecidableEq, Repr

/-- Why a value cannot be expressed in a unit. -/
inductive MeasureError where
  /-- The unit is not one of the field's units. -/
  | foreignUnit (unit : Measure) (field : Bounded)
  /-- The value, shown as it was given, falls between two values of the unit. -/
  | inexact (value : Json) (unit : Measure)
  /-- One unit is of time and the other of size. -/
  | mixedKinds (source target : Measure)
deriving DecidableEq

namespace Measure

def all : List Measure := TimeUnit.all.map .time ++ SizeUnit.all.map .size

def name : Measure → String
  | .time u => u.name
  | .size u => u.name

def ofName? (s : String) : Option Measure := all.find? (·.name == s)

def factor : Measure → Nat
  | .time u => u.factor
  | .size u => u.factor

/-- Whether two units are of one kind. -/
def sameKind : Measure → Measure → Bool
  | .time _, .time _ => true
  | .size _, .size _ => true
  | _, _ => false

/-- A value in the finest unit of its kind. -/
def toFinest (value : Int) (unit : Measure) : Int :=
  value * unit.factor

end Measure

namespace Bounded

def all : List Bounded := [.keepAlive, .sessionExpiryInterval, .maxPacketSize]

def name : Bounded → String
  | .keepAlive => "keep_alive"
  | .sessionExpiryInterval => "session_expiry_interval"
  | .maxPacketSize => "max_packet_size"

def ofName? (s : String) : Option Bounded := all.find? (·.name == s)

/-- The largest keep-alive interval. -/
def maxKeepAlive : TimeUnit → Nat
  | .milliseconds => 65535000
  | .seconds => 65535
  | .minutes => 1092
  | .hours => 18

/-- The largest session expiry interval. -/
def maxSessionExpiry : TimeUnit → Nat
  | .milliseconds => 4294967295000
  | .seconds => 4294967295
  | .minutes => 71582788
  | .hours => 1193046

/-- The largest packet size. -/
def maxPacket : SizeUnit → Nat
  | .byte => 268435456
  | .kilobyte => 262144
  | .megabyte => 256

/-- The largest value of a field in a unit. -/
def largest (field : Bounded) (unit : Measure) : Except MeasureError Int :=
  match field, unit with
  | .keepAlive, .time u => .ok (maxKeepAlive u)
  | .sessionExpiryInterval, .time u => .ok (maxSessionExpiry u)
  | .maxPacketSize, .size u => .ok (maxPacket u)
  | field, unit => .error (.foreignUnit unit field)

/-- Whether a value is neither negative nor above the largest one; a negative value needs no unit of
the field. -/
def admits (field : Bounded) (value : Int) (unit : Measure) : Except MeasureError Bool :=
  if value < 0 then .ok false else (field.largest unit).map fun bound => decide (value ≤ bound)

end Bounded

/-- What is wrong, in words. -/
def MeasureError.message : MeasureError → String
  | .foreignUnit unit field => s!"Unit {unit.name} is not valid for {field.name}"
  | .inexact value unit => s!"{value.display} is not a whole number of {unit.name}"
  | .mixedKinds source target => s!"Cannot convert {source.name} to {target.name}"

end MqttProfile
