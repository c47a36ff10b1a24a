import JazzOnTheMove.IOS.SwiftRuntime
import Mathlib.Data.Int.Notation

/-!
# JSON values as Foundation objects

`responseJSON` decodes a body into Foundation objects. The app casts the top-level
object to `NSArray` and looks its elements up by key-value coding, which only
dictionaries, and arrays of objects that answer, support for arbitrary keys.
-/

namespace JazzOnTheMove.IOS

/-- A decoded JSON value. -/
inductive Json where
  | null
  | bool (value : Bool)
  | number (mantissa exponent : ℤ)
  | string (value : String)
  | array (elements : List Json)
  | object (members : List (String × Json))

namespace Json

/-- The cast `as? String`. -/
def asString : Json → Option String
  | .string value => some value
  | _ => none

/-- The cast `as! NSArray`. -/
def asNSArray : Json → Except Trap (List Json)
  | .array elements => .ok elements
  | _ => .error .failedCast

mutual

/-- `value(forKey:)`: a dictionary looks the key up, an array asks each of its elements
and puts `NSNull` where there is no value, and other objects do not have the key. -/
def valueForKey (key : String) : Json → Except Trap (Option Json)
  | .object members => .ok (members.lookup key)
  | .array elements => do return some (.array (← valuesForKey key elements))
  | .null => .error (.undefinedKey key)
  | .bool _ => .error (.undefinedKey key)
  | .number _ _ => .error (.undefinedKey key)
  | .string _ => .error (.undefinedKey key)

/-- `value(forKey:)` of each element of an array. -/
def valuesForKey (key : String) : List Json → Except Trap (List Json)
  | [] => .ok []
  | element :: elements => do
      let value ← valueForKey key element
      let values ← valuesForKey key elements
      return value.getD .null :: values

end

/-- The cast of a looked-up value, `value(forKey: key) as? String`. -/
def stringForKey (key : String) (element : Json) : Except Trap (Option String) := do
  let value ← valueForKey key element
  return value.bind asString

/-- A dictionary answers every key. -/
theorem stringForKey_object (key : String) (members : List (String × Json)) :
    stringForKey key (.object members) = .ok ((members.lookup key).bind asString) := by
  simp [stringForKey, valueForKey]

end Json

end JazzOnTheMove.IOS
