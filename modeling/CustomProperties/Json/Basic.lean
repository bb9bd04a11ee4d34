import CustomProperties.Decimal.Shortest
import CustomProperties.Text.OrderedMap

/-!
# JSON values

An object keeps its members in the order they were written, repeated names included; `Json.merged`
keeps of each name the first place and the last value.
-/

namespace CustomProperties

/-- A JSON value. Numbers written without a point and an exponent are integers as long as they fit
in 64 bits; all others are doubles. -/
inductive Json where
  | null
  | bool (value : Bool)
  | integer (value : Int)
  | double (value : Double)
  | string (value : String)
  | array (items : List Json)
  | object (members : List (String × Json))
deriving Inhabited

namespace Json

/-- The members of an object. -/
def members? : Json → Option (List (String × Json))
  | object members => some members
  | _ => none

/-- The value of a member of an object. -/
def get? (name : String) (value : Json) : Option Json :=
  value.members?.bind (OrderedMap.get? name)

mutual

/-- The value with every object's repeated names merged. -/
def merged : Json → Json
  | array items => array (mergedAll items)
  | object members => object (OrderedMap.insertAll [] (mergedMembers members))
  | null => null
  | bool value => bool value
  | integer value => integer value
  | double value => double value
  | string value => string value

/-- The values of an array, merged. -/
def mergedAll : List Json → List Json
  | [] => []
  | item :: items => item.merged :: mergedAll items

/-- The members of an object, with merged values. -/
def mergedMembers : List (String × Json) → List (String × Json)
  | [] => []
  | (name, value) :: members => (name, value.merged) :: mergedMembers members

end

end Json

end CustomProperties
