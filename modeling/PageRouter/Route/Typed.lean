import PageRouter.Route.Error
import PageRouter.Route.Params
import PageRouter.Text.Binary64

namespace PageRouter

/-- The types that a parameter can be read as. -/
inductive ParamType where
  /-- Integers from `-2 ^ (bits - 1)` to `2 ^ (bits - 1) - 1`. -/
  | signed (bits : Nat)
  /-- Integers from 0 to `2 ^ bits - 1`. -/
  | unsigned (bits : Nat)
  | truth
  | character
  | text
  | float
  deriving DecidableEq, Repr

def ParamType.name : ParamType → String
  | signed bits => s!"i{bits}"
  | unsigned bits => s!"u{bits}"
  | truth => "bool"
  | character => "char"
  | text => "alloc::string::String"
  | float => "f64"

/-- The value of a parameter. -/
inductive ParamValue where
  | integer (value : Int)
  | truth (value : Bool)
  | character (value : Char)
  | text (value : String)
  /-- A floating point number of 64 bits, by its bits. -/
  | float (bits : Nat)
  deriving DecidableEq, Repr

/-- Reads a text as a value of a type; an error is a reason in words. -/
def ParamType.read (type : ParamType) (value : String) : Except String ParamValue :=
  match type with
  | signed bits =>
    ((Text.readInteger (Nat.pow 2 (bits - 1)) (Nat.pow 2 (bits - 1) - 1) value.toList).map .integer).mapError
      (·.message)
  | unsigned bits =>
    ((Text.readInteger 0 (Nat.pow 2 bits - 1) value.toList).map .integer).mapError (·.message)
  | truth =>
    if value = "true" then .ok (.truth true)
    else if value = "false" then .ok (.truth false)
    else .error "provided string was not `true` or `false`"
  | character =>
    match value.toList with
    | [] => .error "cannot parse char from empty string"
    | [c] => .ok (.character c)
    | _ => .error "too many characters in string"
  | text => .ok (.text value)
  | float => ((Text.Binary64.read value.toList).map .float).mapError (·.message)

def Params.read (params : Params) (name : String) (type : ParamType) : Except RouteError ParamValue :=
  match params.get? name with
  | none => .error (.missingParams "" [name])
  | some value => (type.read value).mapError (.unreadableParam name value type.name ·)

end PageRouter
