import PageRouter.Toml.Moment

namespace PageRouter

/-- A value of a document. Keys of a table are different from each other. -/
inductive TomlValue where
  | text (value : String)
  | integer (value : Int)
  /-- A float by its bits. -/
  | float (bits : Nat)
  | truth (value : Bool)
  | moment (value : Toml.Moment)
  | array (items : List TomlValue)
  | table (fields : List (String × TomlValue))
  deriving Inhabited

namespace TomlValue

/-- The natural number below `2 ^ 64` that a value is. -/
def size? : TomlValue → Option Nat
  | integer (.ofNat value) => if value < Nat.pow 2 64 then some value else none
  | _ => none

def truth? : TomlValue → Option Bool
  | truth value => some value
  | _ => none

end TomlValue

end PageRouter
