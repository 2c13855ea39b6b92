import PageRouter.Json.Read

namespace PageRouter.JsonValue

/-- The value of a key that stands in an object at most once; the outer `none` is for a key that stands there twice.
-/
def single? (key : String) (fields : List (Option String × JsonValue)) : Option (Option JsonValue) :=
  match fields.filter (·.1 == some key) with
  | [] => some none
  | [(_, value)] => some (some value)
  | _ => none

/-- The values of known keys, in order, as far as they are there. A record is an object with known keys, of which none
stands there twice and beside which other keys are skipped, or an array with the values in the order of the keys. -/
def record? (keys : List String) : JsonValue → Option (List (Option JsonValue))
  | object fields => if fields.any (·.1.isNone) then none else keys.mapM (single? · fields)
  | array items =>
    if items.length ≤ keys.length then
      some (items.map some ++ List.replicate (keys.length - items.length) none)
    else none
  | _ => none

/-- An object with the given values under their keys. -/
def ofRecord (fields : List (String × JsonValue)) : JsonValue :=
  object (fields.map fun (key, value) => (some key, value))

def text? : JsonValue → Option String
  | text value => value
  | _ => none

/-- The natural number below `2 ^ 64` that a value is. -/
def size? : JsonValue → Option Nat
  | integer (.ofNat value) => if value < Nat.pow 2 64 then some value else none
  | _ => none

def truth? : JsonValue → Option Bool
  | truth value => some value
  | _ => none

def pair? : JsonValue → Option (String × String)
  | array [first, second] => do return (← first.text?, ← second.text?)
  | _ => none

def list? {α : Type} (read : JsonValue → Option α) : JsonValue → Option (List α)
  | array items => items.mapM read
  | _ => none

def ofPair (pair : String × String) : JsonValue :=
  array [text (some pair.1), text (some pair.2)]

end PageRouter.JsonValue
