import PageRouter.Toml.Value

namespace PageRouter.Toml

/-- How a table came about. -/
inductive TableOrigin where
  /-- By a header of its own. -/
  | header
  /-- On the way to the table of another header. -/
  | passage
  /-- On the way of a dotted key. -/
  | dots
  deriving DecidableEq, Repr

/-- What a key stands for while a document is read. A table can be written in several places, and how it came about
decides what may still be added to it: a header opens a table once, a dotted key adds only to tables that dotted keys
made, and nothing is added to a value. -/
inductive Draft where
  /-- A complete value. -/
  | value (value : TomlValue)
  | table (origin : TableOrigin) (fields : List (String × Draft))
  /-- Tables under headers in double brackets, by their fields, the last one first. -/
  | tables (last : List (String × Draft)) (earlier : List (List (String × Draft)))

abbrev Fields := List (String × Draft)

namespace Draft

/-- The value that a draft comes to. -/
def close : Draft → TomlValue
  | value result => result
  | table _ fields => .table (closeFields fields)
  | tables last earlier => .array ((closeFields last :: closeTables earlier).reverse.map .table)
where
  /-- The values that fields come to. -/
  closeFields : List (String × Draft) → List (String × TomlValue)
    | [] => []
    | (key, draft) :: more => (key, draft.close) :: closeFields more
  /-- The values that the fields of several tables come to. -/
  closeTables : List (List (String × Draft)) → List (List (String × TomlValue))
    | [] => []
    | fields :: more => closeFields fields :: closeTables more

end Draft

namespace Fields

/-- Changes what a key stands for, where `f` is given what it stands for so far. -/
def alter (key : String) (f : Option Draft → Option Draft) : Fields → Option Fields
  | [] => (f none).map fun draft => [(key, draft)]
  | (name, old) :: more =>
    if name = key then (f (some old)).map fun draft => (key, draft) :: more
    else (alter key f more).map ((name, old) :: ·)

/-- Changes the fields of a draft that a path may lead through: of a table, or of the last one of several.
By a dotted key a table can be entered only if no header opened it. -/
def enter (dotted : Bool) (f : Fields → Option Fields) : Option Draft → Option Draft
  | none => (f []).map (.table (if dotted then .dots else .passage))
  | some (.value _) => none
  | some (.table origin fields) =>
    if dotted && origin = .header then none else (f fields).map (.table origin)
  | some (.tables last earlier) => (f last).map (.tables · earlier)

/-- Changes the fields at the end of the path of a header. -/
def alterAt (path : List String) (f : Fields → Option Fields) (fields : Fields) : Option Fields :=
  match path with
  | [] => f fields
  | key :: more => alter key (enter false (alterAt more f)) fields

/-- Gives a value to a key that has none. -/
def put (key : String) (value : TomlValue) (fields : Fields) : Option Fields :=
  alter key (fun old => if old.isSome then none else some (.value value)) fields

/-- Enters a table on the last step of a dotted key, which dotted keys alone may have made. -/
def enterLast (f : Fields → Option Fields) : Option Draft → Option Draft
  | none => (f []).map (.table .dots)
  | some (.table .dots fields) => (f fields).map (.table .dots)
  | some _ => none

/-- Gives a value to a dotted key: `path` is the way to the table of its last part. -/
def putDotted (path : List String) (key : String) (value : TomlValue) (fields : Fields) : Option Fields :=
  match path with
  | [] => put key value fields
  | [first] => alter first (enterLast (put key value)) fields
  | first :: more => alter first (enter true (putDotted more key value)) fields

/-- Opens the table of a header. It can be opened once, and not if dotted keys made it. -/
def openTable : Option Draft → Option Draft
  | none => some (.table .header [])
  | some (.table .passage fields) => some (.table .header fields)
  | some _ => none

/-- Opens a further table of a header in double brackets. -/
def openNext : Option Draft → Option Draft
  | none => some (.tables [] [])
  | some (.tables last earlier) => some (.tables [] (last :: earlier))
  | some _ => none

end Fields

end PageRouter.Toml
