namespace PageRouter

/-- The limits under which templates are compiled and route trees defined, and how literal segments compare. -/
structure Settings where
  /-- The deepest group allowed; the outermost group is at depth 1. -/
  maxNestingDepth : Nat := 10
  /-- The longest template allowed, in bytes. -/
  maxTemplateLength : Nat := 1024
  /-- The most segments that a template may have. -/
  maxTemplateSegments : Nat := 32
  /-- Whether literal segments match without regard to case. -/
  ignoreCase : Bool := false
  deriving DecidableEq, Repr

end PageRouter
