namespace PageRouter.Text

/-- Whether a character is in one of some ranges, both ends of each included. -/
def isIn (ranges : List (Nat × Nat)) (c : Char) : Bool :=
  ranges.any fun range => range.1 ≤ c.toNat && c.toNat ≤ range.2

end PageRouter.Text
