namespace Tokenry

/-- A failure of something that is given from outside. -/
structure Breakdown where
  sort : String
  message : String
  mendable : Bool := false
  deriving DecidableEq, Repr

end Tokenry
