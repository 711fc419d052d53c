namespace Tokenry.Text.Intervals

def contains : List Nat → Nat → Bool
  | low :: high :: rest, code =>
    if code < low then false else if code < high then true else contains rest code
  | _, _ => false

end Tokenry.Text.Intervals
