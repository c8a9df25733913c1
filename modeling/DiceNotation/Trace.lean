import DiceNotation.Digits

/-!
# Traces

How draws and totals are written: the list in brackets, then the sum in bold.
-/

namespace DiceNotation

/-- A list with its sum, `[3, 6] = **9**`. -/
def bracketed (items : List String) (sum : String) : String :=
  "[" ++ ", ".intercalate items ++ "] = **" ++ sum ++ "**"

/-- The draws of a dice term with its total; the sign comes from the term alone. -/
def traceText (draws : List UInt64) (magnitude : UInt64) (negative : Bool) : String :=
  bracketed (draws.map fun v => decimal v.toNat)
    ((if negative then "-" else "") ++ decimal magnitude.toNat)

/-- The totals of a batch with its grand total. -/
def totalsText (totals : List Int64) (grandTotal : Int64) : String :=
  bracketed (totals.map fun t => decimalInt t.toInt) (decimalInt grandTotal.toInt)

end DiceNotation
