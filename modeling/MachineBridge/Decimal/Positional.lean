import MachineBridge.Decimal.Shortest

/-!
# MachineBridge.Decimal.Positional

Positional text of floating point numbers: the shortest digits that read back,
written out without an exponent however large or small the number is, and with
no point behind a whole number.
-/

namespace MachineBridge.Decimal

/-- A numeral written out: zeros are filled in up to the point, and behind the
point stand only the digits that are needed. -/
def Numeral.positional (d : Numeral) : List Char :=
  let digits := natChars d.digits
  let places := (-d.exponent).toNat
  if places = 0 then digits ++ List.replicate d.exponent.toNat '0'
  else
    let padded := List.replicate (places + 1 - digits.length) '0' ++ digits
    padded.take (padded.length - places) ++ '.' :: padded.drop (padded.length - places)

def signChars (negative : Bool) : List Char := if negative then ['-'] else []

/-- The text of a double. Zero keeps its sign; a value that is not a number has none. -/
def Double.positional : Double → List Char
  | .notANumber => ['N', 'a', 'N']
  | .infinite negative => signChars negative ++ ['i', 'n', 'f']
  | .zero negative => signChars negative ++ ['0']
  | .finite negative magnitude => signChars negative ++ magnitude.shortest.positional

/-- The text of a floating point number. -/
def floatText (x : Float) : String := String.ofList (Double.ofBits x.toBits).positional

end MachineBridge.Decimal
