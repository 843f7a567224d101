import Colonnade.Decimal.Shortest
/-!
# Writing floats

A float is written from its shortest decimal. A notation decides the rest: which decimal
exponents are written positionally, whether an integral value keeps a point and a zero, how an
exponent is marked, signed and padded, and the words for the infinities and for a value that is
not a number.
-/

namespace Colonnade.Decimal

/-- How floats are written: d.ddd · 10^e positionally when `positionalFrom ≤ e < positionalBelow`,
otherwise with an exponent mark, sign and least width. -/
structure Notation where
  positionalFrom : Int
  positionalBelow : Int
  pointZero : Bool
  exponentMark : String
  exponentPlus : Bool
  exponentWidth : Nat
  infinity : String
  notANumber : String

def digitText (ds : List Nat) : String := String.ofList (ds.map fun d => Char.ofNat (48 + d))

def padZeros (width : Nat) (s : String) : String :=
  String.ofList (List.replicate (width - s.length) '0') ++ s

namespace Notation

/-- Writes the digits d₁ … dₚ of a decimal d₁.d₂…dₚ · 10^e. -/
def layout (n : Notation) (ds : List Nat) (e : Int) : String :=
  if n.positionalFrom ≤ e ∧ e < n.positionalBelow then
    if e < 0 then
      "0." ++ String.ofList (List.replicate ((-e).toNat - 1) '0') ++ digitText ds
    else
      let k := e.toNat + 1
      let whole := digitText (ds.take k) ++ String.ofList (List.replicate (k - ds.length) '0')
      let frac := ds.drop k
      if frac.isEmpty then (if n.pointZero then whole ++ ".0" else whole)
      else whole ++ "." ++ digitText frac
  else
    let mant := match ds with
      | [] => "0"
      | [d] => digitText [d]
      | d :: rest => digitText [d] ++ "." ++ digitText rest
    let sign := if e < 0 then "-" else if n.exponentPlus then "+" else ""
    mant ++ n.exponentMark ++ sign ++ padZeros n.exponentWidth (toString e.natAbs)

def render (n : Notation) (x : Float) : String :=
  let bits := x.toBits
  let negative := bits >>> 63 == 1
  let sign := if negative then "-" else ""
  if x.isNaN then n.notANumber
  else if x.isInf then sign ++ n.infinity
  else
    let d := (Binary.ofBits bits).shortest
    let ds := digitsOf d.digits
    if d.digits = 0 then sign ++ n.layout [0] 0
    else sign ++ n.layout ds (d.exp + ds.length - 1)

/-- The plain notation of floats in messages and displayed values: positional from 10^-4 up to
below 10^16, integral values with a point and a zero, exponents as `e+16` and `e-05`. -/
def plain : Notation :=
  { positionalFrom := -4, positionalBelow := 16, pointZero := true, exponentMark := "e",
    exponentPlus := true, exponentWidth := 2, infinity := "inf", notANumber := "nan" }

end Notation

end Colonnade.Decimal
