/-!
# Shortest decimals of binary floats

The decimal that stands for a finite double is the one with the fewest digits among the reals that
round to it, then the nearest, then the one ending in an even digit. On each grid the search tests
the double's two neighbours, which suffices; all arithmetic is on natural numbers.
-/

namespace Colonnade.Decimal

/-- A finite non-negative double, m · 2^q; `narrowBelow` when the gap to the double below is half
the gap above. -/
structure Binary where
  m : Nat
  q : Int
  narrowBelow : Bool
  deriving DecidableEq, Repr

/-- The magnitude of a finite double, from its bits; the sign bit is ignored. -/
def Binary.ofBits (b : UInt64) : Binary :=
  let e := ((b >>> 52) &&& 0x7FF).toNat
  let f := (b &&& 0xFFFFFFFFFFFFF).toNat
  if e == 0 then ⟨f, -1074, false⟩ else ⟨Nat.pow 2 52 + f, (e : Int) - 1075, f == 0 && e > 1⟩

/-- A decimal, digits · 10^exp. -/
structure Dec where
  digits : Nat
  exp : Int
  deriving DecidableEq, Repr

/-- Compares a · 10^i with n · 2^j exactly. -/
def cmpScaled (a : Nat) (i : Int) (n : Nat) (j : Int) : Ordering :=
  compare (a * Nat.pow 10 i.toNat * Nat.pow 2 (-j).toNat) (n * Nat.pow 2 j.toNat * Nat.pow 10 (-i).toNat)

/-- Whether a decimal lies among the reals that round to the double. -/
def Binary.readsBack (x : Binary) (d : Dec) : Bool :=
  let lo := if x.narrowBelow then 4 * x.m - 1 else 4 * x.m - 2
  let hi := 4 * x.m + 2
  let incl := x.m % 2 == 0
  let cl := cmpScaled d.digits d.exp lo (x.q - 2)
  let ch := cmpScaled d.digits d.exp hi (x.q - 2)
  (cl == .gt || (incl && cl == .eq)) && (ch == .lt || (incl && ch == .eq))

/-- Whether m · 2^q < 10^k. -/
def Binary.below (x : Binary) (k : Int) : Bool := cmpScaled 1 k x.m x.q == .gt

/-- The least k with m · 2^q < 10^k, for m > 0: estimated from the binary length, then
corrected by exact comparisons. -/
def Binary.scale (x : Binary) : Int :=
  let bits : Int := ((Nat.toDigits 2 x.m).length : Int) + x.q
  let guess := bits * 30103 / 100000
  ((List.range 6).map (fun (i : Nat) => guess - 2 + Int.ofNat i)).find? x.below |>.getD guess

/-- ⌊m · 2^q / 10^g⌋. -/
def Binary.floorOnGrid (x : Binary) (g : Int) : Nat :=
  (x.m * Nat.pow 2 x.q.toNat * Nat.pow 10 (-g).toNat) / (Nat.pow 2 (-x.q).toNat * Nat.pow 10 g.toNat)

/-- The decimal of `n` significant digits chosen for the double, if the grid of `n` digits has a
point in its interval. -/
def Binary.onGrid? (x : Binary) (n : Nat) : Option Dec :=
  let g := x.scale - n
  let lo := x.floorOnGrid g
  let a : Dec := ⟨lo, g⟩
  let b : Dec := ⟨lo + 1, g⟩
  match x.readsBack a, x.readsBack b with
  | true, true =>
    match cmpScaled (2 * lo + 1) g (2 * x.m) x.q with
    | .gt => some a
    | .lt => some b
    | .eq => some (if lo % 2 == 0 then a else b)
  | true, false => some a
  | false, true => some b
  | false, false => none

def Binary.exact (x : Binary) : Dec :=
  if 0 ≤ x.q then ⟨x.m * Nat.pow 2 x.q.toNat, 0⟩ else ⟨x.m * Nat.pow 5 (-x.q).toNat, x.q⟩

/-- Moves up to `fuel` trailing zeros of the digits into the exponent. -/
def Dec.stripFor : Nat → Dec → Dec
  | 0, d => d
  | fuel + 1, d =>
    if d.digits ≠ 0 ∧ d.digits % 10 = 0 then Dec.stripFor fuel ⟨d.digits / 10, d.exp + 1⟩ else d

/-- Moves all trailing zeros of the digits into the exponent; there are fewer of them than
digits. -/
def Dec.strip (d : Dec) : Dec := Dec.stripFor (Nat.toDigits 10 d.digits).length d

/-- The shortest decimal that reads back as the double, nearest on a tie of length, even on a
tie of distance; zero is `0 · 10^0`. -/
def Binary.shortest (x : Binary) : Dec :=
  if x.m = 0 then ⟨0, 0⟩
  else ((List.range 17).findSome? (fun i => x.onGrid? (i + 1))).getD x.exact |>.strip

/-- The decimal digits of a natural number, most significant first. -/
def digitsOf (n : Nat) : List Nat := (Nat.toDigits 10 n).map (fun c => c.toNat - '0'.toNat)

end Colonnade.Decimal
