/-!
# The shortest decimal that reads back

A floating-point number stands for all reals that round to it. `Decimal.shortest` finds, among the
decimals in that interval, one with the fewest digits, and of two such the nearer one. All
comparisons are exact, on natural numbers.
-/

namespace DataMethods

/-- The decimal `digits * 10 ^ exponent`. -/
structure Decimal where
  /-- All its digits, as one natural number. -/
  digits : Nat
  /-- The power of ten that they count. -/
  exponent : Int
deriving Repr, DecidableEq

/-- The size `mantissa * 2 ^ scale` of a finite floating-point number. -/
structure BinarySize where
  /-- The whole number of units in the last place. -/
  mantissa : Nat
  /-- The power of two that is one such unit. -/
  scale : Int
  /-- Is the next smaller number only half a unit away? -/
  narrowBelow : Bool

namespace BinarySize

/-- The size of a finite number, from the bits of its binary format. -/
def ofFloat (x : Float) : BinarySize :=
  let bits := x.toBits.toNat
  -- The 52 lowest bits are the fraction, and the 11 bits above them the exponent.
  let fraction := bits % 0x10000000000000
  match bits / 0x10000000000000 % 0x800 with
  | 0 => ⟨fraction, -1074, false⟩
  | e => ⟨0x10000000000000 + fraction, (e : Int) - 1075, fraction == 0 && e != 1⟩

end BinarySize

namespace Decimal

/-- How a decimal lies to `n * 2 ^ k`. -/
def compareTo (d : Decimal) (n : Nat) (k : Int) : Ordering :=
  compare (d.digits * Nat.pow 10 d.exponent.toNat * Nat.pow 2 (-k).toNat)
    (n * Nat.pow 2 k.toNat * Nat.pow 10 (-d.exponent).toNat)

/-- Does the decimal round to the number `x`? The two ends of the interval belong to it when the
last bit of `x` is zero. -/
def readsBackTo (d : Decimal) (x : BinarySize) : Bool :=
  let below := if x.narrowBelow then 4 * x.mantissa - 1 else 4 * x.mantissa - 2
  let above := 4 * x.mantissa + 2
  let closed := x.mantissa % 2 == 0
  let fromBelow := d.compareTo below (x.scale - 2)
  let fromAbove := d.compareTo above (x.scale - 2)
  (fromBelow == .gt || closed && fromBelow == .eq) &&
    (fromAbove == .lt || closed && fromAbove == .eq)

/-- The multiple of `10 ^ k` at or next below the number. -/
def floorAt (x : BinarySize) (k : Int) : Decimal :=
  let above := x.mantissa * Nat.pow 2 x.scale.toNat * Nat.pow 10 (-k).toNat
  let below := Nat.pow 2 (-x.scale).toNat * Nat.pow 10 k.toNat
  ⟨above / below, k⟩

/-- The best multiple of `10 ^ k` that reads back: a neighbour of the number, the nearer one if both
do, and of two equally near the even one. -/
def onGrid? (x : BinarySize) (k : Int) : Option Decimal :=
  let low := floorAt x k
  let high : Decimal := ⟨low.digits + 1, k⟩
  match low.readsBackTo x, high.readsBackTo x with
  | true, true =>
    match compareTo ⟨2 * low.digits + 1, k⟩ (2 * x.mantissa) x.scale with
    | .gt => some low
    | .lt => some high
    | .eq => some (if low.digits % 2 == 0 then low else high)
  | true, false => some low
  | false, true => some high
  | false, false => none

/-- The least power of ten above the number, searched downwards from `10 ^ (start + fuel)`. -/
def magnitude (x : BinarySize) (start : Int) : Nat → Int
  | 0 => start
  | fuel + 1 =>
    if compareTo ⟨1, start + fuel⟩ x.mantissa x.scale == .gt then magnitude x start fuel
    else start + fuel + 1

/-- The number written out in full. -/
def exact (x : BinarySize) : Decimal :=
  if 0 ≤ x.scale then ⟨x.mantissa * Nat.pow 2 x.scale.toNat, 0⟩
  else ⟨x.mantissa * Nat.pow 5 (-x.scale).toNat, x.scale⟩

/-- The same decimal without zeros at the end of its digits. -/
def stripZeros (d : Decimal) : Nat → Decimal
  | 0 => d
  | fuel + 1 =>
    if d.digits != 0 && d.digits % 10 == 0 then stripZeros ⟨d.digits / 10, d.exponent + 1⟩ fuel
    else d

/-- The shortest decimal that reads back to the size of a finite number. Seventeen digits are always
enough; zero has no leading digit and is written as such. -/
def shortest (x : Float) : Decimal :=
  let size := BinarySize.ofFloat x
  if size.mantissa == 0 then ⟨0, 0⟩ else
  let top := magnitude size (-324) 640
  let found := (List.range 17).findSome? fun (n : Nat) => onGrid? size (top - (n + 1))
  (found.getD (exact size)).stripZeros 20

end Decimal

end DataMethods
