import DataMethods.Decimal.Shortest

/-!
# Decimals as text

A number is written with the fewest digits that identify it: positionally while its leading digit
counts a power of ten from `10 ^ -4` to `10 ^ 15`, otherwise with a signed exponent of at least two
digits. A whole number keeps one zero behind the point.
-/

namespace DataMethods.Decimal

/-- A natural number in at least two digits. -/
def twoDigits (n : Nat) : String :=
  if n < 10 then "0" ++ toString n else toString n

/-- The text of a positive decimal, or of zero. -/
def text (d : Decimal) : String :=
  let ds := (toString d.digits).toList
  let lead := d.exponent + ds.length - 1
  if -4 ≤ lead ∧ lead < 16 then
    if 0 ≤ d.exponent then
      String.ofList (ds ++ List.replicate d.exponent.toNat '0') ++ ".0"
    else if 0 ≤ lead then
      String.ofList (ds.take (lead.toNat + 1)) ++ "." ++ String.ofList (ds.drop (lead.toNat + 1))
    else
      "0." ++ String.ofList (List.replicate (-lead - 1).toNat '0' ++ ds)
  else
    let head := String.ofList (ds.take 1)
    let tail := ds.drop 1
    let mantissa := if tail.isEmpty then head else head ++ "." ++ String.ofList tail
    mantissa ++ (if lead < 0 then "e-" else "e+") ++ twoDigits lead.natAbs

/-- The text of a floating-point number. -/
def floatText (x : Float) : String :=
  if x.isNaN then "nan"
  else
    let sign := if x.toBits.toNat / 0x8000000000000000 == 1 then "-" else ""
    sign ++ (if x.isInf then "inf" else (shortest x).text)

end DataMethods.Decimal
