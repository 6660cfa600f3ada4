/-!
# Binary floating-point numbers

A `Binary64` is a double precision number as an exact value: sign, natural mantissa and binary
exponent. `ofDecimal` rounds a decimal to the nearest number, a tie to the even mantissa.
`shortest?` finds the fewest decimal digits that read back as the same number, and `toText` lays
them out. `truncate?` drops the fraction. All arithmetic is on integers.

The layout is positional for decimal exponents from -4 to 15 and scientific outside, with a sign
and at least two digits in the exponent.
-/

namespace ModuleGraph

/-- A double precision number. A finite one is `mantissa * 2 ^ exponent` with its sign. -/
inductive Binary64
  | nan
  | infinite (negative : Bool)
  | finite (negative : Bool) (mantissa : Nat) (exponent : Int)
deriving DecidableEq, Repr, Inhabited

namespace Binary64

/-- The least exponent, that of the subnormal numbers. -/
def minExponent : Int := -1074

/-- The greatest exponent of a finite number. -/
def maxExponent : Int := 971

/-- The numerator and denominator of `numerator / denominator * base ^ -power`. -/
def scaled (numerator denominator base : Nat) (power : Int) : Nat × Nat :=
  if 0 ≤ power then (numerator, denominator * Nat.pow base power.toNat)
  else (numerator * Nat.pow base (-power).toNat, denominator)

/-- A quotient rounded to the nearest integer, a tie to the even one. -/
def roundQuotient (numerator denominator : Nat) : Nat :=
  let quotient := numerator / denominator
  let twice := 2 * (numerator % denominator)
  if twice < denominator || (twice == denominator && quotient % 2 == 0) then quotient
  else quotient + 1

/-- The binary exponent at which a positive quotient has a mantissa of 53 bits. -/
def fittingExponent (numerator denominator : Nat) : Int :=
  let guess : Int := numerator.log2 - denominator.log2 - 52
  let (n, d) := scaled numerator denominator 2 guess
  max minExponent (if n / d < Nat.pow 2 52 then guess - 1 else guess)

/-- The number nearest to a positive quotient. -/
def ofQuotient (negative : Bool) (numerator denominator : Nat) : Binary64 :=
  let exponent := fittingExponent numerator denominator
  let (n, d) := scaled numerator denominator 2 exponent
  let mantissa := roundQuotient n d
  let (mantissa, exponent) :=
    if mantissa == Nat.pow 2 53 then (Nat.pow 2 52, exponent + 1) else (mantissa, exponent)
  if maxExponent < exponent then .infinite negative else .finite negative mantissa exponent

/-- The number nearest to `digits * 10 ^ power`. -/
def ofDecimal (negative : Bool) (digits : Nat) (power : Int) : Binary64 :=
  if digits == 0 then .finite negative 0 minExponent
  else if 400 < power then .infinite negative
  else if power + digits.log2 < -1100 then .finite negative 0 minExponent
  else if 0 ≤ power then ofQuotient negative (digits * Nat.pow 10 power.toNat) 1
  else ofQuotient negative digits (Nat.pow 10 (-power).toNat)

/-- The number is a zero of either sign. -/
def isZero : Binary64 → Bool
  | .finite _ 0 _ => true
  | _ => false

/-- The integer part, rounding toward zero; there is none for NaN and the infinities. -/
def truncate? : Binary64 → Option Int
  | .nan | .infinite _ => none
  | .finite negative mantissa exponent =>
    let magnitude : Nat :=
      if 0 ≤ exponent then mantissa * Nat.pow 2 exponent.toNat
      else mantissa / Nat.pow 2 (-exponent).toNat
    some (if negative then -(magnitude : Int) else magnitude)

/-- The decimal exponent of a positive quotient: `10 ^ k ≤ n / d < 10 ^ (k + 1)`, found from an
estimate that is at most one too small. -/
def decimalExponent (numerator denominator : Nat) : Int :=
  let digits (n : Nat) : Int := (Nat.toDigits 10 n).length
  let guess := digits numerator - digits denominator - 1
  let (n, d) := scaled numerator denominator 10 (guess + 1)
  if d ≤ n then guess + 1 else guess

/-- The decimal `digits * 10 ^ power` is read as the given number. -/
def readsBack (value : Binary64) (digits : Nat) (power : Int) : Bool :=
  match value with
  | .finite negative _ _ => ofDecimal negative digits power == value
  | _ => false

/-- The decimal of `count` digits nearest to a positive value that reads back as it. -/
def candidate? (value : Binary64) (numerator denominator count : Nat) : Option (Nat × Int) :=
  let power := decimalExponent numerator denominator - (count - 1 : Int)
  let (n, d) := scaled numerator denominator 10 power
  let below := n / d
  let nearest := roundQuotient n d
  let other := if nearest == below then below + 1 else below
  if readsBack value nearest power then some (nearest, power)
  else if readsBack value other power then some (other, power)
  else none

/-- The fewest digits that read back as a positive value, with the power of ten of the last. -/
def shortest? (value : Binary64) (numerator denominator : Nat) : Option (Nat × Int) :=
  (List.range' 1 17).findSome? fun count => candidate? value numerator denominator count

/-- Removes the zeros at the end of a row of digits. -/
def trimZeros (digits : List Char) : List Char :=
  (digits.reverse.dropWhile (· == '0')).reverse

/-- Positional layout of digits whose first one counts `10 ^ exponent`. -/
def positional (digits : List Char) (exponent : Int) : List Char :=
  if exponent < 0 then
    ['0', '.'] ++ List.replicate (-exponent - 1).toNat '0' ++ digits
  else
    let whole := exponent.toNat + 1
    let padded := digits ++ List.replicate (whole - digits.length) '0'
    let fraction := padded.drop whole
    padded.take whole ++ ['.'] ++ if fraction.isEmpty then ['0'] else fraction

/-- Scientific layout of digits whose first one counts `10 ^ exponent`. -/
def scientific (digits : List Char) (exponent : Int) : List Char :=
  let mantissa :=
    match digits with
    | first :: second :: rest => first :: '.' :: second :: rest
    | _ => digits
  let power := Nat.toDigits 10 exponent.natAbs
  mantissa ++ ['e', if exponent < 0 then '-' else '+'] ++
    List.replicate (2 - power.length) '0' ++ power

/-- The shortest text that reads back as the number. -/
def toText : Binary64 → String
  | .nan => "nan"
  | .infinite negative => if negative then "-inf" else "inf"
  | .finite negative mantissa exponent =>
    let sign := if negative then "-" else ""
    if mantissa == 0 then sign ++ "0.0"
    else
      let (n, d) := scaled mantissa 1 2 (-exponent)
      match shortest? (.finite false mantissa exponent) n d with
      | none => sign ++ "0.0"
      | some (digits, power) =>
        let row := Nat.toDigits 10 digits
        let first := power + row.length - 1
        let trimmed := trimZeros row
        sign ++ String.ofList
          (if -4 ≤ first && first < 16 then positional trimmed first else scientific trimmed first)

end Binary64

end ModuleGraph
