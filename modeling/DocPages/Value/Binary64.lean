/-!
# Double precision numbers

`Binary64` holds the values of the binary64 format.  `Binary64.ofDecimal` is the value nearest
to a decimal, a tie going to the even mantissa, and `Binary64.shortest` is the decimal with
the fewest digits that reads back as the given value, the nearest one of those.  `display`
writes that decimal positionally when its point lies between the fourth place before and the
sixteenth place behind the first digit, and with an exponent otherwise.
-/

namespace DocPages

/-- A value of the binary64 format: `mantissa * 2 ^ exponent` with its sign, an infinity, or
no number. -/
inductive Binary64 where
  | finite (negative : Bool) (mantissa : Nat) (exponent : Int)
  | infinite (negative : Bool)
  | nan
  deriving DecidableEq, Inhabited

namespace Binary64

/-- The quotient of `num * 2 ^ (-e)` and `den`, as a quotient of natural numbers. -/
private def scaled (num den : Nat) (e : Int) : Nat × Nat :=
  if e < 0 then (num * Nat.pow 2 e.natAbs, den) else (num, den * Nat.pow 2 e.natAbs)

/-- The exponent at which the mantissa of `num / den` has 53 bits, or the least one. -/
private def exponentOf (num den : Nat) : Int :=
  let guess : Int := (Nat.log2 num : Int) - Nat.log2 den - 52
  let (n, d) := scaled num den guess
  let e := if n / d < Nat.pow 2 52 then guess - 1
    else if n / d < Nat.pow 2 53 then guess else guess + 1
  max e (-1074)

/-- The value nearest to `num / den`, a tie going to the even mantissa. -/
def ofFraction (negative : Bool) (num den : Nat) : Binary64 :=
  if num = 0 then .finite negative 0 (-1074)
  else
    let e := exponentOf num den
    let (n, d) := scaled num den e
    let q := n / d
    let r := n % d
    let m := if d < 2 * r || (2 * r = d && q % 2 = 1) then q + 1 else q
    let (m, e) := if m = Nat.pow 2 53 then (Nat.pow 2 52, e + 1) else (m, e)
    if 971 < e then .infinite negative else .finite negative m e

/-- The value nearest to `digits * 10 ^ exp`, a tie going to the even mantissa. -/
def ofDecimal (negative : Bool) (digits : Nat) (exp : Int) : Binary64 :=
  if exp < 0 then ofFraction negative digits (Nat.pow 10 exp.natAbs)
  else ofFraction negative (digits * Nat.pow 10 exp.natAbs) 1

/-- `mantissa * 2 ^ exponent` as a quotient of natural numbers. -/
def fraction (mantissa : Nat) (exponent : Int) : Nat × Nat :=
  if exponent < 0 then (mantissa, Nat.pow 2 exponent.natAbs)
  else (mantissa * Nat.pow 2 exponent.natAbs, 1)

/-- The value nearest to the size of `x` times `n` plus the size of `y`, after each step. -/
def addScaled (x : Binary64) (n : Nat) (y : Binary64) : Binary64 :=
  let times : Binary64 := match x with
    | finite _ m e =>
      let (a, b) := fraction m e
      ofFraction false (a * n) b
    | x => x
  match times, y with
  | finite _ m e, finite _ m' e' =>
    let (a, b) := fraction m e
    let (c, d) := fraction m' e'
    ofFraction false (a * d + c * b) (b * d)
  | finite .., y => y
  | x, _ => x

/-- The value with the other sign if `flip` holds. -/
def negateIf (flip : Bool) : Binary64 → Binary64
  | finite negative m e => finite (negative != flip) m e
  | infinite negative => infinite (negative != flip)
  | nan => nan

/-- Does `digits * 10 ^ exp` round to `mantissa * 2 ^ exponent`? -/
private def roundsTo (mantissa : Nat) (exponent : Int) (digits : Nat) (exp : Int) : Bool :=
  ofDecimal false digits exp == .finite false mantissa exponent

/-- The decimal on the grid of `10 ^ exp` that is nearest to `num / den` among those that
round to `mantissa * 2 ^ exponent`. -/
private def onGrid? (mantissa : Nat) (exponent : Int) (num den : Nat) (exp : Int) :
    Option Nat :=
  let (n, d) :=
    if exp < 0 then (num * Nat.pow 10 exp.natAbs, den) else (num, den * Nat.pow 10 exp.natAbs)
  let low := n / d
  let lowHits := roundsTo mantissa exponent low exp
  let highHits := roundsTo mantissa exponent (low + 1) exp
  if lowHits && (!highHits || 2 * (n % d) ≤ d) then some low
  else if highHits then some (low + 1)
  else none

/-- The number of decimal digits before the point of `num / den`; not positive when
`num / den` is below one. -/
private def pointOf (num den : Nat) : Int :=
  if den ≤ num then ((Nat.toDigits 10 (num / den)).length : Int)
  else 1 - ((Nat.toDigits 10 ((den - 1) / num)).length : Int)

/-- The digits and the exponent of the shortest decimal that reads back as
`mantissa * 2 ^ exponent`. -/
def shortest (mantissa : Nat) (exponent : Int) : Nat × Int :=
  let num := if exponent < 0 then mantissa else mantissa * Nat.pow 2 exponent.natAbs
  let den := if exponent < 0 then Nat.pow 2 exponent.natAbs else 1
  let point := pointOf num den
  ((List.range 17).findSome? fun (k : Nat) =>
    let exp := point - 1 - k
    (onGrid? mantissa exponent num den exp).map fun digits => (digits, exp)).getD (mantissa, 0)

/-- The digits with trailing zeros moved into the exponent. -/
private def withoutZeros : Nat → Nat → Int → Nat × Int
  | 0, digits, exp => (digits, exp)
  | fuel + 1, digits, exp =>
    if digits ≠ 0 && digits % 10 = 0 then withoutZeros fuel (digits / 10) (exp + 1)
    else (digits, exp)

/-- The decimal with these digits and exponent, written out. -/
private def layout (digits : Nat) (exp : Int) : List Char :=
  let (digits, exp) := withoutZeros 400 digits exp
  let ds := Nat.toDigits 10 digits
  let point : Int := ds.length + exp
  if -4 < point && point ≤ 16 then
    if point ≤ 0 then '0' :: '.' :: (List.replicate point.natAbs '0' ++ ds)
    else
      let p := point.toNat
      if ds.length ≤ p then ds ++ List.replicate (p - ds.length) '0' ++ ['.', '0']
      else ds.take p ++ '.' :: ds.drop p
  else
    let e := point - 1
    let es := Nat.toDigits 10 e.natAbs
    let es := if es.length < 2 then '0' :: es else es
    let fraction := if ds.length ≤ 1 then [] else '.' :: ds.drop 1
    ds.take 1 ++ fraction ++ 'e' :: (if e < 0 then '-' else '+') :: es

/-- The shortest decimal that reads back as the value. -/
def display : Binary64 → String
  | finite negative mantissa exponent =>
    let body :=
      if mantissa = 0 then ['0', '.', '0']
      else
        let (digits, exp) := shortest mantissa exponent
        layout digits exp
    String.ofList (if negative then '-' :: body else body)
  | infinite negative => if negative then "-inf" else "inf"
  | nan => "nan"

/-- A number as an odd multiple of a power of two, or zero. -/
structure Exact where
  negative : Bool
  odd : Nat
  exponent : Int
  deriving DecidableEq

namespace Exact

/-- `mantissa * 2 ^ exponent` with its sign. -/
def ofScaled (negative : Bool) (mantissa : Nat) (exponent : Int) : Exact :=
  let rec go : Nat → Nat → Int → Nat × Int
    | 0, m, e => (m, e)
    | fuel + 1, m, e => if m % 2 = 0 then go fuel (m / 2) (e + 1) else (m, e)
  if mantissa = 0 then ⟨false, 0, 0⟩
  else
    let (odd, e) := go mantissa.log2 mantissa exponent
    ⟨negative, odd, e⟩

/-- An integer. -/
def ofInt (n : Int) : Exact := ofScaled (n < 0) n.natAbs 0

end Exact

/-- The exact number that a value is, if it is finite. -/
def dyadic? : Binary64 → Option Exact
  | finite negative mantissa exponent => some (.ofScaled negative mantissa exponent)
  | _ => none

/-- Is the value zero, of either sign? -/
def isZero : Binary64 → Bool
  | finite _ mantissa _ => mantissa == 0
  | _ => false

end Binary64

end DocPages
