/-!
# Hexadecimal digits

`hexDigits width n` writes `n` in base sixteen with lower-case digits, padded with zeros to
`width`, and `hexValue?` reads one digit of either case.
-/

namespace DocPages.Text

/-- `n` in base sixteen, padded with zeros to `width` digits. -/
def hexDigits (width n : Nat) : List Char :=
  let digits := Nat.toDigits 16 n
  List.replicate (width - digits.length) '0' ++ digits

/-- The value of a hexadecimal digit. -/
def hexValue? (c : Char) : Option Nat :=
  if '0' ≤ c && c ≤ '9' then some (c.toNat - '0'.toNat)
  else if 'a' ≤ c && c ≤ 'f' then some (c.toNat - 'a'.toNat + 10)
  else if 'A' ≤ c && c ≤ 'F' then some (c.toNat - 'A'.toNat + 10)
  else none

end DocPages.Text
