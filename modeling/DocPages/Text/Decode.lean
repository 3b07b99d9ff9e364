import DocPages.Text.Hex

/-!
# Text from bytes

`decode` reads the UTF-8 form of a text.  If bytes are no such form, the first ones that are
not are told, and why.
-/

namespace DocPages.Text

/-- Why bytes are no text. -/
inductive DecodeFault where
  | start
  | continuation
  | ending
  deriving DecidableEq, Inhabited

/-- What is said of a fault. -/
def DecodeFault.reason : DecodeFault → String
  | start => "invalid start byte"
  | continuation => "invalid continuation byte"
  | ending => "unexpected end of data"

/-- Bytes that are no text: the first one, its place, how many there are, and why. -/
structure DecodeError where
  byte : Nat
  place : Nat
  count : Nat
  fault : DecodeFault
  deriving DecidableEq, Inhabited

/-- What is said of bytes that are no text. -/
def DecodeError.message (e : DecodeError) : String :=
  let where_ :=
    if e.count = 1 then
      "byte 0x" ++ String.ofList (hexDigits 2 e.byte) ++ " in position " ++ toString e.place
    else "bytes in position " ++ toString e.place ++ "-" ++ toString (e.place + e.count - 1)
  "'utf-8' codec can't decode " ++ where_ ++ ": " ++ e.fault.reason

/-- How many bytes follow the first byte of a character, and the values the second one may
have. -/
def following? (b : Nat) : Option (Nat × Nat × Nat) :=
  if b < 0x80 then some (0, 0, 0)
  else if b < 0xC2 then none
  else if b < 0xE0 then some (1, 0x80, 0xBF)
  else if b = 0xE0 then some (2, 0xA0, 0xBF)
  else if b = 0xED then some (2, 0x80, 0x9F)
  else if b < 0xF0 then some (2, 0x80, 0xBF)
  else if b = 0xF0 then some (3, 0x90, 0xBF)
  else if b < 0xF4 then some (3, 0x80, 0xBF)
  else if b = 0xF4 then some (3, 0x80, 0x8F)
  else none

/-- The bytes that go on with a character, at most `n`, the first one between two values. -/
def continuing (n low high : Nat) : List Nat → List Nat
  | [] => []
  | b :: bs =>
    if n = 0 || b < low || high < b then [] else b :: continuing (n - 1) 0x80 0xBF bs

/-- The part of its first byte that belongs to the number of a character. -/
def leadBits (n b : Nat) : Nat :=
  match n with
  | 0 => b
  | 1 => b % 32
  | 2 => b % 16
  | _ => b % 8

/-- The number of the character that bytes write. -/
def codePoint (n b : Nat) (more : List Nat) : Nat :=
  more.foldl (fun v c => 64 * v + c % 64) (leadBits n b)

/-- The characters that bytes from a place on write; the number given is at least that of the
bytes. -/
private def decodeFrom : Nat → Nat → List Nat → Except DecodeError (List Char)
  | _, _, [] => .ok []
  | 0, _, _ => .ok []
  | fuel + 1, place, b :: bs =>
    match following? b with
    | none => .error ⟨b, place, 1, .start⟩
    | some (n, low, high) =>
      let more := continuing n low high bs
      if more.length = n then
        (decodeFrom fuel (place + n + 1) (bs.drop n)).map (Char.ofNat (codePoint n b more) :: ·)
      else if more.length = bs.length then .error ⟨b, place, more.length + 1, .ending⟩
      else .error ⟨b, place, more.length + 1, .continuation⟩

/-- The text that bytes write. -/
def decode (bs : List UInt8) : Except DecodeError String :=
  (decodeFrom bs.length 0 (bs.map UInt8.toNat)).map String.ofList

end DocPages.Text
