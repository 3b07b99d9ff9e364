/-!
# Bytes of text

Offsets into a text may count the bytes of its UTF-8 form.  `dropBytes?` and `takeBytes?` cut a
text at such an offset, and `slice?` gives the part between two offsets.  There is no answer if
an offset falls inside a character; an offset past the end stands for the end.
-/

namespace DocPages.Text

/-- The text without its first `n` bytes. -/
def dropBytes? : Nat → List Char → Option (List Char)
  | _, [] => some []
  | n, c :: cs =>
    if n = 0 then some (c :: cs)
    else if c.utf8Size ≤ n then dropBytes? (n - c.utf8Size) cs
    else none

/-- The first `n` bytes of the text. -/
def takeBytes? : Nat → List Char → Option (List Char)
  | _, [] => some []
  | n, c :: cs =>
    if n = 0 then some []
    else if c.utf8Size ≤ n then (takeBytes? (n - c.utf8Size) cs).map (c :: ·)
    else none

/-- The part of the text from byte `start` up to byte `stop`. -/
def slice? (start stop : Nat) (cs : List Char) : Option (List Char) :=
  if stop ≤ start then some []
  else (dropBytes? start cs).bind (takeBytes? (stop - start))

/-- The number of bytes of a text. -/
def byteCount : List Char → Nat
  | [] => 0
  | c :: cs => c.utf8Size + byteCount cs

/-- A cut after a part of a text gives the rest. -/
theorem dropBytes?_byteCount_append (us vs : List Char) :
  dropBytes? (byteCount us) (us ++ vs) = some vs
  := by
  induction us with
  | nil => cases vs <;> simp [byteCount, dropBytes?]
  | cons u us ih =>
    have := u.utf8Size_pos
    rw [List.cons_append, dropBytes?, byteCount, if_neg (by omega), if_pos (by omega),
      Nat.add_sub_cancel_left, ih]

/-- A cut after a part of a text gives that part. -/
theorem takeBytes?_byteCount_append (us vs : List Char) :
  takeBytes? (byteCount us) (us ++ vs) = some us
  := by
  induction us with
  | nil => cases vs <;> simp [byteCount, takeBytes?]
  | cons u us ih =>
    have := u.utf8Size_pos
    rw [List.cons_append, takeBytes?, byteCount, if_neg (by omega), if_pos (by omega),
      Nat.add_sub_cancel_left, ih]
    rfl

end DocPages.Text
