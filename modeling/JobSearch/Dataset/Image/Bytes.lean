import JobSearch.Number.Power

/-!
# Numbers in bytes

Numbers of fixed width stand with the highest byte first. A number of variable width has seven
bits in each of its bytes, whose high bit says that another byte follows; a ninth byte has
eight bits.

## Main definitions

* `byteAt`, `bigEndian`, `signed`, `varint`.
-/

namespace JobSearch.Image

/-- The byte at a position, zero behind the end. -/
def byteAt (bytes : ByteArray) (position : Nat) : Nat :=
  match bytes[position]? with
  | some b => b.toNat
  | none => 0

/-- The number in `width` bytes from a position. -/
def bigEndian (bytes : ByteArray) : (width : Nat) → (position : Nat) → Nat
  | 0, _ => 0
  | width + 1, position =>
    byteAt bytes position * Number.twoTo (8 * width) + bigEndian bytes width (position + 1)

/-- The signed number in `width` bytes from a position. -/
def signed (bytes : ByteArray) (width position : Nat) : Int :=
  let n := bigEndian bytes width position
  if 2 * n < Number.twoTo (8 * width) then n
  else (n : Int) - (Number.twoTo (8 * width) : Int)

/-- The number of variable width from a position, of which `value` has been read, and the
position behind it; at most `more` bytes have seven bits. -/
def varintFrom (bytes : ByteArray) : (more : Nat) → (position value : Nat) → Nat × Nat
  | 0, position, value => (value * 256 + byteAt bytes position, position + 1)
  | more + 1, position, value =>
    let b := byteAt bytes position
    if b < 128 then (value * 128 + b, position + 1)
    else varintFrom bytes more (position + 1) (value * 128 + (b - 128))

/-- The number of variable width from a position, and the position behind it. -/
def varint (bytes : ByteArray) (position : Nat) : Nat × Nat := varintFrom bytes 8 position 0

end JobSearch.Image
