import JobSearch.Dataset.Image.Bytes
import JobSearch.Dataset.Image.Pages
import JobSearch.Relation.Cell

/-!
# Rows as bytes

The bytes of a row begin with a list of codes, one for each column, which say what kind of
value follows and how long it is. Text is stored as bytes or in units of two bytes.

## Main definitions

* `readRecord?` — the cells of a row.
-/

namespace JobSearch.Image

/-! ### Text -/

/-- The numbers in pairs of bytes, the low byte first or last; a single byte is left out. -/
def unitsOf (lowFirst : Bool) : List UInt8 → List Nat
  | a :: b :: rest =>
    (if lowFirst then a.toNat + 256 * b.toNat else 256 * a.toNat + b.toNat) ::
      unitsOf lowFirst rest
  | _ => []

/-- The characters of units of two bytes; a character beyond the first `2 ^ 16` takes two. -/
def charsOfUnits : List Nat → List Char
  | high :: low :: rest =>
    if 0xD800 ≤ high ∧ high < 0xDC00 then
      Char.ofNat (0x10000 + (high - 0xD800) * 1024 + (low % 1024)) :: charsOfUnits rest
    else Char.ofNat high :: charsOfUnits (low :: rest)
  | [unit] => [Char.ofNat unit]
  | [] => []

/-- Text in an encoding. -/
def textOf (encoding : Encoding) (b : List UInt8) : Cell :=
  match encoding with
  | .bytes =>
    match String.fromUTF8? ⟨b.toArray⟩ with
    | some s => .text s
    | none => .bytes b true
  | .littleUnits => .text (String.ofList (charsOfUnits (unitsOf true b)))
  | .bigUnits => .text (String.ofList (charsOfUnits (unitsOf false b)))

/-! ### Values -/

/-- The codes from a position up to the end of the list; `fuel` bounds their number. -/
def codes (bytes : ByteArray) (finish : Nat) : (fuel : Nat) → (position : Nat) → List Nat
  | 0, _ => []
  | fuel + 1, position =>
    if finish ≤ position then []
    else
      let (code, next) := varint bytes position
      code :: codes bytes finish fuel next

/-- The number of bytes of a value with a code. -/
def widthOf (code : Nat) : Nat :=
  if code ≤ 4 then code
  else if code = 5 then 6
  else if code = 6 ∨ code = 7 then 8
  else if code < 12 then 0
  else (code - 12) / 2

/-- The value with a code at a position. -/
def valueAt (encoding : Encoding) (bytes : ByteArray) (code position : Nat) : Cell :=
  let width := widthOf code
  if code = 0 then .null
  else if code ≤ 6 then .int (signed bytes width position)
  else if code = 7 then .real (Float.ofBits (bigEndian bytes 8 position).toUInt64)
  else if code = 8 then .int 0
  else if code = 9 then .int 1
  else if code < 12 then .null
  else
    let b := (bytes.extract position (position + width)).toList
    if code % 2 = 1 then textOf encoding b else .bytes b false

/-- The values with some codes, one after the other from a position. -/
def valuesFrom (encoding : Encoding) (bytes : ByteArray) :
    List Nat → (position : Nat) → List Cell
  | [], _ => []
  | code :: rest, position =>
    valueAt encoding bytes code position ::
      valuesFrom encoding bytes rest (position + widthOf code)

/-- The cells of a row, if its codes agree with its length. -/
def readRecord? (encoding : Encoding) (bytes : ByteArray) : Option (List Cell) :=
  let (size, first) := varint bytes 0
  let cs := codes bytes size size first
  if size = 0 then some []
  else if size + (cs.map widthOf).foldl (· + ·) 0 = bytes.size then
    some (valuesFrom encoding bytes cs size)
  else none

end JobSearch.Image
