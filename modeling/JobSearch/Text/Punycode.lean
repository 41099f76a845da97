import JobSearch.Distinct

/-!
# Names of any script in plain letters

A name is written in the letters `a` to `z`, digits and hyphens: first its plain characters,
then, for every other character in the order of code points, how far its code point and its
place lie from the ones before. The distances are numbers of variable width whose digits have
weights that adapt to the distances so far.

## Main definitions

* `Punycode.encode` — a name in plain letters.
-/

namespace JobSearch.Text.Punycode

/-- A digit: the letters stand for the values up to 25, then come the ten digits. -/
def digitChar (d : Nat) : Char :=
  if d < 26 then Char.ofNat (0x61 + d) else Char.ofNat (0x30 + d - 26)

/-- The least value that a digit at a place must have if another one follows. -/
def threshold (place bias : Nat) : Nat :=
  if place ≤ bias then 1 else if bias + 26 ≤ place then 26 else place - bias

theorem one_le_threshold (place bias : Nat) : 1 ≤ threshold place bias := by
  unfold threshold
  split
  · omega
  · split <;> omega

/-- A distance brought below 456 by divisions by 35, and 36 for each of them. -/
def shrink (distance steps : Nat) : Nat × Nat :=
  if 455 < distance then shrink (distance / 35) (steps + 36) else (distance, steps)
termination_by distance
decreasing_by exact Nat.div_lt_self (by omega) (by omega)

/-- The bias behind a distance, after which `count` characters are placed. -/
def adapted (distance count : Nat) (isFirst : Bool) : Nat :=
  let scaled := if isFirst then distance / 700 else distance / 2
  let (rest, steps) := shrink (scaled + scaled / count) 0
  steps + 36 * rest / (rest + 38)

/-- The digits of a distance from a place on. -/
def digitsFrom (bias place distance : Nat) : List Char :=
  let least := threshold place bias
  if distance < least then [digitChar distance]
  else
    digitChar (least + (distance - least) % (36 - least)) ::
      digitsFrom bias (place + 36) ((distance - least) / (36 - least))
termination_by distance
decreasing_by
  have _ := one_le_threshold place bias
  calc (distance - threshold place bias) / (36 - threshold place bias)
      ≤ distance - threshold place bias := Nat.div_le_self _ _
    _ < distance := by omega

/-- What has been written, and from where the next distance is counted. -/
structure Progress where
  written : List Char
  distance : Nat
  bias : Nat
  /-- The number of characters that are placed. -/
  placed : Nat

/-- One character of the name is passed while those with a code point are being placed. -/
def pass (plain code : Nat) (p : Progress) (c : Char) : Progress :=
  if c.toNat < code then { p with distance := p.distance + 1 }
  else if c.toNat = code then
    { written := p.written ++ digitsFrom p.bias 36 p.distance
      distance := 0
      bias := adapted p.distance (p.placed + 1) (p.placed == plain)
      placed := p.placed + 1 }
  else p

/-- The characters with some code points are placed, one code point after the other; `next` is
the code point from which the distance is counted. -/
def placeAll (name : List Char) (plain : Nat) : List Nat → (next : Nat) → Progress → Progress
  | [], _, p => p
  | code :: rest, next, p =>
    let before := { p with distance := p.distance + (code - next) * (p.placed + 1) }
    let behind := name.foldl (pass plain code) before
    placeAll name plain rest (code + 1) { behind with distance := behind.distance + 1 }

/-- A name in plain letters. -/
def encode (name : List Char) : List Char :=
  let plain := name.filter (·.toNat < 128)
  let codes := (distinct ((name.filter (128 ≤ ·.toNat)).map Char.toNat)).mergeSort (· ≤ ·)
  plain ++ (if plain.isEmpty then [] else ['-']) ++
    (placeAll name plain.length codes 128 ⟨[], 0, 72, plain.length⟩).written

end JobSearch.Text.Punycode
