/-!
# Replacing parts of text

A part is looked for from the left; after an occurrence the search goes on behind it, so
occurrences never overlap.

## Main definitions

* `countOf` — the number of occurrences of a part.
* `substitute` — every occurrence replaced.
-/

namespace JobSearch.Text

/-- Text behind a given beginning. -/
def behind? : List Char → List Char → Option (List Char)
  | [], s => some s
  | _ :: _, [] => none
  | c :: cs, d :: ds => if c = d then behind? cs ds else none

theorem length_of_behind? {part s rest : List Char} (h : behind? part s = some rest) :
    rest.length + part.length = s.length := by
  induction part generalizing s with
  | nil => simp only [behind?, Option.some.injEq] at h; simp [h]
  | cons c cs ih =>
    cases s with
    | nil => simp [behind?] at h
    | cons d ds =>
      simp only [behind?] at h
      split at h
      · have := ih h; simp; omega
      · cases h

/-- The pieces of text between the occurrences of a nonempty part. -/
def splitOn (part : List Char) (s : List Char) : List (List Char) :=
  match _hs : s with
  | [] => [[]]
  | c :: rest =>
    match _hb : behind? part s with
    | some after =>
      if _hp : part = [] then [s] else [] :: splitOn part after
    | none =>
      match splitOn part rest with
      | [] => [[c]]
      | piece :: pieces => (c :: piece) :: pieces
termination_by s.length
decreasing_by
  · have := length_of_behind? _hb
    have : 0 < part.length := List.length_pos_iff.2 _hp
    simp_all; omega
  · simp

/-- The number of occurrences of a nonempty part. -/
def countOf (part s : String) : Nat := (splitOn part.toList s.toList).length - 1

/-- Text with every occurrence of a nonempty part replaced. -/
def substitute (part replacement s : String) : String :=
  String.ofList (List.intercalate replacement.toList (splitOn part.toList s.toList))

end JobSearch.Text
