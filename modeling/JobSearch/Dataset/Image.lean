import JobSearch.Dataset.Loader
import JobSearch.Dataset.Storage
import JobSearch.Dataset.Store

/-!
# Images of a dataset

An image is the contents of a database file. It must begin with the words that all such files
begin with; whether the rest can be read shows only when it is asked something.

## Main definitions

* `imageHeader`, `isImage` — how an image begins.
* `openImage`, `Arrival.ofImage` — the store of an image.
-/

namespace JobSearch

/-- How an image begins. -/
def imageHeader : List UInt8 := ("SQLite format 3".toList.map fun c => c.toNat.toUInt8) ++ [0]

/-- Whether bytes begin like an image. -/
def isImage (bytes : ByteArray) : Bool :=
  (bytes.extract 0 imageHeader.length).toList == imageHeader

/-- The store of an image, asked within the limits of the engine. What begins like an image is taken
for one. -/
def openImage (bytes : ByteArray) : Except LoadFailure Store :=
  if isImage bytes then
    match ImageContents.read bytes with
    | .ok contents => .ok (.limited .leftToRight (.image contents))
    | .error why => .ok (.limited .leftToRight (.unreadable why))
  else .error (.notADatabase bytes.size)

/-- The arrival of the bytes of an image. -/
def Arrival.ofImage (bytes : ByteArray) : Arrival Store :=
  match openImage bytes with
  | .ok store => .opened store
  | .error failure => .undecodable failure

end JobSearch
