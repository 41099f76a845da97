import JobSearch.Dataset.Image.Bytes
import JobSearch.Dataset.Image.Fault

/-!
# The pages of an image

An image consists of pages of equal size. The rows of a table are a tree of pages: either they
are numbered and stand on the leaves, or they are in the order of their keys and stand on all
pages of the tree. A row that is too long for its page goes on in a chain of further pages.

## Main definitions

* `Layout`, `Layout.read` — the size of the pages and their number.
* `Layout.entries?` — the rows of a tree, as bytes.
-/

namespace JobSearch.Image

/-- How text is stored. -/
inductive Encoding where
  | bytes
  | littleUnits
  | bigUnits
  deriving DecidableEq

/-- The pages of an image. -/
structure Layout where
  pageSize : Nat
  /-- The part of a page that is not reserved. -/
  usable : Nat
  /-- The number of pages. -/
  pages : Nat
  encoding : Encoding

/-- The position of the size of a page. -/
def pageSizePosition : Nat := 16

/-- The position of the number of the format that readers must know. -/
def formatPosition : Nat := 19

/-- The position of the number of reserved bytes of a page. -/
def reservedPosition : Nat := 20

/-- The position of the three shares of a page, which are fixed. -/
def sharesPosition : Nat := 21

/-- The position of the number of changes so far. -/
def changesPosition : Nat := 24

/-- The position of the number of pages. -/
def pagesPosition : Nat := 28

/-- The position of the last byte of the number of the format of declarations. -/
def declarationsPosition : Nat := 47

/-- The position of the number of the text encoding. -/
def encodingPosition : Nat := 56

/-- The position of the number of changes at which the number of pages was written. -/
def pagesChangePosition : Nat := 92

/-- The length of what precedes the first page's own header. -/
def imageHeaderSize : Nat := 100

/-- The sizes that a page may have. -/
def pageSizes : List Nat := [512, 1024, 2048, 4096, 8192, 16384, 32768, 65536]

/-- The least number of bytes of a page that are not reserved. -/
def leastUsable : Nat := 480

/-- How text is stored in an image. -/
def encodingOf (bytes : ByteArray) : Encoding :=
  match bigEndian bytes 4 encodingPosition % 4 with
  | 2 => .littleUnits
  | 3 => .bigUnits
  | _ => .bytes

/-- The number of pages that an image says it has, or that it has if it does not say so or if it
was changed by a program that did not keep the number. -/
def pagesOf (bytes : ByteArray) (present : Nat) : Nat :=
  let written := bigEndian bytes 4 pagesPosition
  if written = 0 ∨ bigEndian bytes 4 changesPosition ≠ bigEndian bytes 4 pagesChangePosition then
    present
  else written

/-- The pages of an image, or what is wrong with its beginning. -/
def Layout.read (bytes : ByteArray) : Except ImageFault Layout :=
  let pageSize :=
    byteAt bytes pageSizePosition * 256 + byteAt bytes (pageSizePosition + 1) * 65536
  let usable := pageSize - byteAt bytes reservedPosition
  let present := (bytes.size + pageSize - 1) / pageSize
  let pages := pagesOf bytes present
  let format := byteAt bytes formatPosition
  let shares := (List.range 3).map fun i => byteAt bytes (sharesPosition + i)
  if 2 < format then .error .notADatabase
  else if format = 2 then .error .incomplete
  else if shares ≠ [64, 32, 32] ∨ pageSize ∉ pageSizes then .error .notADatabase
  else if present < pages then .error .malformed
  else if usable < leastUsable then .error .notADatabase
  else if 4 < byteAt bytes declarationsPosition then .error .laterFormat
  else .ok ⟨pageSize, usable, pages, encodingOf bytes⟩

/-- A row of a tree: its number, if the rows are numbered, and its bytes. -/
structure Entry where
  number : Int
  payload : ByteArray

/-- The two kinds of trees. -/
inductive TreeKind where
  /-- Numbered rows, which stand on the leaves. -/
  | numbered
  /-- Rows in the order of their keys, which stand on all pages. -/
  | keyed
  deriving DecidableEq

/-- The kind of a leaf. -/
def TreeKind.leaf : TreeKind → Nat
  | numbered => 13
  | keyed => 10

/-- The kind of a page with pages below it. -/
def TreeKind.branch : TreeKind → Nat
  | numbered => 5
  | keyed => 2

namespace Layout

variable (l : Layout) (bytes : ByteArray)

/-- The position at which a page starts; pages are counted from one. -/
def start (page : Nat) : Nat := (page - 1) * l.pageSize

/-- The bytes of a chain of pages, up to a number of bytes, if the chain is long enough; `fuel`
bounds its length. -/
def chain? : (fuel : Nat) → (page left : Nat) → Option ByteArray
  | 0, _, _ => none
  | fuel + 1, page, left =>
    if left = 0 then some .empty
    else if page = 0 ∨ l.pages < page then none
    else
      let start := l.start page
      let here := min left (l.usable - 4)
      (chain? fuel (bigEndian bytes 4 start) (left - here)).map
        (bytes.extract (start + 4) (start + 4 + here) ++ ·)

/-- The greatest number of bytes of a row that stand on its own page. -/
def mostLocal : TreeKind → Nat
  | .numbered => l.usable - 35
  | .keyed => (l.usable - 12) * 64 / 255 - 23

/-- How many bytes of a row of a given size stand on its own page. -/
def localSize (kind : TreeKind) (size : Nat) : Nat :=
  let most := l.mostLocal kind
  if size ≤ most then size
  else
    let least := (l.usable - 12) * 32 / 255 - 23
    let fitting := least + (size - least) % (l.usable - 4)
    if fitting ≤ most then fitting else least

/-- The row at a position on a page, if it is complete. -/
def entryAt? (kind : TreeKind) (page position : Nat) : Option Entry :=
  let (size, afterSize) := varint bytes position
  let (number, body) := match kind with
    | .numbered => varint bytes afterSize
    | .keyed => (0, afterSize)
  let here := l.localSize kind size
  let own := bytes.extract body (body + here)
  let number : Int :=
    if number < Number.twoTo 63 then number else (number : Int) - (Number.twoTo 64 : Int)
  if l.start page + l.pageSize < body + here then none
  else if here = size then some ⟨number, own⟩
  else
    (l.chain? bytes (l.pages + 1) (bigEndian bytes 4 (body + here)) (size - here)).map
      fun rest => ⟨number, own ++ rest⟩

/-- The positions of the cells of a page whose list of positions begins at `list`. -/
def cellsOf (page list count : Nat) : List Nat :=
  (List.range count).map fun i =>
    l.start page + bigEndian bytes 2 (list + 2 * i) % l.pageSize

/-- The number of levels that a tree may have. -/
def levelLimit : Nat := 20

/-- The rows of the tree below a page, if it is sound; `fuel` bounds its height. -/
def entriesBelow (kind : TreeKind) (root : Nat) : (fuel : Nat) → (page : Nat) → Option (List Entry)
  | 0, _ => none
  | fuel + 1, page =>
    let header := l.start page + if page = 1 then imageHeaderSize else 0
    let count := bigEndian bytes 2 (header + 3)
    let type := byteAt bytes header
    if page = 0 ∨ l.pages < page ∨ (page ≠ root ∧ count = 0) then none
    else if type = kind.leaf then
      (l.cellsOf bytes page (header + 8) count).mapM (l.entryAt? bytes kind page)
    else if type = kind.branch then do
      let cells := l.cellsOf bytes page (header + 12) count
      let below ← cells.mapM fun cell => do
        let children ← entriesBelow kind root fuel (bigEndian bytes 4 cell)
        match kind with
        | .numbered => return children
        | .keyed => return children ++ [← l.entryAt? bytes kind page (cell + 4)]
      return below.flatten ++ (← entriesBelow kind root fuel (bigEndian bytes 4 (header + 8)))
    else none

/-- The rows of the tree with a root page, if it is sound. -/
def entries? (kind : TreeKind) (root : Nat) : Option (List Entry) :=
  l.entriesBelow bytes kind root levelLimit root

end Layout

end JobSearch.Image
