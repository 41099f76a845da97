import JobSearch.Dataset.Store
import JobSearch.Posting.Reader
import JobSearch.Query.Attributes
import JobSearch.Report.Answer

/-!
# Browsing postings

Pages of postings with their labels attached, and single postings. The labels can be asked for
posting by posting, or for all postings of a page at once; the page is the same.

## Main definitions

* `Store.attachEach`, `Store.attachAll` — postings with their labels, in two ways.
* `Page`, `Store.page` — one page of the postings that match.
* `Store.posting?` — the posting with an id.
-/

namespace JobSearch

open Query

/-- The id of a row. -/
def rowId (row : Record) : Except Fault Int := Posting.readId (.object row)

/-- The owner and the label in a row of a result, if the row has a label. -/
def ownedLabel? (row : List Cell) : Option (Cell × Json) :=
  match row with
  | [owner, label] => if label.isNull then none else some (owner, label.toJson)
  | _ => none

/-- All labels in the rows of a result, absent ones left out. -/
def labelsIn (r : Result Cell) : List Json := (r.rows.filterMap ownedLabel?).map (·.2)

/-- The labels in the rows of a result with the ids of their owners, absent ones left out. -/
def labelsByOwner (r : Result Cell) : Except Fault (List (Int × Json)) :=
  (r.rows.filterMap ownedLabel?).mapM fun p => do return (← p.1.toJson.readInteger, p.2)

/-- Those of some labels that belong to a posting. -/
def labelsOwnedBy (id : Int) (labels : List (Int × Json)) : List Json :=
  (labels.filter fun p => p.1 = id).map (·.2)

namespace Store

/-- The posting of a row, its labels asked for by its id. -/
def attach (store : Store) (row : Record) : Except Fault Posting := do
  let id ← rowId row
  let attached ← attachedFields.mapM fun f => do
    return (f.key, Json.list (labelsIn (← store.run (Statement.attributesOf f [id]))))
  Posting.read (.object row) (.object attached)

/-- The postings of rows, the labels asked for row by row. -/
def attachEach (store : Store) (rows : List Record) : Except Fault (List Posting) :=
  rows.mapM store.attach

/-- The postings of rows, the labels of each field asked for at once. -/
def attachAll (store : Store) (rows : List Record) : Except Fault (List Posting) :=
  if rows.isEmpty then .ok []
  else do
    let ids ← rows.mapM rowId
    let found ← attachedFields.mapM fun f => do
      return (f.key, ← labelsByOwner (← store.run (Statement.attributesOf f ids)))
    rows.mapM fun row => do
      let id ← rowId row
      Posting.read (.object row)
        (.object (found.map fun p => (p.1, Json.list (labelsOwnedBy id p.2))))

/-- The postings of rows, in one of the two ways. -/
def attachTo (store : Store) (atOnce : Bool) (rows : List Record) :
    Except Fault (List Posting) :=
  if atOnce then store.attachAll rows else store.attachEach rows

end Store

/-- What page of which postings is asked for. -/
structure PageRequest where
  number : Int
  size : Int
  criteria : Criteria
  search : String
  sortKey : Option String
  policy : Policy

/-- One page of the postings that match. -/
structure Page where
  postings : List Posting
  /-- The number of all postings that match. -/
  total : Int
  /-- The number of pages. -/
  pages : Int
  number : Int
  size : Int

/-- A page as a document. -/
def Page.toJson (p : Page) : Json :=
  .object [
    ("entities", .list (p.postings.map Posting.toJson)), ("total_count", .int p.total),
    ("total_pages", .int p.pages), ("page", .int p.number), ("page_size", .int p.size)]

namespace Store

/-- The number of postings that satisfy a predicate. -/
def count (store : Store) (p : Predicate) : Except Fault Int := do
  let r ← store.run (Statement.count p)
  match r.scalar? (.int 0) with
  | some c => c.toJson.readInteger
  | none => return 0

/-- One page of the postings that match. -/
def page (store : Store) (atOnce : Bool) (q : PageRequest) : Except Fault Page := do
  let p ← (Predicate.compile q.criteria q.search q.policy none).mapError .unknownField
  let total ← store.count p
  let statement ← Statement.page p q.sortKey q.number q.size (← store.hasConversion)
  let rows := (← store.run statement).documents
  let postings ← store.attachTo atOnce rows
  let pages ← totalPages total q.size
  return ⟨postings, total, pages, q.number, q.size⟩

/-- The posting with an id, if there is one. -/
def posting? (store : Store) (id : Int) : Except Fault (Option Posting) := do
  let r ← store.run (Statement.posting id (← store.hasConversion))
  match r.documents with
  | [] => return none
  | row :: _ => return some (← store.attach row)

end Store

end JobSearch
