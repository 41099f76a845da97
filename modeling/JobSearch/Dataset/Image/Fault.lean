/-!
# Faults of images

Why an image cannot be asked anything, or not about one of its tables.

## Main definitions

* `DeclarationFault` — why a declaration makes no sense.
* `ImageFault` — why an image cannot be asked.
-/

namespace JobSearch

/-- Why a declaration makes no sense. -/
inductive DeclarationFault where
  /-- A word or sign stands where it may not. -/
  | near (written : String)
  /-- What stands there is neither a word nor a sign. -/
  | unrecognized (written : String)
  /-- The declaration ends too early. -/
  | incomplete
  /-- The name is that of an earlier table or view. -/
  | repeatedTable (written : String) (isView : Bool)
  | repeatedColumn (name : String)
  | severalKeys (table : String)
  /-- A table whose rows are not numbered has no key. -/
  | noKey (table : String)
  /-- Numbers are to be counted up in a column that is not the number of the row. -/
  | uncounted
  /-- Numbers are to be counted up in a table whose rows are not numbered. -/
  | unnumbered
  /-- A column has no type where types are strict. -/
  | noType (table column : String)
  | unknownType (table column type : String)
  | unknownOption (written : String)
  | unknownRule (written : String)
  | noTable (name : String)
  /-- A view shows all columns of a table that it does not show. -/
  | notShown (name : String)
  /-- A view shows all columns of no table. -/
  | noTables
  | noColumn (name : String)
  /-- The default of a column depends on other columns. -/
  | unsteady (column : String)
  /-- The table begins behind the last page. -/
  | rootOutside
  /-- An index without words of its own belongs to no table. -/
  | orphan
  deriving DecidableEq

/-- A fault of a declaration in words. -/
def DeclarationFault.message : DeclarationFault → String
  | near written => "near \"" ++ written ++ "\": syntax error"
  | unrecognized written => "unrecognized token: \"" ++ written ++ "\""
  | incomplete => "incomplete input"
  | repeatedTable written isView =>
    (if isView then "view " else "table ") ++ written ++ " already exists"
  | repeatedColumn name => "duplicate column name: " ++ name
  | severalKeys table => "table \"" ++ table ++ "\" has more than one primary key"
  | noKey table => "PRIMARY KEY missing on table " ++ table
  | uncounted => "AUTOINCREMENT is only allowed on an INTEGER PRIMARY KEY"
  | unnumbered => "AUTOINCREMENT not allowed on WITHOUT ROWID tables"
  | noType table column => "missing datatype for " ++ table ++ "." ++ column
  | unknownType table column type =>
    "unknown datatype for " ++ table ++ "." ++ column ++ ": \"" ++ type ++ "\""
  | unknownOption written => "unknown table option: " ++ written
  | unknownRule written => "error in generated column \"" ++ written ++ "\""
  | noTable name => "no such table: main." ++ name
  | notShown name => "no such table: " ++ name
  | noTables => "no tables specified"
  | noColumn name => "no such column: " ++ name
  | unsteady column => "default value of column [" ++ column ++ "] is not constant"
  | rootOutside => "invalid rootpage"
  | orphan => "orphan index"

/-- Why an image cannot be asked anything. -/
inductive ImageFault where
  /-- The image begins like a database, but what follows is none. -/
  | notADatabase
  /-- A part of the image is missing or not what it should be. -/
  | malformed
  /-- The image needs a second file. -/
  | incomplete
  /-- The image is of a later format. -/
  | laterFormat
  /-- What the image says about one of its tables makes no sense. -/
  | badDeclaration (name : String) (reason : Option DeclarationFault)
  /-- A view shows what does not exist. -/
  | badView (reason : DeclarationFault)
  deriving DecidableEq

/-- A fault of an image in words. -/
def ImageFault.message : ImageFault → String
  | notADatabase => "file is not a database"
  | malformed => "database disk image is malformed"
  | incomplete => "unable to open database file"
  | laterFormat => "unsupported file format"
  | badView reason => reason.message
  | badDeclaration name reason =>
    "malformed database schema (" ++ name ++ ")" ++
      match reason with
      | some reason => " - " ++ reason.message
      | none => ""

end JobSearch
