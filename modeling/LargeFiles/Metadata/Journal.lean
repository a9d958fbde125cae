import LargeFiles.Metadata.Record

/-!
# The metadata journal

A store of metadata that keeps its entries in a file.  Since entries are never overwritten the
file only grows, by one record for each entry, and reading the records in order gives the tables
back.  A record that is damaged is skipped; a last record that is not whole is cut off when the
file is opened, so that the next record is appended after the last whole one.

The file is a list of bytes, which can be read and appended to without fail.  When it is forced to
the disk makes no difference to that.
-/

namespace LargeFiles.Metadata

/-- When the file is forced to the disk. -/
inductive SyncMode
  /-- After every record. -/
  | everyWrite
  /-- When the operating system sees fit. -/
  | osDefault
  deriving DecidableEq, Repr

/-- The settings of a journal. -/
structure JournalSettings where
  syncMode : SyncMode
  deriving DecidableEq, Repr

/-- An open journal: the bytes of its file and the tables held in memory. -/
structure Journal where
  file : Bytes
  tables : Metadata

namespace Journal

/-- The number of bytes of the whole records at the front of a file. -/
def keptSize (file : Bytes) : Nat := (Record.all file).foldr (fun record n => record.size + n) 0

/-- The tables of some entries; of entries with one key the first counts. -/
def replay (entries : List Entry) : Metadata :=
  entries.foldl (fun m e => (m.putIfAbsent e.key e.value).2) .empty

/-- Opens a file: reads its records and cuts off what follows the last whole one. -/
def openFile (file : Bytes) : Journal where
  file := file.take (keptSize file)
  tables := replay ((Record.all file).filterMap Record.entry?)

/-- Closes the journal and opens its file again. -/
def reopen (j : Journal) : Journal := openFile j.file

/-- The number of entries. -/
def size (j : Journal) : Nat := j.tables.size

/-- Puts a value under a key that has none, and tells what the key had.  The record goes to the
    end of the file before the value can be seen.  It is taken for granted that it gets there: an
    append that fails, after which the value would not be put, has no place in this function. -/
def putIfAbsent (j : Journal) (key : Key) (value : Value) : Option Value × Journal :=
  match h : j.tables.get? key with
  | some previous => (some previous, j)
  | none =>
    (none, ⟨j.file ++ Record.frame (Entry.payload ⟨key, value⟩), j.tables.add key value h⟩)

/-- How diagnostics show a journal that is kept at a path. -/
def inspect (j : Journal) (path : String) : String :=
  "JournalMetadataStore \x7b path: " ++ Text.Quoted.string path ++ ", entries: " ++
    toString j.size ++ " \x7d"

end Journal

end LargeFiles.Metadata
