import LargeFiles.Filter.Depot

/-!
# Filter caches

What a filter has found out about the content it serves, by the name of the object: its MD5 and
its size, in two metadata tables of the filter's own.  Filters with one name share their tables.
-/

namespace LargeFiles.Filter

/-- The cache of the filters with a name. -/
structure Cache where
  filterName : String
  deriving DecidableEq, Repr

namespace Cache

variable {σ : Type}

/-- The table of MD5 digests. -/
def md5Table (cache : Cache) : String := "cache.filter." ++ cache.filterName ++ ".md5"

/-- The table of sizes. -/
def sizeTable (cache : Cache) : String := "cache.filter." ++ cache.filterName ++ ".size"

/-- Where the MD5 of an object is kept. -/
def md5Key (cache : Cache) (object : ObjectName) : Metadata.Key := ⟨cache.md5Table, object.toHex⟩

/-- Where the size of an object is kept. -/
def sizeKey (cache : Cache) (object : ObjectName) : Metadata.Key :=
  ⟨cache.sizeTable, object.toHex⟩

/-- The MD5 that is recorded for an object. -/
def md5? (cache : Cache) (object : ObjectName) : Task σ (Option String) :=
  .ofFunction fun depot =>
    ((depot.metadata.tables.getText (cache.md5Key object)).mapError .store, depot)

/-- The size that is recorded for an object. -/
def size? (cache : Cache) (object : ObjectName) : Task σ (Option UInt64) :=
  .ofFunction fun depot =>
    ((depot.metadata.tables.getNumber (cache.sizeKey object)).mapError .store, depot)

/-- Records a value, unless there is one. -/
def put (key : Metadata.Key) (value : Metadata.Value) : Task σ Unit :=
  .ofFunction fun depot =>
    (.ok (), { depot with metadata := (depot.metadata.putIfAbsent key value).2 })

/-- Records the MD5 of an object. -/
def putMd5 (cache : Cache) (object : ObjectName) (md5 : String) : Task σ Unit :=
  put (cache.md5Key object) (.text md5)

/-- Records the size of an object. -/
def putSize (cache : Cache) (object : ObjectName) (size : UInt64) : Task σ Unit :=
  put (cache.sizeKey object) (.number size)

/-- How diagnostics show a cache. -/
def inspect (cache : Cache) : String :=
  "FilterCache \x7b md5_table: " ++ Text.Quoted.string cache.md5Table ++ ", size_table: " ++
    Text.Quoted.string cache.sizeTable ++ " \x7d"

end Cache

end LargeFiles.Filter
