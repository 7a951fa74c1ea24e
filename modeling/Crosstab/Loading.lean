import Crosstab.Catalog

/-!
# Loading files

A table is created from the files of a directory whose names start with its own, from those in one
format, the preferred one that is there. A layer is loaded if there are files for its samples; the
table that describes its fields comes with it.

Models `load_layers` and `_load_table` of `FlowDataSource`.
-/

namespace Crosstab

/-- A directory and the names of what is in it. -/
structure Directory where
  path : String
  files : List String
  deriving Repr, DecidableEq

/-- A format of files. -/
inductive FileFormat where
  | parquet
  | csv
  deriving Repr, DecidableEq

namespace FileFormat

/-- The formats, the preferred one first. -/
def all : List FileFormat := [.parquet, .csv]

/-- The suffix of files in the format. -/
def suffix : FileFormat → String
  | .parquet => "parquet"
  | .csv => "csv"

/-- The function that reads files of the format. -/
def reader : FileFormat → String
  | .parquet => "read_parquet"
  | .csv => "read_csv_auto"

end FileFormat

namespace Directory

/-- A path in its plain form, without empty and dot parts; two leading slashes stay two. -/
def plainPath (path : String) : String :=
  let cs := path.toList
  let slashes := (cs.takeWhile (· == '/')).length
  let root := if slashes == 0 then "" else if slashes == 2 then "//" else "/"
  let parts := (Text.splitOn '/' path).filter fun part => !(part.isEmpty || part == ".")
  let plain := root ++ "/".intercalate parts
  if plain.isEmpty then "." else plain

/-- Whether a file belongs to a table in a format. -/
def belongs (table : String) (format : FileFormat) (file : String) : Bool :=
  let name := file.toList
  let ending := '.' :: format.suffix.toList
  table.toList.isPrefixOf name && ending.isSuffixOf (name.drop table.length)

/-- The format in which there are files for a table. -/
def formatOf? (table : String) (d : Directory) : Option FileFormat :=
  FileFormat.all.find? fun format => d.files.any (belongs table format)

/-- The path of what has a name in the directory. -/
def pathOf (name : String) (d : Directory) : String :=
  if d.path == "." then name
  else if d.path.toList.getLast? == some '/' then d.path ++ name
  else d.path ++ "/" ++ name

/-- The statement that creates a table from its files. -/
def createStatement (table : String) (format : FileFormat) (d : Directory) : String :=
  let pattern := Text.replaceChar '\'' "''" (d.pathOf s!"{table}*.{format.suffix}")
  s!"CREATE OR REPLACE TABLE {table} AS SELECT * FROM {format.reader}('{pattern}')"

/-- The tables of a layer that there are files for, with their formats: none without samples. -/
def layerTables (layer : Layer) (d : Directory) : List (String × FileFormat) :=
  match d.formatOf? layer.dataTable with
  | none => []
  | some format =>
    (layer.dataTable, format) ::
      (d.formatOf? layer.fieldsTable).toList.map fun f => (layer.fieldsTable, f)

/-- The tables of layers that there are files for, in the order they are created. -/
def tablesFor (layers : List Layer) (d : Directory) : List (String × FileFormat) :=
  layers.flatMap d.layerTables

/-- The layers that there are samples for. -/
def loaded (layers : List Layer) (d : Directory) : List Layer :=
  layers.filter fun layer => (d.formatOf? layer.dataTable).isSome

end Directory

/-- The statement that a connection starts with, if a number of threads is set. -/
def connectStatements (threads? : Option Int) : List String :=
  threads?.toList.map fun n => s!"SET threads TO {n}"

/-- The statements that load layers from a directory. -/
def loadStatements (threads? : Option Int) (layers : List Layer) (d : Directory) : List String :=
  connectStatements threads? ++
    (d.tablesFor layers).map fun (table, format) => d.createStatement table format

/-- The tables that are there once layers are loaded. -/
def loadedTables (layers : List Layer) (d : Directory) (contents : Tables) : Tables :=
  contents.filter fun t => (d.tablesFor layers).any (·.1 == t.1)

/-- The number of rows of each layer that is loaded. -/
def loadedCounts (layers : List Layer) (d : Directory) (contents : Tables) : List (Layer × Nat) :=
  (d.loaded layers).map fun layer =>
    (layer, ((valueOf? layer.dataTable contents).map (·.rows.length)).getD 0)

end Crosstab
