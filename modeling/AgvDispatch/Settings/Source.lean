import AgvDispatch.Fault
import AgvDispatch.Settings.Document
import AgvDispatch.Settings.FileTree
import AgvDispatch.Settings.Reading
/-!
# Sources of settings

Settings are read from a directory and from the environment. From the bottom to the top the layers
are the standard settings, the file `default.toml`, the file named by the variable `FLEET_ENV`, and
the variables whose names begin with `FLEET__`. Files may be missing, and their names may lack the
ending. Files and variables are handed over as data, so that reading settings is a function of them.

* `SettingsSource.document?` finds the document of a name.
* `SettingsSource.load` reads the settings of a directory.
-/

namespace AgvDispatch

/-- What settings are read from. -/
structure SettingsSource where
  /-- The text of the file at a path, if there is one. -/
  file? : String → Option String
  /-- The variables of the environment. -/
  environment : List (String × String)

namespace SettingsSource

/-- The source that consists of files at paths and of variables. -/
def ofFiles (files environment : List (String × String)) : SettingsSource :=
  ⟨(FileTree.ofFiles files).read?, environment⟩

/-! ### Paths -/

/-- The path of a name within a directory. A name that begins with a slash is a path of its own. -/
def inDirectory (directory name : String) : String :=
  if name.startsWith "/" || directory.isEmpty then name
  else if directory.endsWith "/" then directory ++ name
  else directory ++ "/" ++ name

/-- The last part of a path. -/
def lastPart (path : String) : String := ((FileTree.parts path).getLast?).getD ""

/-- A path up to the end of the last name in it, if there is one that is not the way back. -/
def named? (path : String) : Option String :=
  match (FileTree.parts path).reverse.dropWhile FileTree.stays with
  | [] | ".." :: _ => none
  | names => some ("/".intercalate names.reverse)

/-- A path with each of the endings of documents added, and the format of the ending. -/
def candidates (path : String) : List (String × DocumentFormat) :=
  match named? path with
  | none => []
  | some path => DocumentFormat.endings.map fun (ending, format) => (path ++ "." ++ ending, format)

/-- The names of the two files, which may lack their ending. -/
def fileNames (environment : List (String × String)) : List String :=
  ["default.toml", (environment.lookup "FLEET_ENV").getD "development"]

/-- The paths at which settings of a directory may be found. -/
def paths (directory : String) (environment : List (String × String)) : List String :=
  (fileNames environment).flatMap fun name =>
    let path := inDirectory directory name
    path :: (candidates path).map (·.1)

/-! ### Layers -/

/-- The document of a name, with its format. A file of exactly that name hides those with an ending
added, even if it is no document. -/
def document? (source : SettingsSource) (path : String) : Option (DocumentFormat × String) :=
  match source.file? path with
  | some document => (DocumentFormat.ofName? (lastPart path)).map fun format => (format, document)
  | none =>
    (candidates path).findSome? fun (path, format) =>
      (source.file? path).map fun document => (format, document)

/-- The layer of a file, which is empty if the file is missing. -/
def fileLayer (source : SettingsSource) (path : String) : Except Fault Setting.Fields :=
  match source.document? path with
  | none => .ok []
  | some (format, document) =>
    match format.read? document with
    | some fields => .ok fields
    | none => .error (.settingsUnreadable (path ++ " is malformed"))

/-- The lowest layer. What it leaves out is filled in when settings are read. -/
def standardLayer : Setting.Fields :=
  [("logging.level", .text "info"), ("logging.json", .boolean false),
    ("spatial.grid_size", .integer 4), ("traffic.buffer_radius", .real 300.0)]

/-- The settings of a directory, which need not be valid. -/
def load (source : SettingsSource) (directory : String) : Except Fault (Settings Float) := do
  let files ← (fileNames source.environment).mapM fun name =>
    source.fileLayer (inDirectory directory name)
  let layers := standardLayer :: files ++ [Setting.ofEnvironment source.environment]
  match Settings.ofSetting? (layers.foldl Setting.overlay (.table [])) with
  | some settings => return settings
  | none => throw (.settingsUnreadable "a value has the wrong form")

end SettingsSource

end AgvDispatch
