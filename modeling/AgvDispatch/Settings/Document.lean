import AgvDispatch.Ini.Reader
import AgvDispatch.Json.Reader
import AgvDispatch.Json5.Reader
import AgvDispatch.Ron.Reader
import AgvDispatch.Settings.Layer
import AgvDispatch.Toml.Reader
import AgvDispatch.Yaml.Reader
/-!
# Documents of settings

A layer of settings may be written in several formats, which the ending of the name of its document
tells apart. Whatever the format, a document of settings is a table.

* `DocumentFormat.ofName?` finds the format of a name.
* `DocumentFormat.read?` reads a document.
-/

namespace AgvDispatch

namespace Setting

/-! ### TOML -/

mutual

/-- The setting that a TOML value stands for. A point in time is a text. -/
def ofToml : Toml → Setting
  | .boolean b => boolean b
  | .integer n => integer n
  | .real x => real x
  | .text s => text s
  | .moment m => text m.text
  | .list items => list (ofTomlItems items)
  | .elements tables => list (ofTomlTables tables)
  | .table _ entries => table (ofTomlFields entries)

/-- The settings that the items of a list stand for. -/
def ofTomlItems : List Toml → List Setting
  | [] => []
  | item :: items => ofToml item :: ofTomlItems items

/-- The settings that the fields of a table stand for. -/
def ofTomlFields : Toml.Fields → Fields
  | [] => []
  | (name, value) :: entries => (name, ofToml value) :: ofTomlFields entries

/-- The settings that a list of tables stands for. -/
def ofTomlTables : List Toml.Fields → List Setting
  | [] => []
  | entries :: tables => table (ofTomlFields entries) :: ofTomlTables tables

end

/-! ### JSON -/

mutual

/-- The setting that a JSON value stands for. An integer that needs more than 64 bits with its sign
is a real number. -/
def ofJson : Json → Setting
  | .null => nothing
  | .bool b => boolean b
  | .integer n => if n < 9223372036854775808 then integer n else real (Float.ofInt n)
  | .real x => real x
  | .text s => text s
  | .list items => list (ofJsonItems items)
  | .record entries => table (ofEntries (ofJsonFields entries))

/-- The settings that the items of a list stand for. -/
def ofJsonItems : List Json → List Setting
  | [] => []
  | item :: items => ofJson item :: ofJsonItems items

/-- The settings that the fields of a record stand for. -/
def ofJsonFields : List (String × Json) → Fields
  | [] => []
  | (name, value) :: entries => (name, ofJson value) :: ofJsonFields entries

end

/-- The fields of a table, and nothing for anything else. -/
def fields? : Setting → Option Fields
  | table fields => some fields
  | _ => none

end Setting

/-- A format in which settings are written. -/
inductive DocumentFormat where
  /-- Sections of entries, each with a value that has a type. -/
  | toml
  /-- Records in braces. -/
  | json
  /-- Tables and lists by indentation. -/
  | yaml
  /-- Sections of entries, whose values are texts. -/
  | ini
  /-- Records in parentheses. -/
  | ron
  /-- Records in braces, with names without quotes and with comments. -/
  | json5
  deriving DecidableEq, Repr

namespace DocumentFormat

/-- The endings of names, each with its format. -/
def endings : List (String × DocumentFormat) :=
  [("toml", toml), ("json", json), ("yaml", yaml), ("yml", yaml), ("ini", ini), ("ron", ron),
    ("json5", json5)]

/-- The ending of the name of a file: what follows its last point, unless the name begins with that
point. -/
def ending? (name : String) : Option String :=
  match (name.splitOn ".").reverse with
  | _ :: [""] | [_] | [] => none
  | ending :: _ => some ending

/-- The format of the file of a name. -/
def ofName? (name : String) : Option DocumentFormat :=
  (ending? name).bind fun ending => endings.lookup ending

/-- The fields of the table that a document consists of. -/
def read? (format : DocumentFormat) (document : String) : Option Setting.Fields :=
  match format with
  | toml => (Toml.parse? document).map Setting.ofTomlFields
  | json => (Json.parse? document).bind fun value => (Setting.ofJson value).fields?
  | yaml => ((Yaml.parse? document).bind Yaml.toSetting?).bind Setting.fields?
  | ini => Ini.parse? document
  | ron => (Ron.parse? document).bind Setting.fields?
  | json5 => (Json5.parse? document).bind Setting.fields?

end DocumentFormat

end AgvDispatch
