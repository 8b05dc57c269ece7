/-!
# YAML tokens

A document as a sequence of tokens, which say where lists and tables begin and end, whether by
indentation or by brackets and braces.
-/

namespace AgvDispatch.Yaml

/-- A token. -/
inductive Token where
  /-- The version that a document is written in. -/
  | version
  /-- What the handle of tags stands for. -/
  | tagHandle (handle meaning : String)
  /-- The mark before a document. -/
  | documentStart
  /-- The mark after a document. -/
  | documentEnd
  /-- The beginning of a list by indentation. -/
  | blockListStart
  /-- The beginning of a table by indentation. -/
  | blockTableStart
  /-- The end of a list or a table by indentation. -/
  | blockEnd
  /-- An opening bracket. -/
  | flowListStart
  /-- A closing bracket. -/
  | flowListEnd
  /-- An opening brace, or the beginning of a table with one entry that needs no brace. -/
  | flowTableStart
  /-- A closing brace, or the end of such a table. -/
  | flowTableEnd
  /-- The dash before an item of a list. -/
  | item
  /-- A comma. -/
  | comma
  /-- What comes before a key. -/
  | key
  /-- What comes before a value. -/
  | value
  /-- The mention of a value by its name. -/
  | mention (name : String)
  /-- The name of the value that follows. -/
  | anchor (name : String)
  /-- The tag of the value that follows. -/
  | tag (handle name : String)
  /-- A scalar, which may have quotes or be given by lines of its own, or neither. -/
  | scalar (isPlain : Bool) (text : String)
  deriving DecidableEq, Inhabited, Repr

end AgvDispatch.Yaml
