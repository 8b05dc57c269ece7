/-!
# Upper case of plain words

Names that consist of the letters `A` to `Z` and the low line are recognised in any mixture of
cases. Case is a matter of Unicode: besides the small letters, a few other characters have an upper
case that is spelled with plain letters, and they are accepted as well. All other characters stay
as they are, since their upper case is never part of a plain name.
-/

namespace AgvDispatch.Text

/-- The characters outside ASCII whose upper case is spelled with plain letters. -/
def foreignSpellings : List (Char × String) :=
  [('ß', "SS"), ('ı', "I"), ('ſ', "S"), ('ﬀ', "FF"), ('ﬁ', "FI"), ('ﬂ', "FL"), ('ﬃ', "FFI"),
    ('ﬄ', "FFL"), ('ﬅ', "ST"), ('ﬆ', "ST")]

/-- The upper case of a character where it is spelled with plain letters, and the character itself
otherwise. -/
def upperSpelling (c : Char) : List Char :=
  match foreignSpellings.lookup c with
  | some spelling => spelling.toList
  | none => [c.toUpper]

/-- A text with every character replaced by its upper case. -/
def upper (text : String) : String :=
  String.ofList (text.toList.flatMap upperSpelling)

end AgvDispatch.Text
