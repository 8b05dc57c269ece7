import AgvDispatch.Text.Blank
/-!
# Listings

A **listing** is a text that holds entries separated by commas: capability labels, vehicle ids.
Blanks around an entry do not count, and an entry that is blank altogether is none.
-/

namespace AgvDispatch.Text

/-- A text cut at every occurrence of a separator. There is always at least one piece. -/
def splitAt (separator : Char) : List Char → List (List Char)
  | [] => [[]]
  | c :: cs =>
    if c = separator then [] :: splitAt separator cs
    else
      match splitAt separator cs with
      | [] => [[c]]
      | piece :: pieces => (c :: piece) :: pieces

/-- The entries of a listing, without the blanks around them. -/
def entries (text : String) : List (List Char) :=
  ((splitAt ',' text.toList).map trim).filter (!·.isEmpty)

/-- Whether a text occurs somewhere within another one. -/
def occursIn (part : List Char) : List Char → Bool
  | [] => part.isEmpty
  | c :: cs => part.isPrefixOf (c :: cs) || occursIn part cs

/-- The halves of a text on both sides of the first occurrence of a separator. -/
def cutAt? (separator : Char) : List Char → Option (List Char × List Char)
  | [] => none
  | c :: cs =>
    if c = separator then some ([], cs)
    else (cutAt? separator cs).map fun (left, right) => (c :: left, right)

end AgvDispatch.Text
