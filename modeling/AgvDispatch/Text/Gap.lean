/-!
# Gaps between the words of a text

The words of a text may stand apart, with blanks and comments between them. A comment goes from two
slashes to the end of the line, or from a slash and a star to a star and a slash. Which characters
are blank and which end a line depends on the kind of text, and so does whether comments of the
second kind may stand within each other.
-/

namespace AgvDispatch.Text

/-- What follows a comment that is `depth` comments deep, if it ends. The comments within count only
if they may nest. -/
def skipComment? (nests : Bool) : Nat → List Char → Option (List Char)
  | 0, cs => some cs
  | depth + 1, cs =>
    match cs with
    | '*' :: '/' :: rest => skipComment? nests depth rest
    | '/' :: '*' :: rest =>
      if nests then skipComment? nests (depth + 2) rest
      else skipComment? nests (depth + 1) ('*' :: rest)
    | _ :: rest => skipComment? nests (depth + 1) rest
    | [] => none
termination_by _ cs => cs.length

/-- What may stand between words. -/
structure Gap where
  /-- Whether a character is blank. -/
  isBlank : Char → Bool
  /-- Whether a character ends a line. -/
  isLineEnd : Char → Bool
  /-- Whether comments may stand within each other. -/
  nests : Bool

/-- A text without the blanks and comments at its beginning, of which there are at most `fuel`. -/
def skipGapWithin? (gap : Gap) : Nat → List Char → Option (List Char)
  | 0, cs => some cs
  | fuel + 1, cs =>
    match cs with
    | '/' :: '/' :: rest => skipGapWithin? gap fuel (rest.dropWhile fun c => !gap.isLineEnd c)
    | '/' :: '*' :: rest =>
      (skipComment? gap.nests 1 rest).bind fun rest => skipGapWithin? gap fuel rest
    | '/' :: _ => none
    | c :: rest => if gap.isBlank c then skipGapWithin? gap fuel rest else some (c :: rest)
    | [] => some []

/-- A text without the blanks and comments at its beginning, unless a slash begins no comment or a
comment does not end. -/
def skipGap? (gap : Gap) (cs : List Char) : Option (List Char) :=
  skipGapWithin? gap cs.length cs

end AgvDispatch.Text
