import AgvDispatch.Text.Digit
/-!
# Quoted text in TOML

Text stands between two or six quotes, which are double or single. Within six quotes it may go over
several lines. Within double quotes a backslash has a meaning; within single quotes every character
stands for itself. Each reader takes the characters so far in reverse order and the rest of the
document, and yields the text and what follows it. Lines end with a line feed.
-/

namespace AgvDispatch.Toml

open Text (codedChar?)

/-- Whether a character is a blank within a line. -/
def isSpace (c : Char) : Bool := c == ' ' || c == '\t'

/-- Whether a character may stand in quoted text and in a comment. -/
def isPrintable (c : Char) : Bool :=
  c == '\t' || (decide (0x20 ≤ c.toNat) && c.toNat != 0x7F)

/-- The character that a letter after a backslash stands for. -/
def escaped? : Char → Option Char
  | 'b' => some '\x08'
  | 't' => some '\t'
  | 'n' => some '\n'
  | 'f' => some '\x0c'
  | 'r' => some '\r'
  | '"' => some '"'
  | '\\' => some '\\'
  | _ => none

/-- Text within double quotes. -/
def basic? : List Char → List Char → Option (String × List Char)
  | sofar, '"' :: rest => some (String.ofList sofar.reverse, rest)
  | sofar, '\\' :: 'u' :: a :: b :: c :: d :: rest => do
    basic? ((← codedChar? [a, b, c, d]) :: sofar) rest
  | sofar, '\\' :: 'U' :: a :: b :: c :: d :: e :: f :: g :: h :: rest => do
    basic? ((← codedChar? [a, b, c, d, e, f, g, h]) :: sofar) rest
  | sofar, '\\' :: c :: rest => do basic? ((← escaped? c) :: sofar) rest
  | sofar, c :: rest => if isPrintable c then basic? (c :: sofar) rest else none
  | _, [] => none

/-- Text within single quotes. -/
def literal? : List Char → List Char → Option (String × List Char)
  | sofar, '\x27' :: rest => some (String.ofList sofar.reverse, rest)
  | sofar, c :: rest => if isPrintable c then literal? (c :: sofar) rest else none
  | _, [] => none

/-- Whether a text has nothing but blanks on its first line, and a line after it. -/
def endsLine (cs : List Char) : Bool :=
  (cs.dropWhile isSpace).head? == some '\n'

/-- Text within six double quotes. A backslash at the end of a line joins the lines: it hides the
blanks and the line ends up to the next other character; `joining` says that this is going on. Up to
two quotes may stand directly before the closing ones. -/
def longBasic? (joining : Bool) : List Char → List Char → Option (String × List Char)
  | sofar, '"' :: '"' :: '"' :: '"' :: '"' :: rest =>
    some (String.ofList ('"' :: '"' :: sofar).reverse, rest)
  | sofar, '"' :: '"' :: '"' :: '"' :: rest => some (String.ofList ('"' :: sofar).reverse, rest)
  | sofar, '"' :: '"' :: '"' :: rest => some (String.ofList sofar.reverse, rest)
  | sofar, '\\' :: 'u' :: a :: b :: c :: d :: rest => do
    longBasic? false ((← codedChar? [a, b, c, d]) :: sofar) rest
  | sofar, '\\' :: 'U' :: a :: b :: c :: d :: e :: f :: g :: h :: rest => do
    longBasic? false ((← codedChar? [a, b, c, d, e, f, g, h]) :: sofar) rest
  | sofar, '\\' :: c :: rest =>
    match escaped? c with
    | some escape => longBasic? false (escape :: sofar) rest
    | none => if endsLine (c :: rest) then longBasic? true sofar rest else none
  | sofar, c :: rest =>
    if joining && (isSpace c || c == '\n') then longBasic? true sofar rest
    else if isPrintable c || c == '\n' then longBasic? false (c :: sofar) rest
    else none
  | _, [] => none

/-- Text within six single quotes. -/
def longLiteral? : List Char → List Char → Option (String × List Char)
  | sofar, '\x27' :: '\x27' :: '\x27' :: '\x27' :: '\x27' :: rest =>
    some (String.ofList ('\x27' :: '\x27' :: sofar).reverse, rest)
  | sofar, '\x27' :: '\x27' :: '\x27' :: '\x27' :: rest =>
    some (String.ofList ('\x27' :: sofar).reverse, rest)
  | sofar, '\x27' :: '\x27' :: '\x27' :: rest => some (String.ofList sofar.reverse, rest)
  | sofar, c :: rest =>
    if isPrintable c || c == '\n' then longLiteral? (c :: sofar) rest else none
  | _, [] => none

/-- A text without a line end at its beginning. -/
def skipLineEnd : List Char → List Char
  | '\n' :: rest => rest
  | cs => cs

/-- The quoted text at the beginning of a document. -/
def quoted? : List Char → Option (String × List Char)
  | '"' :: '"' :: '"' :: rest => longBasic? false [] (skipLineEnd rest)
  | '\x27' :: '\x27' :: '\x27' :: rest => longLiteral? [] (skipLineEnd rest)
  | '"' :: rest => basic? [] rest
  | '\x27' :: rest => literal? [] rest
  | _ => none

end AgvDispatch.Toml
