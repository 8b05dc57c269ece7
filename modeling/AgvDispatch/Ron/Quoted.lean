import AgvDispatch.Text.Digit
/-!
# Texts in RON

A text stands in double quotes and may go over several lines. A raw text has an `r` and any number
of hashes in front, and ends with a quote and as many hashes. A single character stands in single
quotes.
-/

namespace AgvDispatch.Ron

/-- The character that a letter after a backslash stands for. -/
def escaped? : Char → Option Char
  | '\x27' => some '\x27'
  | '"' => some '"'
  | '\\' => some '\\'
  | 'n' => some '\n'
  | 'r' => some '\r'
  | 't' => some '\t'
  | '0' => some '\x00'
  | _ => none

/-- The character that follows a backslash by name or by number, and how many characters name it. A
number in braces has one to six digits. -/
def escape? : List Char → Option (Char × Nat)
  | 'x' :: a :: b :: _ => (Text.codedChar? [a, b]).map fun c => (c, 3)
  | 'u' :: '\x7b' :: rest =>
    let digits := rest.takeWhile (· != '\x7d')
    if digits.isEmpty || decide (6 < digits.length) || digits.length == rest.length then none
    else (Text.codedChar? digits).map fun c => (c, digits.length + 3)
  | c :: _ => (escaped? c).map fun c => (c, 1)
  | [] => none

/-- A text up to its closing quote, and what follows it. The characters so far are in reverse order.
-/
def text? (sofar : List Char) : List Char → Option (String × List Char)
  | [] => none
  | '"' :: rest => some (String.ofList sofar.reverse, rest)
  | '\\' :: rest =>
    match escape? rest with
    | some (c, size) => text? (c :: sofar) (rest.drop size)
    | none => none
  | c :: rest => text? (c :: sofar) rest
termination_by cs => cs.length
decreasing_by all_goals (simp only [List.length_cons, List.length_drop]; omega)

/-- The rest of a raw text, which ends with a quote and a number of hashes. -/
def raw? (hashes : Nat) : List Char → List Char → Option (String × List Char)
  | _, [] => none
  | sofar, c :: rest =>
    if c == '"' && (List.replicate hashes '#').isPrefixOf rest then
      some (String.ofList sofar.reverse, rest.drop hashes)
    else raw? hashes (c :: sofar) rest

/-- The character in single quotes after the first of them. -/
def character? : List Char → Option (Char × List Char)
  | '\\' :: rest => do
    let (c, size) ← escape? rest
    match rest.drop size with
    | '\x27' :: rest => some (c, rest)
    | _ => none
  | c :: '\x27' :: rest => if c == '\x27' then none else some (c, rest)
  | _ => none

/-- The text with or without hashes at the beginning of a document. -/
def quoted? : List Char → Option (String × List Char)
  | '"' :: rest => text? [] rest
  | 'r' :: rest =>
    let hashes := rest.takeWhile (· == '#')
    match rest.drop hashes.length with
    | '"' :: rest => raw? hashes.length [] rest
    | _ => none
  | _ => none

end AgvDispatch.Ron
