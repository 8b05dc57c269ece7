import AgvDispatch.Text.Digit
import AgvDispatch.Yaml.Cursor
/-!
# YAML scalars in quotes

A scalar in quotes may go over several lines. A line end stands for a space, and each further one
stands for itself; the blanks around them do not count. In double quotes a backslash gives a
character by a letter or a number, and hides the end of a line.
-/

namespace AgvDispatch.Yaml

/-- The character that a letter after a backslash stands for. -/
def escaped? : Char → Option Char
  | '0' => some '\x00'
  | 'a' => some '\x07'
  | 'b' => some '\x08'
  | 't' => some '\t'
  | '\t' => some '\t'
  | 'n' => some '\n'
  | 'v' => some '\x0b'
  | 'f' => some '\x0c'
  | 'r' => some '\r'
  | 'e' => some '\x1b'
  | ' ' => some ' '
  | '"' => some '"'
  | '/' => some '/'
  | '\\' => some '\\'
  | 'N' => some '\u0085'
  | '_' => some '\u00a0'
  | 'L' => some '\u2028'
  | 'P' => some '\u2029'
  | _ => none

/-- The number of digits that follow a letter after a backslash. -/
def codeLength? : Char → Option Nat
  | 'x' => some 2
  | 'u' => some 4
  | 'U' => some 8
  | _ => none

/-- The character that follows a backslash by name or by number, and how many characters name it. -/
def escape? : List Char → Option (Char × Nat)
  | c :: rest =>
    match codeLength? c with
    | some n =>
      let digits := rest.take n
      if digits.length = n then (Text.codedChar? digits).map fun code => (code, n + 1) else none
    | none => (escaped? c).map fun c => (c, 1)
  | [] => none

/-- The characters up to the next blank, line end or closing quote, after those so far, which are in
reverse order, and whether a hidden line end comes last. -/
def quotedRun? (quote : Char) :
    Nat → Cursor → List Char → Option (Cursor × List Char × Bool)
  | 0, _, _ => none
  | fuel + 1, c, sofar =>
    match c.rest with
    | [] => some (c, sofar, false)
    | ch :: rest =>
      if isGap ch then some (c, sofar, false)
      else if ch == quote then
        if quote == '\x27' && rest.head? == some quote then
          quotedRun? quote fuel (c.take 2) (quote :: sofar)
        else some (c, sofar, false)
      else if ch == '\\' && quote == '"' then
        if rest.head? == some '\n' then some ((c.take 1).nextLine, sofar, true)
        else do
          let (code, n) ← escape? rest
          quotedRun? quote fuel (c.take (n + 1)) (code :: sofar)
      else quotedRun? quote fuel (c.take 1) (ch :: sofar)

/-- The place after blanks and line ends, the number of the line ends, and the blanks if there is
none. The indentation of a line has no tabs. -/
def quotedGap? (indent : Int) (hidden : Bool) :
    Nat → Cursor → Nat → List Char → Option (Cursor × Nat × List Char)
  | 0, _, _, _ => none
  | fuel + 1, c, breaks, blanks =>
    match c.rest with
    | '\n' :: _ => quotedGap? indent hidden fuel c.nextLine (breaks + 1) []
    | ch :: _ =>
      if !isBlank ch then some (c, breaks, blanks)
      else if !hidden && breaks = 0 then
        quotedGap? indent hidden fuel (c.advance 1) breaks (ch :: blanks)
      else if ch == '\t' && decide ((c.column : Int) < indent) then none
      else quotedGap? indent hidden fuel (c.advance 1) breaks blanks
    | [] => some (c, breaks, blanks)

/-- What blanks and line ends stand for, in reverse order. -/
def gapText (hidden : Bool) (breaks : Nat) (blanks : List Char) : List Char :=
  if hidden then List.replicate breaks '\n'
  else if breaks = 0 then blanks
  else foldedBreaks breaks

/-- The characters up to the closing quote, after those so far, which are in reverse order. The
lines are indented no less than what the scalar stands in. -/
def quotedFrom? (quote : Char) (indent : Int) :
    Nat → Cursor → List Char → Option (Cursor × List Char)
  | 0, _, _ => none
  | fuel + 1, c, sofar =>
    if c.isAtDocumentMark || c.rest.isEmpty || decide ((c.column : Int) < indent) then none
    else do
      let (c, sofar, hidden) ← quotedRun? quote (c.rest.length + 1) c sofar
      if c.rest.head? == some quote then some (c.take 1, sofar)
      else
        let (c, breaks, blanks) ← quotedGap? indent hidden (c.rest.length + 1) c 0 []
        quotedFrom? quote indent fuel c (gapText hidden breaks blanks ++ sofar)

/-- The scalar in quotes that begins here. What may follow it depends on whether brackets or braces
are around it. -/
def quoted? (inFlow : Bool) (indent : Int) (c : Cursor) : Option (String × Cursor) :=
  match c.rest with
  | [] => none
  | quote :: rest => do
    let (after, sofar) ← quotedFrom? quote indent (rest.length + 1) (c.take 1) []
    let after ← after.skipToLineEnd?
    let isFollowed := match after.rest with
      | [] => true
      | ch :: _ =>
        ch == '\n' || (inFlow && (ch == ',' || ch == '\x7d' || ch == ']'))
          || (ch == ':' && (inFlow || c.line == after.line))
    if isFollowed then some (String.ofList sofar.reverse, after) else none

end AgvDispatch.Yaml
