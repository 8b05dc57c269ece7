import AgvDispatch.Text.Digit
import AgvDispatch.Yaml.Cursor
import AgvDispatch.Yaml.Token
/-!
# YAML names, tags and directives

A value may have a name, by which it is mentioned later, and a tag, which says what it is. The
handle of a tag is an abbreviation, and a directive before the document may say for what.
-/

namespace AgvDispatch.Yaml

/-! ### Names -/

/-- Whether a character may occur in the name of a value. -/
def isAnchorPart (c : Char) : Bool := !(isGap c || isFlowMark c || c == '\uFEFF')

/-- The name after a mark, and the place behind it. -/
def anchor? (c : Cursor) : Option (String × Cursor) :=
  let name := (c.rest.drop 1).takeWhile isAnchorPart
  if name.isEmpty then none else some (String.ofList name, c.take (name.length + 1))

/-! ### Tags -/

/-- Whether a character may occur in the full form of a tag. -/
def isUriPart (c : Char) : Bool :=
  c.isAlphanum || c == '-' || "#;/?:@&=+$,_.!~*\x27()[]%".toList.contains c

/-- Whether a character may occur in a tag after its handle. -/
def isTagPart (c : Char) : Bool := isUriPart c && !isFlowMark c && c != '!'

/-- The byte that two hexadecimal digits after a percent sign give. -/
def byte? : List Char → Option Nat
  | '%' :: a :: b :: _ => ([a, b].mapM (Text.digitIn? 16)).map (Text.ofDigits 16)
  | _ => none

/-- The character that is given by percent signs, and how many characters give it. Its number is one
byte, or the two bytes of which the first begins with the bits 110 and the second with 10. -/
def tagEscape? (cs : List Char) : Option (Char × Nat) := do
  let first ← byte? cs
  if first < 0x80 then some (Char.ofNat first, 3)
  else if first < 0xC0 ∨ 0xE0 ≤ first ∨ (0xD8 ≤ first ∧ first < 0xE0) then none
  else
    let second ← byte? (cs.drop 3)
    if 0x80 ≤ second ∧ second < 0xC0 then some (Char.ofNat (0x100 * first + second), 6) else none

/-- The part of a tag at the beginning of a text, and how many characters it takes. -/
def tagText? (isPart : Char → Bool) : Nat → List Char → Option (List Char × Nat)
  | 0, _ => none
  | _ + 1, [] => some ([], 0)
  | fuel + 1, c :: rest =>
    if !isPart c then some ([], 0)
    else do
      let (code, n) ← if c == '%' then tagEscape? (c :: rest) else some (c, 1)
      let (more, m) ← tagText? isPart fuel ((c :: rest).drop n)
      some (code :: more, n + m)

/-- The handle and the name of the tag at the beginning of a text, and how many characters it takes.
-/
def tagParts? (cs : List Char) : Option (String × String × Nat) :=
  match cs with
  | '!' :: '<' :: rest => do
    let (name, n) ← tagText? isUriPart (rest.length + 1) rest
    if (rest.drop n).head? == some '>' then some ("", String.ofList name, n + 3) else none
  | '!' :: rest => do
    let word := rest.takeWhile isWordPart
    match rest.drop word.length with
    | '!' :: rest =>
      let (name, n) ← tagText? isTagPart (rest.length + 1) rest
      if n = 0 then none
      else some (String.ofList ('!' :: word ++ ['!']), String.ofList name, word.length + n + 2)
    | rest =>
      let (more, n) ← tagText? isTagPart (rest.length + 1) rest
      let name := word ++ more
      if name.isEmpty then some ("", "!", 1)
      else some ("!", String.ofList name, word.length + n + 1)
  | _ => none

/-- The tag that begins here, and the place behind it. -/
def tag? (inFlow : Bool) (c : Cursor) : Option (Token × Cursor) := do
  let (handle, name, n) ← tagParts? c.rest
  let after := c.take n
  if standsApart after.rest || (inFlow && after.rest.head?.any isFlowMark) then
    some (.tag handle name, after)
  else none

/-! ### Directives -/

/-- The digits at the beginning of a text, of which there are one to nine. -/
def versionDigits? (cs : List Char) : Option (List Char × List Char) :=
  let digits := cs.takeWhile Char.isDigit
  if digits.isEmpty || decide (9 < digits.length) then none
  else some (digits, cs.drop digits.length)

/-- The rest of a text that begins with a version: two numbers with a point between them. -/
def afterVersion? (cs : List Char) : Option (List Char) := do
  match ← versionDigits? (cs.dropWhile isBlank) with
  | (_, '.' :: rest) => (versionDigits? rest).map (·.2)
  | _ => none

/-- The handle at the beginning of a text, and what follows it. -/
def handle? : List Char → Option (String × List Char)
  | '!' :: rest =>
    let word := rest.takeWhile isWordPart
    match rest.drop word.length with
    | '!' :: rest => some (String.ofList ('!' :: word ++ ['!']), rest)
    | rest => if word.isEmpty then some ("!", rest) else none
  | _ => none

/-- The handle and its meaning at the beginning of a text, and what follows them. -/
def handleMeaning? (cs : List Char) : Option (String × String × List Char) := do
  let (handle, rest) ← handle? (cs.dropWhile isBlank)
  let rest := rest.dropWhile isBlank
  if !rest.head?.any fun c => c == '!' || isTagPart c then none
  else
    let (meaning, n) ← tagText? isUriPart (rest.length + 1) rest
    let rest := rest.drop n
    if standsApart rest then some (handle, String.ofList meaning, rest) else none

/-- The directive that begins here, and the place on the next line. An unknown one has no meaning.
-/
def directive? (c : Cursor) : Option (Token × Cursor) := do
  let word := (c.rest.drop 1).takeWhile isWordPart
  let rest := c.rest.drop (word.length + 1)
  if word.isEmpty || !standsApart rest then none
  else
    let (token, rest) ←
      match String.ofList word with
      | "YAML" => (afterVersion? rest).map fun rest => (Token.version, rest)
      | "TAG" =>
        (handleMeaning? rest).map fun (handle, meaning, rest) =>
          (Token.tagHandle handle meaning, rest)
      | _ => some (Token.tagHandle "" "", rest.dropWhile (· != '\n'))
    let after ← (c.take (c.rest.length - rest.length)).skipToLineEnd?
    match after.rest with
    | [] => some (token, after)
    | '\n' :: _ => some (token, after.nextLine)
    | _ => none

end AgvDispatch.Yaml
