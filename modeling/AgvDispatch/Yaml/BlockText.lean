import AgvDispatch.Yaml.Cursor
/-!
# YAML scalars by lines

A scalar may be given by lines of its own, which follow a mark and are indented further than what it
stands in. Either each line stays a line, or lines are joined: then a line end becomes a space,
unless one of the two lines is indented further, and an empty line stands for a line end. What
becomes of the line ends after the last line is said behind the mark, and so may be the indentation.
-/

namespace AgvDispatch.Yaml

/-- What becomes of the line ends at the end of a text. -/
inductive LineEnds where
  /-- One of them stays. -/
  | clip
  /-- None of them stays. -/
  | strip
  /-- All of them stay. -/
  | keep
  deriving DecidableEq, Repr

/-! ### The mark -/

/-- The sign at the beginning of a text that says what becomes of line ends. -/
def lineEnds? : List Char → Option LineEnds
  | '+' :: _ => some .keep
  | '-' :: _ => some .strip
  | _ => none

/-- The digit at the beginning of a text, which is zero if there is none. -/
def digitAt (cs : List Char) : Nat :=
  match cs with
  | c :: _ => if c.isDigit then c.toNat - '0'.toNat else 0
  | [] => 0

/-- What stands behind the mark, in either order: what becomes of the line ends, by how much the
lines are indented further, or zero, and the number of characters. The digit is not zero. -/
def blockHeader? (cs : List Char) : Option (LineEnds × Nat × Nat) :=
  let isZero (cs : List Char) := cs.head? == some '0'
  match lineEnds? cs with
  | some ends =>
    let step := digitAt (cs.drop 1)
    if isZero (cs.drop 1) then none else some (ends, step, if step = 0 then 1 else 2)
  | none =>
    let step := digitAt cs
    if isZero cs then none
    else if step = 0 then some (.clip, 0, 0)
    else
      match lineEnds? (cs.drop 1) with
      | some ends => some (ends, step, 2)
      | none => some (.clip, step, 1)

/-! ### The lines -/

/-- The place in the first line that is not empty, after at most `depth` spaces of its indentation,
and the number of empty lines before it. -/
def skipIndent (depth : Nat) : Nat → Cursor → Nat → Cursor × Nat
  | 0, c, breaks => (c, breaks)
  | fuel + 1, c, breaks =>
    let spaces := (c.rest.takeWhile (· == ' ')).length
    let c := c.advance (min spaces (depth - c.column))
    match c.rest with
    | '\n' :: _ => skipIndent depth fuel c.nextLine (breaks + 1)
    | _ => (c, breaks)

/-- The place in the first line that is not empty, after its indentation, the number of empty lines
before it, and the longest indentation so far. -/
def skipFirstIndent : Nat → Cursor → Nat → Nat → Cursor × Nat × Nat
  | 0, c, breaks, longest => (c, breaks, longest)
  | fuel + 1, c, breaks, longest =>
    let c := c.advance (c.rest.takeWhile (· == ' ')).length
    let longest := max longest c.column
    match c.rest with
    | '\n' :: _ => skipFirstIndent fuel c.nextLine (breaks + 1) longest
    | _ => (c, breaks, longest)

/-- What lines have said so far. -/
structure BlockText where
  /-- The characters, in reverse order. -/
  sofar : List Char
  /-- Whether a line end follows them. -/
  hasBreak : Bool
  /-- The number of empty lines after it. -/
  breaks : Nat
  /-- Whether the last line begins with a blank. -/
  isDeep : Bool

/-- A text after a further line. -/
def BlockText.addLine (joins : Bool) (line : List Char) (t : BlockText) : BlockText :=
  let isDeep := line.head?.any isBlank
  let gap :=
    if joins && t.hasBreak && !t.isDeep && !isDeep then foldedBreaks (t.breaks + 1)
    else List.replicate (t.breaks + t.hasBreak.toNat) '\n'
  ⟨line.reverse ++ gap ++ t.sofar, false, 0, isDeep⟩

/-- The text after the lines that are indented by `depth`. -/
def blockLines (joins : Bool) (depth : Nat) : Nat → Cursor → BlockText → Cursor × BlockText
  | 0, c, t => (c, t)
  | fuel + 1, c, t =>
    if c.column != depth || c.rest.isEmpty || (depth == 0 && c.isAtMark "...") then (c, t)
    else
      let line := c.rest.takeWhile (· != '\n')
      let t := t.addLine joins line
      let c := c.advance line.length
      if c.rest.isEmpty then (c, t)
      else
        let (c, breaks) := skipIndent depth (c.rest.length + 1) c.nextLine 0
        blockLines joins depth fuel c { t with hasBreak := true, breaks }

/-- The characters of a text, in reverse order, after what becomes of the line ends. Where the
document ends without a line end, there is one all the same. -/
def BlockText.finish (ends : LineEnds) (depth : Nat) (c : Cursor) (t : BlockText) : List Char :=
  let lineEnd (is : Bool) := if is then ['\n'] else []
  let atEnd := c.rest.isEmpty && decide (max depth 1 ≤ c.column)
  match ends with
  | .strip => t.sofar
  | .clip => lineEnd atEnd ++ lineEnd t.hasBreak ++ t.sofar
  | .keep =>
    List.replicate t.breaks '\n' ++ lineEnd atEnd ++ lineEnd t.hasBreak ++ t.sofar

/-- The text of a scalar without any line. -/
def emptyBlock (ends : LineEnds) (hasBreak : Bool) (breaks : Nat) : List Char :=
  match ends, hasBreak with
  | .strip, _ | _, false => []
  | .clip, true => ['\n']
  | .keep, true => List.replicate (max breaks 1) '\n'

/-- The place in the first line that is not empty, the number of empty lines before it, and the
indentation of the lines, which is `step` further than `indent`, or as far as the first line. -/
def blockStart (indent : Int) (step : Nat) (c : Cursor) : Cursor × Nat × Nat :=
  let fuel := c.rest.length + 1
  if step = 0 then
    let (c, breaks, longest) := skipFirstIndent fuel c 0 0
    (c, breaks, max longest (indent + 1).toNat)
  else
    let depth := step + indent.toNat
    let (c, breaks) := skipIndent depth fuel c 0
    (c, breaks, depth)

/-- The scalar that is given by the lines after its mark, where lines are indented by `indent`. -/
def blockText? (joins : Bool) (indent : Int) (c : Cursor) : Option (String × Cursor) := do
  let (ends, step, size) ← blockHeader? (c.rest.drop 1)
  let c ← (c.take (1 + size)).skipToLineEnd?
  if !c.endsLine then none
  else
    let hasBreak := !c.rest.isEmpty
    let c := if hasBreak then c.nextLine else c
    if c.rest.head? == some '\t' then none
    else
      let (c, breaks, depth) := blockStart indent step c
      if c.rest.isEmpty then some (String.ofList (emptyBlock ends hasBreak breaks), c)
      else if c.column < depth ∧ indent < c.column then none
      else
        let (c, t) := blockLines joins depth (c.rest.length + 1) c ⟨[], false, breaks, false⟩
        some (String.ofList (t.finish ends depth c).reverse, c)

end AgvDispatch.Yaml
