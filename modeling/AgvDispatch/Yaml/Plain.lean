import AgvDispatch.Yaml.Cursor
/-!
# YAML scalars without quotes

A scalar without quotes ends at a colon or a comment that stands apart, and within brackets and
braces at their marks. It may go over several lines, which are indented further than what it stands
in. The line ends between them are treated as in a scalar with quotes.
-/

namespace AgvDispatch.Yaml

/-- Whether a character may occur in a scalar without quotes, given what follows it. -/
def mayBePlain (inFlow : Bool) (c : Char) (rest : List Char) : Bool :=
  if c == ':' then !(standsApart rest || (inFlow && rest.head?.any isFlowMark))
  else !(inFlow && isFlowMark c)

/-- The characters up to the next blank, line end, or end of the scalar. -/
def plainRun (inFlow : Bool) : List Char → List Char
  | [] => []
  | c :: rest => if isGap c || !mayBePlain inFlow c rest then [] else c :: plainRun inFlow rest

/-- The place after blanks and line ends, the number of the line ends, and the blanks if there is
none. Where a line is indented too little, it has no tabs, unless nothing else is on it but a
comment. The end of a line with a comment does not count. -/
def plainGap? (least : Int) : Nat → Cursor → Nat → List Char → Option (Cursor × Nat × List Char)
  | 0, _, _, _ => none
  | fuel + 1, c, breaks, blanks =>
    match c.rest with
    | '\n' :: _ =>
      let counts := c.atLineStart || breaks == 0
      plainGap? least fuel c.nextLine (breaks + counts.toNat) []
    | ch :: _ =>
      if !isBlank ch then some (c, breaks, blanks)
      else if !c.atLineStart then plainGap? least fuel (c.advance 1) breaks (ch :: blanks)
      else if ch == '\t' && decide ((c.column : Int) < least) then do
        let c ← c.skipToLineEnd?
        if c.endsLine then plainGap? least fuel c breaks blanks else none
      else plainGap? least fuel (c.advance 1) breaks blanks
    | [] => some (c, breaks, blanks)

/-- The characters up to the end of the scalar, after those so far, which are in reverse order.
Those of the gap count only if the scalar goes on. -/
def plainFrom? (inFlow : Bool) (least : Int) :
    Nat → Cursor → List Char → List Char → Option (Cursor × List Char)
  | 0, _, _, _ => none
  | fuel + 1, c, gap, sofar =>
    if c.isAtDocumentMark || c.rest.head? == some '#' then some (c, sofar)
    else if inFlow && c.rest.head? == some '-' && (c.rest.drop 1).head?.any isFlowMark then none
    else
      let run := plainRun inFlow c.rest
      if run.isEmpty then some (c, sofar)
      else
        let c := c.take run.length
        let sofar := run.reverse ++ gap ++ sofar
        if !c.rest.head?.any isGap then some (c, sofar)
        else do
          let (c, breaks, blanks) ← plainGap? least (c.rest.length + 1) c 0 []
          if !inFlow && decide ((c.column : Int) < least) then some (c, sofar)
          else
            let gap := if breaks = 0 then blanks else foldedBreaks breaks
            plainFrom? inFlow least fuel c gap sofar

/-- The scalar without quotes that begins here, where lines are indented by `indent`. -/
def plain? (inFlow : Bool) (indent : Int) (c : Cursor) : Option (String × Cursor) :=
  if inFlow && decide ((c.column : Int) < indent + 1) then none
  else do
    let (c, sofar) ← plainFrom? inFlow (indent + 1) (c.rest.length + 1) c [] []
    return (String.ofList sofar.reverse, c)

end AgvDispatch.Yaml
