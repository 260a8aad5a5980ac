import DataMatch.Yaml.Basic

/-! The text of scalars. Line breaks inside plain and quoted scalars are folded; block scalars keep
them or fold them, as their header says. -/
namespace DataMatch.Yaml

/-- White space and line breaks between two words of a scalar. All lists are in reverse. -/
structure Gap where
  blanks : List Char
  broken : Bool
  /-- The first line break; none if it was escaped. -/
  first : List Char
  more : List Char

namespace Gap

def blank (c : Char) : Gap := ⟨[c], false, [], []⟩

def ofBreak (c : Char) : Gap := ⟨[], true, [c], []⟩

def escaped : Gap := ⟨[], true, [], []⟩

def addBlank (g : Gap) (c : Char) : Gap :=
  if g.broken then g else { g with blanks := c :: g.blanks }

def addBreak (g : Gap) (c : Char) : Gap :=
  if g.broken then { g with more := c :: g.more } else ofBreak c

/-- What a gap puts into the scalar, in reverse. One line break becomes a space, and of several the
first is dropped. -/
def folded (g : Gap) : List Char :=
  if !g.broken then g.blanks
  else if g.first = ['\n'] then
    if g.more = [] then [' '] else g.more
  else g.more ++ g.first

end Gap

structure ScalarText where
  text : List Char
  broken : Bool
  cursor : Cursor

def isFlowIndicator (c : Char) : Bool :=
  c == ',' || c == '[' || c == ']' || c == '\x7b' || c == '\x7d'

def endsPlain (flow : Bool) (c : Char) (cs : List Char) : Bool :=
  (c == ':' && endsWord cs) || (flow && isFlowIndicator c)

def isBadColon (flow : Bool) (c : Char) (cs : List Char) : Bool :=
  flow && c == ':' && cs.head?.any fun d => isFlowIndicator d || d == '?'

/-- A plain scalar. `acc` is its text so far in reverse, and `gap` is what came after that. Outside
flow collections its lines are indented to at least the column `indent`. -/
def plain (flow : Bool) (indent : Int) (acc : List Char) (gap : Option Gap) (p : Position) :
    List Char → Except Problem ScalarText
  | [] => .ok ⟨acc.reverse, gap.any (·.broken), ⟨p, []⟩⟩
  | '\r' :: '\n' :: cs =>
    plain flow indent acc (some (gap.elim (.ofBreak '\n') (·.addBreak '\n'))) (p.newline 2) cs
  | c :: cs =>
    if isBreak c then
      let b := normalBreak c
      plain flow indent acc (some (gap.elim (.ofBreak b) (·.addBreak b))) (p.newline 1) cs
    else if isSpaceOrTab c then
      if gap.any (·.broken) && p.column < indent && c == '\t' then .error .tabIndentation
      else plain flow indent acc (some (gap.elim (.blank c) (·.addBlank c))) p.next cs
    else
      let stop : Except Problem ScalarText :=
        .ok ⟨acc.reverse, gap.any (·.broken), ⟨p, c :: cs⟩⟩
      if gap.isSome && ((!flow && p.column < indent) || atMarker p (c :: cs) || c == '#') then stop
      else if isBadColon flow c cs then .error .colonInFlow
      else if endsPlain flow c cs then stop
      else plain flow indent (c :: (gap.elim [] Gap.folded ++ acc)) none p.next cs

def singleQuoted (acc : List Char) (gap : Option Gap) (p : Position) :
    List Char → Except Problem ScalarText
  | [] => .error .openQuote
  | '\r' :: '\n' :: cs =>
    singleQuoted acc (some (gap.elim (.ofBreak '\n') (·.addBreak '\n'))) (p.newline 2) cs
  | c :: cs =>
    if isBreak c then
      let b := normalBreak c
      singleQuoted acc (some (gap.elim (.ofBreak b) (·.addBreak b))) (p.newline 1) cs
    else if isSpaceOrTab c then
      singleQuoted acc (some (gap.elim (.blank c) (·.addBlank c))) p.next cs
    else if atMarker p (c :: cs) then
      .error .markerInQuotes
    else
      let acc := gap.elim [] Gap.folded ++ acc
      if c = '\'' then
        match cs with
        | '\'' :: cs => singleQuoted ('\'' :: acc) none (p.advance 2) cs
        | cs => .ok ⟨acc.reverse, false, ⟨p.next, cs⟩⟩
      else
        singleQuoted (c :: acc) none p.next cs

def escapes : List (Char × Char) :=
  [('0', '\x00'), ('a', '\x07'), ('b', '\x08'), ('t', '\t'), ('\t', '\t'), ('n', '\n'),
    ('v', '\x0b'), ('f', '\x0c'), ('r', '\r'), ('e', '\x1b'), (' ', ' '), ('"', '"'), ('/', '/'),
    ('\\', '\\'), ('N', '\u0085'), ('_', '\u00a0'), ('L', '\u2028'), ('P', '\u2029')]

def hexChar? (digits : List Char) : Option Char := do
  let values ← digits.mapM Text.hexDigit?
  let code := values.foldl (fun n d => n * 16 + d) 0
  if (0xD800 ≤ code && code ≤ 0xDFFF) || 0x10FFFF < code then none else some (Char.ofNat code)

def doubleQuoted (acc : List Char) (gap : Option Gap) (p : Position) :
    List Char → Except Problem ScalarText
  | [] => .error .openQuote
  | '\r' :: '\n' :: cs =>
    doubleQuoted acc (some (gap.elim (.ofBreak '\n') (·.addBreak '\n'))) (p.newline 2) cs
  | c :: cs =>
    if isBreak c then
      let b := normalBreak c
      doubleQuoted acc (some (gap.elim (.ofBreak b) (·.addBreak b))) (p.newline 1) cs
    else if isSpaceOrTab c then
      doubleQuoted acc (some (gap.elim (.blank c) (·.addBlank c))) p.next cs
    else if atMarker p (c :: cs) then
      .error .markerInQuotes
    else
      let acc := gap.elim [] Gap.folded ++ acc
      if c = '"' then
        .ok ⟨acc.reverse, false, ⟨p.next, cs⟩⟩
      else if c = '\\' then
        match cs with
        | '\r' :: '\n' :: cs => doubleQuoted acc (some .escaped) (p.next.newline 2) cs
        | 'x' :: a :: b :: cs =>
          match hexChar? [a, b] with
          | some d => doubleQuoted (d :: acc) none (p.advance 4) cs
          | none => .error .badEscape
        | 'u' :: a :: b :: c :: d :: cs =>
          match hexChar? [a, b, c, d] with
          | some d => doubleQuoted (d :: acc) none (p.advance 6) cs
          | none => .error .badEscape
        | 'U' :: a :: b :: c :: d :: e :: f :: g :: h :: cs =>
          match hexChar? [a, b, c, d, e, f, g, h] with
          | some d => doubleQuoted (d :: acc) none (p.advance 10) cs
          | none => .error .badEscape
        | e :: cs =>
          if isBreak e then doubleQuoted acc (some .escaped) (p.next.newline 1) cs
          else
            match escapes.lookup e with
            | some d => doubleQuoted (d :: acc) none (p.advance 2) cs
            | none => .error .badEscape
        | [] => .error .badEscape
      else
        doubleQuoted (c :: acc) none p.next cs

inductive Chomping where
  | strip
  | clip
  | keep
deriving DecidableEq, Repr

structure BlockHeader where
  chomping : Chomping
  increment : Option Nat

def chompingOf? : Char → Option Chomping
  | '+' => some .keep
  | '-' => some .strip
  | _ => none

def blockHeader (cs : List Char) : Except Problem (BlockHeader × Nat) :=
  let chomping := cs.head?.bind chompingOf?
  let afterChomping := if chomping.isSome then cs.drop 1 else cs
  let increment := (afterChomping.head?.filter Char.isDigit).map fun c => c.toNat - 48
  let afterIncrement := if increment.isSome then afterChomping.drop 1 else afterChomping
  let late := if chomping.isNone && increment.isSome then afterIncrement.head?.bind chompingOf?
    else none
  let rest := if late.isSome then afterIncrement.drop 1 else afterIncrement
  if increment = some 0 then .error .badBlockHeader
  else .ok (⟨(chomping.or late).getD .clip, increment⟩, cs.length - rest.length)

structure Block where
  indent : Option Nat
  /-- The largest column of the lines before it is known. -/
  widest : Nat
  acc : List Char
  /-- The break of the last line, and those of the empty lines after it. -/
  lineBreak : List Char
  emptyLines : List Char
  /-- Whether the last line begins with white space, so that its breaks are not folded. -/
  indented : Bool
  inLine : Bool

/-- The text up to a line that begins with `c`: a single break between two lines that are not
indented becomes a space in a folded scalar. -/
def Block.joined (b : Block) (literal : Bool) (c : Char) : List Char :=
  if !literal && b.lineBreak = ['\n'] && !b.indented && !isSpaceOrTab c then
    if b.emptyLines = [] then ' ' :: b.acc else b.emptyLines ++ b.acc
  else
    b.emptyLines ++ b.lineBreak ++ b.acc

def Block.text (b : Block) (chomping : Chomping) : List Char :=
  match chomping with
  | .strip => b.acc.reverse
  | .clip => (b.lineBreak ++ b.acc).reverse
  | .keep => (b.emptyLines ++ b.lineBreak ++ b.acc).reverse

def Block.isIndentation (b : Block) (column : Nat) : Bool := b.indent.all (column < ·)

def blockLines (literal : Bool) (chomping : Chomping) (parent : Int) (b : Block) (p : Position) :
    List Char → Except Problem ScalarText
  | [] => .ok ⟨b.text chomping, true, ⟨p, []⟩⟩
  | '\r' :: '\n' :: cs =>
    if b.inLine then
      blockLines literal chomping parent { b with inLine := false, lineBreak := ['\n'] }
        (p.newline 2) cs
    else
      blockLines literal chomping parent
        { b with widest := max b.widest p.column, emptyLines := '\n' :: b.emptyLines }
        (p.newline 2) cs
  | c :: cs =>
    if b.inLine then
      if isBreak c then
        blockLines literal chomping parent
          { b with inLine := false, lineBreak := [normalBreak c] } (p.newline 1) cs
      else
        blockLines literal chomping parent { b with acc := c :: b.acc } p.next cs
    else if c = ' ' && b.isIndentation p.column then
      blockLines literal chomping parent b p.next cs
    else if c = '\t' && b.isIndentation p.column then
      .error .tabIndentation
    else
      let widest := max b.widest p.column
      if isBreak c then
        blockLines literal chomping parent
          { b with widest := widest, emptyLines := normalBreak c :: b.emptyLines } (p.newline 1) cs
      else
        let indent := b.indent.getD (max (max widest (parent + 1).toNat) 1)
        if p.column = indent then
          blockLines literal chomping parent
            ⟨some indent, widest, c :: b.joined literal c, [], [], isSpaceOrTab c, true⟩ p.next cs
        else
          .ok ⟨b.text chomping, true, ⟨p, c :: cs⟩⟩

def blockScalar (literal : Bool) (parent : Int) (c : Cursor) : Except Problem ScalarText := do
  let (header, width) ← blockHeader c.rest
  let c := skipComment (c.advance width)
  if !endsLine c.rest then .error .badBlockHeader
  let c := skipBreak c
  let indent := header.increment.map fun n => (max parent 0).toNat + n
  blockLines literal header.chomping parent ⟨indent, 0, [], [], [], false, false⟩ c.pos c.rest

end DataMatch.Yaml
