/-
Python's `re` patterns, as far as `hydrogram/filters.py` compiles them: the abstract syntax that
`sre_parse` produces, and the parser from a pattern string to it.

The command filter builds its patterns by pasting the configured command name and the bot's
username into a template (`rf"^(?:{cmd}(?:@?{username})?)(?:\s|$)"`), so the command name is read
as regular-expression syntax. Modelling that faithfully needs the parser itself, not a literal
comparison. `parse` follows `sre_parse._parse_sub`/`_parse`/`_escape`/`_class_escape` of
Python 3.9 and 3.10 for:
- literals, `.`, `^`, `$`, character sets with ranges, negation and class escapes;
- the escapes `\A \Z \b \B \d \D \s \S \w \W \a \f \n \r \t \v \\ \xhh \uhhhh \Uhhhhhhhh`, octal
  escapes and numbered group references with sre's octal-or-group rule;
- capturing and non-capturing groups, comments, look-ahead and look-behind assertions;
- the quantifiers `* + ? {m} {m,} {,n} {m,n}`, greedy or lazy, and `|`;
- the errors `nothing to repeat`, `multiple repeat`, `unbalanced parenthesis`,
  `missing ), unterminated subpattern`, `unterminated character set`, `bad character range`,
  `bad escape`, `invalid group reference`, `cannot refer to an open group`,
  `min repeat greater than max repeat` and `look-behind requires fixed-width pattern`.
Named groups, inline flags, conditionals and `\N{...}` are outside the model: `parse` reports them
as `PyError.unsupported`. Error messages leave out sre's position suffix.
-/
import Hydrogram.Python

namespace Hydrogram.Re

/-! ## Abstract syntax -/

/-- the categories `\d \D \s \S \w \W` -/
inductive Category where
  | digit | notDigit | space | notSpace | word | notWord
  deriving DecidableEq, Repr

/-- one member of a character set `[...]` -/
inductive SetItem where
  | lit (c : Char)
  | range (lo hi : Char)
  | cat (k : Category)
  deriving DecidableEq, Repr

/-- the zero-width `AT` codes: `^`, `\A`, `$`, `\Z`, `\b`, `\B` -/
inductive At where
  | beginning | beginningString | ending | endingString | boundary | nonBoundary
  deriving DecidableEq, Repr

/-- a parsed pattern; a subpattern's items are chained by `cat`, its alternatives by `branch`, and
a non-capturing group is its contents -/
inductive Node where
  | empty
  | lit (c : Char)
  | any
  | set (negate : Bool) (items : List SetItem)
  | cat (a b : Node)
  | branch (a b : Node)
  | group (idx : Nat) (r : Node)
  /-- `MAX_REPEAT` (greedy) or `MIN_REPEAT`; `hi = none` is `MAXREPEAT`, no upper bound -/
  | rep (lo : Nat) (hi : Option Nat) (greedy : Bool) (r : Node)
  | anchor (code : At)
  | groupref (idx : Nat)
  /-- `ASSERT` / `ASSERT_NOT`, looking ahead or behind -/
  | assert (behind negate : Bool) (r : Node)
  deriving DecidableEq, Repr

/-- a subpattern from its items in order -/
def seqOf (items : List Node) : Node := items.foldr .cat .empty

/-- a branch from its alternatives in order -/
def branches : List Node → Node
  | [] => .empty
  | [a] => a
  | a :: as => .branch a (branches as)

/-- sre's `getwidth`: the least and greatest number of characters a node consumes (`none`: no
bound). A group reference counts as unbounded. -/
def Node.width : Node → Nat × Option Nat
  | .empty | .anchor _ | .assert .. => (0, some 0)
  | .lit _ | .any | .set .. => (1, some 1)
  | .cat a b =>
    let (l1, h1) := a.width
    let (l2, h2) := b.width
    (l1 + l2, do let x ← h1; let y ← h2; pure (x + y))
  | .branch a b =>
    let (l1, h1) := a.width
    let (l2, h2) := b.width
    (min l1 l2, do let x ← h1; let y ← h2; pure (max x y))
  | .group _ r => r.width
  | .rep lo hi _ r =>
    let (l, h) := r.width
    (lo * l, if h = some 0 then some 0 else do let x ← hi; let y ← h; pure (x * y))
  | .groupref _ => (0, none)

/-- every look-behind assertion has a fixed width, as `sre_compile` requires -/
def Node.fixedLookbehinds : Node → Bool
  | .cat a b | .branch a b => a.fixedLookbehinds && b.fixedLookbehinds
  | .group _ r | .rep _ _ _ r => r.fixedLookbehinds
  | .assert behind _ r => (!behind || r.width.2 == some r.width.1) && r.fixedLookbehinds
  | _ => true

/-- the compile flags the filters use -/
structure Flags where
  ignoreCase : Bool := false
  multiline : Bool := false
  dotall : Bool := false
  ascii : Bool := false
  deriving DecidableEq, Repr

/-- a compiled pattern: `re.compile(pattern, flags)` -/
structure Pattern where
  node : Node
  groups : Nat
  flags : Flags
  deriving DecidableEq, Repr

/-! ## Tokens -/

/-- `SPECIAL_CHARS` of sre_parse: `.\[{()*+?^$|` -/
def special (c : Char) : Bool :=
  c == '.' || c == '\\' || c == '[' || c == '{' || c == '(' || c == ')' || c == '*' ||
    c == '+' || c == '?' || c == '^' || c == '$' || c == '|'

def hexValue (c : Char) : Option Nat :=
  if c.isDigit then some (c.toNat - 48)
  else if 'a' ≤ c ∧ c ≤ 'f' then some (c.toNat - 87)
  else if 'A' ≤ c ∧ c ≤ 'F' then some (c.toNat - 55)
  else none

def isOctDigit (c : Char) : Bool := '0' ≤ c && c ≤ '7'

def isAsciiLetter (c : Char) : Bool := ('a' ≤ c && c ≤ 'z') || ('A' ≤ c && c ≤ 'Z')

/-- the value of a run of digits in base `b` -/
def digitsValue (b : Nat) (ds : List Char) : Nat :=
  ds.foldl (fun n c => b * n + ((hexValue c).getD 0)) 0

/-- `source.getwhile(n, HEXDIGITS)` followed by the length check of a `\x`, `\u` or `\U` escape -/
def hexEscape (n : Nat) (src : List Char) : Except PyError (Char × List Char) :=
  let ds := (src.take n).takeWhile (fun c => (hexValue c).isSome)
  let v := digitsValue 16 ds
  if ds.length ≠ n then .error (.reError "incomplete escape")
  else if v > 0x10FFFF then .error (.reError "bad escape")
  else if 0xD800 ≤ v ∧ v ≤ 0xDFFF then .error (.unsupported "surrogate code point")
  else .ok (Char.ofNat v, src.drop ds.length)

/-- the `ESCAPES` table of sre_parse -/
def simpleEscape : Char → Option Char
  | 'a' => some '\x07'
  | 'b' => some '\x08'
  | 'f' => some '\x0c'
  | 'n' => some '\n'
  | 'r' => some '\r'
  | 't' => some '\t'
  | 'v' => some '\x0b'
  | '\\' => some '\\'
  | _ => none

/-- the `CATEGORIES` that are character classes -/
def categoryEscape : Char → Option Category
  | 'd' => some .digit
  | 'D' => some .notDigit
  | 's' => some .space
  | 'S' => some .notSpace
  | 'w' => some .word
  | 'W' => some .notWord
  | _ => none

/-- the `CATEGORIES` that are anchors -/
def anchorEscape : Char → Option At
  | 'A' => some .beginningString
  | 'Z' => some .endingString
  | 'b' => some .boundary
  | 'B' => some .nonBoundary
  | _ => none

/-- parser state: sre's `state.groups` (the next group number) and the groups already closed -/
structure PState where
  groups : Nat := 1
  closed : List Nat := []
  deriving DecidableEq, Repr

/-- `_escape`: the escape after a backslash outside a set -/
def escape (st : PState) : List Char → Except PyError (Node × List Char)
  | [] => .error (.reError "bad escape (end of pattern)")
  | c :: rest =>
    match anchorEscape c, categoryEscape c, simpleEscape c with
    | some a, _, _ => .ok (.anchor a, rest)
    | none, some k, _ => .ok (.set false [.cat k], rest)
    | none, none, some e => .ok (.lit e, rest)
    | none, none, none =>
      if c == 'x' then (hexEscape 2 rest).map fun (e, r) => (.lit e, r)
      else if c == 'u' then (hexEscape 4 rest).map fun (e, r) => (.lit e, r)
      else if c == 'U' then (hexEscape 8 rest).map fun (e, r) => (.lit e, r)
      else if c == 'N' then .error (.unsupported "named character escape")
      else if c == '0' then
        let ds := (rest.take 2).takeWhile isOctDigit
        .ok (.lit (Char.ofNat (digitsValue 8 (c :: ds))), rest.drop ds.length)
      else if c.isDigit then
        match rest with
        | d :: r2 =>
          if d.isDigit then
            match r2 with
            | e :: r3 =>
              if isOctDigit c && isOctDigit d && isOctDigit e then
                let v := digitsValue 8 [c, d, e]
                if v > 0o377 then .error (.reError "octal escape value outside of range 0-0o377")
                else .ok (.lit (Char.ofNat v), r3)
              else groupRef (digitsValue 10 [c, d]) r2
            | [] => groupRef (digitsValue 10 [c, d]) r2
          else groupRef (digitsValue 10 [c]) rest
        | [] => groupRef (digitsValue 10 [c]) rest
      else if isAsciiLetter c then .error (.reError "bad escape")
      else .ok (.lit c, rest)
where
  /-- a numbered group reference: it must name a group that is already closed -/
  groupRef (g : Nat) (rest : List Char) : Except PyError (Node × List Char) :=
    if g < st.groups then
      if g ∈ st.closed then .ok (.groupref g, rest)
      else .error (.reError "cannot refer to an open group")
    else .error (.reError "invalid group reference")

/-- `_class_escape`: the escape after a backslash inside a set -/
def classEscape : List Char → Except PyError (SetItem × List Char)
  | [] => .error (.reError "bad escape (end of pattern)")
  | c :: rest =>
    match simpleEscape c, categoryEscape c with
    | some e, _ => .ok (.lit e, rest)
    | none, some k => .ok (.cat k, rest)
    | none, none =>
      if c == 'x' then (hexEscape 2 rest).map fun (e, r) => (.lit e, r)
      else if c == 'u' then (hexEscape 4 rest).map fun (e, r) => (.lit e, r)
      else if c == 'U' then (hexEscape 8 rest).map fun (e, r) => (.lit e, r)
      else if c == 'N' then .error (.unsupported "named character escape")
      else if isOctDigit c then
        let ds := (rest.take 2).takeWhile isOctDigit
        let v := digitsValue 8 (c :: ds)
        if v > 0o377 then .error (.reError "octal escape value outside of range 0-0o377")
        else .ok (.lit (Char.ofNat v), rest.drop ds.length)
      else if c.isDigit || isAsciiLetter c then .error (.reError "bad escape")
      else .ok (.lit c, rest)

/-- one element of a set: a literal, or an escape -/
def classAtom : List Char → Except PyError (SetItem × List Char)
  | [] => .error (.reError "unterminated character set")
  | '\\' :: rest => classEscape rest
  | c :: rest => .ok (.lit c, rest)

/-- the members of a set after `[` (and `^`), up to and past the closing `]` -/
def parseClass : Nat → List Char → List SetItem → Except PyError (List SetItem × List Char)
  | 0, _, _ => .error (.reError "unterminated character set")
  | _, [], _ => .error (.reError "unterminated character set")
  | f + 1, c :: rest, items => do
    if c == ']' && !items.isEmpty then return (items, rest)
    let (code1, r1) ← classAtom (c :: rest)
    match r1 with
    | '-' :: r2 =>
      match r2 with
      | [] => .error (.reError "unterminated character set")
      | ']' :: r3 => return (items ++ [code1, .lit '-'], r3)
      | _ =>
        let (code2, r3) ← classAtom r2
        match code1, code2 with
        | .lit lo, .lit hi =>
          if hi < lo then .error (.reError "bad character range")
          else parseClass f r3 (items ++ [.range lo hi])
        | _, _ => .error (.reError "bad character range")
    | _ => parseClass f r1 (items ++ [code1])

/-- `MAXREPEAT` of `_sre` -/
def maxRepeat : Nat := 4294967295

/-- the body of a `{m,n}` quantifier after the `{`: `none` when it is not one, and `{` is then a
literal -/
def braceQuant (src : List Char) : Option (List Char × List Char × List Char) :=
  match src with
  | '}' :: _ => none
  | _ =>
    let lo := src.takeWhile Char.isDigit
    let r1 := src.drop lo.length
    let (hi, r2) := match r1 with
      | ',' :: r => (r.takeWhile Char.isDigit, r.drop (r.takeWhile Char.isDigit).length)
      | _ => (lo, r1)
    match r2 with
    | '}' :: r3 => some (lo, hi, r3)
    | _ => none

/-- the bounds of a `{m,n}` quantifier, with sre's checks -/
def braceBounds (lo hi : List Char) : Except PyError (Nat × Option Nat) := do
  let m := if lo.isEmpty then 0 else digitsValue 10 lo
  if m ≥ maxRepeat then throw (.overflowError "the repetition number is too large")
  if hi.isEmpty then return (m, none)
  let n := digitsValue 10 hi
  if n ≥ maxRepeat then throw (.overflowError "the repetition number is too large")
  if n < m then throw (.reError "min repeat greater than max repeat")
  return (m, some n)

/-- the comment of `(?#...)`, up to and past its `)` -/
def skipComment : List Char → Except PyError (List Char)
  | [] => .error (.reError "missing ), unterminated comment")
  | ')' :: rest => .ok rest
  | _ :: rest => skipComment rest

/-! ## The parser -/

/-- the quantified form of the last item, with sre's checks on what may be repeated -/
def quantify (items : List Node) (lo : Nat) (hi : Option Nat) (greedy : Bool) :
    Except PyError (List Node) :=
  match items.getLast? with
  | none | some (.anchor _) => .error (.reError "nothing to repeat")
  | some (.rep ..) => .error (.reError "multiple repeat")
  | some x => .ok (items.dropLast ++ [.rep lo hi greedy x])

/-- `_parse_sub` and `_parse` in one loop: `alts` are the finished alternatives, `items` the
current one; it stops at the end of the pattern or before a `)`. One unit of fuel is spent per
character read, so `src.length + 1` never runs out. -/
def parseItems : Nat → List Char → PState → List Node → List Node →
    Except PyError (Node × List Char × PState)
  | 0, _, _, _, _ => .error (.unsupported "parser fuel")
  | f + 1, src, st, alts, items =>
    let close (src' : List Char) (st' : PState) (item : Node) :
        Except PyError (Node × List Char × PState) :=
      match src' with
      | ')' :: r => parseItems f r st' alts (items ++ [item])
      | _ => .error (.reError "missing ), unterminated subpattern")
    let repeatWith (lo : Nat) (hi : Option Nat) (r : List Char) :
        Except PyError (Node × List Char × PState) :=
      let (greedy, r') := match r with
        | '?' :: r' => (false, r')
        | r' => (true, r')
      match quantify items lo hi greedy with
      | .error e => .error e
      | .ok items' => parseItems f r' st alts items'
    match src with
    | [] => .ok (branches (alts ++ [seqOf items]), [], st)
    | ')' :: r => .ok (branches (alts ++ [seqOf items]), ')' :: r, st)
    | '|' :: r => parseItems f r st (alts ++ [seqOf items]) []
    | '\\' :: r => do
      let (n, r') ← escape st r
      parseItems f r' st alts (items ++ [n])
    | '[' :: r => do
      let (negate, r1) := match r with
        | '^' :: r1 => (true, r1)
        | r1 => (false, r1)
      let (set, r2) ← parseClass (r1.length + 1) r1 []
      parseItems f r2 st alts (items ++ [.set negate set])
    | '.' :: r => parseItems f r st alts (items ++ [.any])
    | '^' :: r => parseItems f r st alts (items ++ [.anchor .beginning])
    | '$' :: r => parseItems f r st alts (items ++ [.anchor .ending])
    | '*' :: r => repeatWith 0 none r
    | '+' :: r => repeatWith 1 none r
    | '?' :: r => repeatWith 0 (some 1) r
    | '{' :: r =>
      match braceQuant r with
      | none => parseItems f r st alts (items ++ [.lit '{'])
      | some (lo, hi, r') => do
        let (m, n) ← braceBounds lo hi
        repeatWith m n r'
    | '(' :: '?' :: r =>
      match r with
      | [] => .error (.reError "unexpected end of pattern")
      | ':' :: r' => do
        let (p, r'', st') ← parseItems f r' st [] []
        close r'' st' p
      | '#' :: r' => do
        let r'' ← skipComment r'
        parseItems f r'' st alts items
      | '=' :: r' => do
        let (p, r'', st') ← parseItems f r' st [] []
        close r'' st' (.assert false false p)
      | '!' :: r' => do
        let (p, r'', st') ← parseItems f r' st [] []
        close r'' st' (.assert false true p)
      | '<' :: '=' :: r' => do
        let (p, r'', st') ← parseItems f r' st [] []
        close r'' st' (.assert true false p)
      | '<' :: '!' :: r' => do
        let (p, r'', st') ← parseItems f r' st [] []
        close r'' st' (.assert true true p)
      | ['<'] => .error (.reError "unexpected end of pattern")
      | '<' :: _ => .error (.reError "unknown extension ?<")
      | 'P' :: _ => .error (.unsupported "named group")
      | '(' :: _ => .error (.unsupported "conditional group")
      | c :: _ =>
        if "aiLmsux-".contains c then .error (.unsupported "inline flags")
        else .error (.reError "unknown extension")
    | '(' :: r => do
      let gid := st.groups
      let (p, r', st') ← parseItems f r { st with groups := st.groups + 1 } [] []
      close r' { st' with closed := gid :: st'.closed } (.group gid p)
    | c :: r => parseItems f r st alts (items ++ [.lit c])

/-- `re.compile(pattern, flags)` -/
def compile (pattern : String) (flags : Flags) : Except PyError Pattern := do
  let (node, rest, st) ← parseItems (pattern.length + 1) pattern.data {} [] []
  if !rest.isEmpty then throw (.reError "unbalanced parenthesis")
  if !node.fixedLookbehinds then throw (.reError "look-behind requires fixed-width pattern")
  return { node, groups := st.groups - 1, flags }

end Hydrogram.Re
