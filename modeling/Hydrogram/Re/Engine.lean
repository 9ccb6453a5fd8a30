/-
The `_sre` matcher on a parsed pattern, and the module functions the filters call:
`re.match`, `re.sub`, `Pattern.finditer`.

`m` is a backtracking matcher in continuation-passing style: `m r k st` tries the ways `r` can
match from `st` in sre's order and returns the first for which the rest of the pattern `k`
succeeds. sre's choices appear as follows:
- a branch tries its alternatives left to right;
- a greedy repeat tries one more iteration before stopping, a lazy one stops first;
- the first `min` iterations are forced; after that, an iteration that consumed nothing ends the
  loop (sre's `last_ptr` zero-width protection), though the empty iteration itself counts;
- look-around assertions are atomic (`some` as continuation); a positive one keeps its groups;
- at top level a match may be refused when it is empty at its start (`must_advance`), which
  `finditer` and `sub` set after an empty match.
Fuel only bounds the optional iterations of a repeat, each of which consumes a character or ends
the loop, so the fuel `s.length + 1` is never exhausted.

Under `IGNORECASE` a character is tested as `_compile` arranges it: against a cased literal by
lower case and the extra cases of `re._casefix`, against a set with a cased member as a lower-cased
character against the folded members, and against a backreference by lower case alone.
-/
import Hydrogram.Re.Syntax

namespace Hydrogram.Re

/-- the matcher's state: the position and the group spans recorded so far, the latest first
(sre's `mark` array) -/
structure St where
  pos : Nat
  caps : List (Nat × Nat × Nat) := []
  deriving DecidableEq, Repr

/-- the span of group `i`, if it took part -/
def St.span? (st : St) (i : Nat) : Option (Nat × Nat) :=
  (st.caps.find? (·.1 == i)).map (·.2)

/-- the state one character further -/
def St.adv (st : St) : St := { st with pos := st.pos + 1 }

@[simp] theorem St.adv_pos (st : St) : st.adv.pos = st.pos + 1 := rfl
@[simp] theorem St.adv_caps (st : St) : st.adv.caps = st.caps := rfl

section Chars

variable (py : PyUnicode) (fl : Flags)

/-- `\d` under the flags -/
def digitChar (c : Char) : Bool := if fl.ascii then c.isDigit else py.isDigit c

/-- `\s` under the flags -/
def spaceChar (c : Char) : Bool := if fl.ascii then isAsciiSpace c else isSpace c

/-- `\w` under the flags -/
def wordChar (c : Char) : Bool :=
  if fl.ascii then c.isAlphanum || c == '_' else py.isWord c

def categoryMatch (k : Category) (c : Char) : Bool :=
  match k with
  | .digit => digitChar py fl c
  | .notDigit => !digitChar py fl c
  | .space => spaceChar fl c
  | .notSpace => !spaceChar fl c
  | .word => wordChar py fl c
  | .notWord => !wordChar py fl c

def itemMatch (c : Char) : SetItem → Bool
  | .lit d => c == d
  | .range lo hi => lo ≤ c && c ≤ hi
  | .cat k => categoryMatch py fl k c

/-! ### `IGNORECASE`

`_compile` folds case with three functions of the flags: `iscased`, `tolower` and `fixes`. -/

/-- `iscased`: `_sre.ascii_iscased` under `ASCII`, `_sre.unicode_iscased` otherwise -/
def isCased (c : Char) : Bool :=
  if fl.ascii then c.toNat < 128 && c.isAlpha else py.lowerChar c != c || py.upperChar c != c

/-- `tolower`, and the lowering of the text at match time: `sre_lower_ascii` under `ASCII`,
`sre_lower_unicode` otherwise -/
def lowerOf (c : Char) : Char := if fl.ascii then c.toLower else py.lowerChar c

/-- `fixes`: `_EXTRA_CASES`, none under `ASCII` -/
def extraCases (c : Char) : List Char := if fl.ascii then [] else py.caseFixes c

/-- a literal `c` of the pattern against a character `t` of the string. Without `IGNORECASE`, or for
a character without case, `LITERAL`: `t` is `c`. Otherwise `t`'s lower case is `c`'s
(`LITERAL_IGNORE`, `LITERAL_UNI_IGNORE`) or one of its extra cases (`IN_UNI_IGNORE`) -/
def litMatch (c t : Char) : Bool :=
  if fl.ignoreCase && isCased py fl c then
    lowerOf py fl t == lowerOf py fl c || (extraCases py fl (lowerOf py fl c)).contains (lowerOf py fl t)
  else t == c

/-- the characters of a range, in order: `range(lo, hi + 1)`, without the surrogates, which no text
here holds -/
def rangeChars (lo hi : Char) : List Char :=
  ((List.range' lo.toNat (hi.toNat + 1 - lo.toNat)).filter Nat.isValidChar).map Char.ofNat

/-- whether `_optimize_charset` counts a member as cased (`hascased`): a cased literal, a range that
holds a cased character, or a member whose lowered form does not fit its bitmap -/
def SetItem.cased : SetItem → Bool
  | .lit c => isCased py fl c || 0x10000 ≤ (lowerOf py fl c).toNat
  | .range lo hi => (rangeChars lo hi).any fun i => isCased py fl i || 0x10000 ≤ (lowerOf py fl i).toNat
  | .cat _ => false

/-- a lowered character of the text against a member as `_optimize_charset` folds it. The bitmap
holds the lowered literals and range characters with their extra cases. A literal whose lowered
form does not fit stays a `LITERAL` of itself; a range that reaches there keeps what it put in the
bitmap and is also tested as `RANGE_UNI_IGNORE` (the character or its upper case in the range). A
category is tested on the lowered character. -/
def SetItem.foldedMatch (ch : Char) : SetItem → Bool
  | .lit c =>
    let lo := lowerOf py fl c
    if lo.toNat < 0x10000 then ch == lo || (extraCases py fl lo).contains ch else ch == c
  | .range a b =>
    let inMap := (rangeChars a b).takeWhile fun i => (lowerOf py fl i).toNat < 0x10000
    inMap.any (fun i => ch == lowerOf py fl i || (extraCases py fl (lowerOf py fl i)).contains ch) ||
      (inMap.length < (rangeChars a b).length &&
        (a ≤ ch && ch ≤ b || a ≤ py.upperChar ch && py.upperChar ch ≤ b))
  | .cat k => categoryMatch py fl k ch

/-- a set `[...]` against a character `t`. sre_parse makes a set of one literal a `LITERAL` (a
`NOT_LITERAL` when negated). Otherwise, without `IGNORECASE` or without a cased member, `IN` tests `t`
itself; with both, `IN_IGNORE` and `IN_UNI_IGNORE` test `t`'s lower case against the folded members.
(For a set without a cased member sre may keep the folded members; they are the members themselves,
as only cased characters have extra cases: `PyUnicode.caseFixes_cased`.) -/
def setMatch (negate : Bool) (items : List SetItem) (t : Char) : Bool :=
  match items with
  | [.lit c] => negate != litMatch py fl c t
  | _ =>
    if fl.ignoreCase && items.any (SetItem.cased py fl) then
      negate != items.any (SetItem.foldedMatch py fl (lowerOf py fl t))
    else negate != items.any (itemMatch py fl t)

/-- `.`: any character but a newline, unless `DOTALL` -/
def anyMatch (t : Char) : Bool := fl.dotall || t != '\n'

end Chars

section Matcher

variable (py : PyUnicode) (fl : Flags) (s : List Char)

/-- whether position `i` is preceded by / followed by a word character -/
def wordAt (i : Nat) : Bool := (s[i]?).any (wordChar py fl)

/-- sre's `SRE(at)` -/
def atMatch (a : At) (i : Nat) : Bool :=
  match a with
  | .beginning => i == 0 || (fl.multiline && i != 0 && s[i - 1]? == some '\n')
  | .beginningString => i == 0
  | .ending =>
    i == s.length || (if fl.multiline then s[i]? == some '\n'
      else i + 1 == s.length && s[i]? == some '\n')
  | .endingString => i == s.length
  | .boundary => !s.isEmpty && ((i != 0 && wordAt py fl s (i - 1)) != wordAt py fl s i)
  | .nonBoundary => !s.isEmpty && ((i != 0 && wordAt py fl s (i - 1)) == wordAt py fl s i)

/-- `GROUPREF`: the text of span `[a, b)` again at position `i`; under `IGNORECASE`
(`GROUPREF_IGNORE`, `GROUPREF_UNI_IGNORE`) the lower cases compare, without the extra cases -/
def refMatch (a b i : Nat) : Bool :=
  let g := (s.drop a).take (b - a)
  let t := (s.drop i).take (b - a)
  t.length == g.length && (g.zip t).all fun (x, y) =>
    if fl.ignoreCase then lowerOf py fl y == lowerOf py fl x else y == x

/-- the forced iterations of a repeat -/
def repMin (body : (St → Option St) → St → Option St) : Nat → (St → Option St) → St → Option St
  | 0, k => k
  | n + 1, k => body (repMin body n k)

/-- the optional iterations of a repeat after `count` iterations; `allowed` is false once an
iteration consumed nothing -/
def repMore (body : (St → Option St) → St → Option St) (hi : Option Nat) (greedy : Bool)
    (k : St → Option St) : Nat → Nat → Bool → St → Option St
  | 0, _, _, st => k st
  | f + 1, count, allowed, st =>
    let again := fun (_ : Unit) =>
      if allowed && hi.all (count < ·) then
        body (fun st' => repMore body hi greedy k f (count + 1) (st'.pos != st.pos) st') st
      else none
    if greedy then (again ()).orElse fun _ => k st else (k st).orElse again

/-- the first way `r` matches from `st` for which the continuation `k` succeeds -/
def m : Node → (St → Option St) → St → Option St
  | .empty, k, st => k st
  | .lit c, k, st => if (s[st.pos]?).any (litMatch py fl c) then k st.adv else none
  | .any, k, st => if (s[st.pos]?).any (anyMatch fl) then k st.adv else none
  | .set negate items, k, st =>
    if (s[st.pos]?).any (setMatch py fl negate items) then k st.adv else none
  | .cat a b, k, st => m a (m b k) st
  | .branch a b, k, st => (m a k st).orElse fun _ => m b k st
  | .group i r, k, st => m r (fun st' => k { st' with caps := (i, st.pos, st'.pos) :: st'.caps }) st
  | .rep lo hi greedy r, k, st =>
    repMin (m r) lo (repMore (m r) hi greedy k (s.length + 1) lo true) st
  | .anchor a, k, st => if atMatch py fl s a st.pos then k st else none
  | .groupref i, k, st =>
    match st.span? i with
    | some (a, b) => if refMatch py fl s a b st.pos then k { st with pos := st.pos + (b - a) } else none
    | none => none
  | .assert behind negate r, k, st =>
    let w := if behind then r.width.1 else 0
    let inner := if st.pos < w then none else m r some { st with pos := st.pos - w }
    match inner, negate with
    | some st', false => k { st with caps := st'.caps }
    | none, true => k st
    | _, _ => none

end Matcher

/-! ## Module functions -/

/-- a `re.Match`: the string, the span of the match, and the group spans -/
structure Match where
  string : List Char
  start : Nat
  finish : Nat
  caps : List (Nat × Nat × Nat)
  deriving DecidableEq, Repr

/-- `match.group(i)`: `None` when group `i` did not take part -/
def Match.group (mt : Match) (i : Nat) : Option (List Char) :=
  let span := if i = 0 then some (mt.start, mt.finish) else (mt.caps.find? (·.1 == i)).map (·.2)
  span.map fun (a, b) => (mt.string.drop a).take (b - a)

/-- one item of a replacement template: a literal character or a group reference -/
inductive TItem where
  | lit (c : Char)
  | group (i : Nat)
  deriving DecidableEq, Repr

/-- `sre_parse.parse_template` for a pattern with `groups` groups; `\g<...>` is outside the model -/
def parseTemplate (groups : Nat) : Nat → List Char → Except PyError (List TItem)
  | 0, _ => .error (.unsupported "template fuel")
  | _, [] => .ok []
  | _, ['\\'] => .error (.reError "bad escape (end of pattern)")
  | f + 1, '\\' :: c :: rest =>
    let groupRef (ds : List Char) (r : List Char) : Except PyError (List TItem) :=
      let g := digitsValue 10 ds
      if g > groups then .error (.reError "invalid group reference")
      else (parseTemplate groups f r).map (.group g :: ·)
    if c == 'g' then .error (.unsupported "template group name")
    else if c == '0' then
      let ds := (rest.take 2).takeWhile isOctDigit
      (parseTemplate groups f (rest.drop ds.length)).map
        (.lit (Char.ofNat (digitsValue 8 (c :: ds) % 256)) :: ·)
    else if c.isDigit then
      match rest with
      | d :: r2 =>
        if d.isDigit then
          match r2 with
          | e :: r3 =>
            if isOctDigit c && isOctDigit d && isOctDigit e then
              let v := digitsValue 8 [c, d, e]
              if v > 0o377 then .error (.reError "octal escape value outside of range 0-0o377")
              else (parseTemplate groups f r3).map (.lit (Char.ofNat v) :: ·)
            else groupRef [c, d] r2
          | [] => groupRef [c, d] r2
        else groupRef [c] rest
      | [] => groupRef [c] rest
    else
      match simpleEscape c with
      | some e => (parseTemplate groups f rest).map (.lit e :: ·)
      | none =>
        if isAsciiLetter c then .error (.reError "bad escape")
        else (parseTemplate groups f rest).map (fun t => .lit '\\' :: .lit c :: t)
  | f + 1, c :: rest => (parseTemplate groups f rest).map (.lit c :: ·)

/-- the replacement text of one match -/
def expand (tmpl : List TItem) (mt : Match) : List Char :=
  tmpl.flatMap fun
    | .lit c => [c]
    | .group i => (mt.group i).getD []

section Module

variable (py : PyUnicode) (p : Pattern) (s : List Char)

/-- the first match from `pos`, at top level -/
def matchAt (pos : Nat) (mustAdvance : Bool) : Option Match :=
  (m py p.flags s p.node (fun st => if mustAdvance && st.pos == pos then none else some st)
    { pos }).map fun st => ⟨s, pos, st.pos, st.caps⟩

/-- `sre_search`: the first position from `pos` at which the pattern matches; only the first
attempt is bound by `mustAdvance` -/
def searchFrom : Nat → Nat → Bool → Option Match
  | 0, _, _ => none
  | f + 1, pos, ma =>
    match matchAt py p s pos ma with
    | some mt => some mt
    | none => if pos < s.length then searchFrom f (pos + 1) false else none

def search (start : Nat) (mustAdvance : Bool) : Option Match :=
  searchFrom py p s (s.length + 1) start mustAdvance

/-- the scanner behind `finditer`: after a match, search again from its end, refusing an empty
match there when the last one was empty -/
def finditerFrom : Nat → Nat → Bool → List Match
  | 0, _, _ => []
  | f + 1, start, ma =>
    match search py p s start ma with
    | none => []
    | some mt => mt :: finditerFrom f mt.finish (mt.finish == mt.start)

/-- `pattern.finditer(string)` -/
def finditer : List Match := finditerFrom py p s (2 * s.length + 2) 0 false

/-- `pattern_subx`: copy the text between matches and expand the template for each, at most
`count` times (`0`: no limit) -/
def subFrom (tmpl : List TItem) (count : Nat) : Nat → Nat → Nat → Bool → Nat → List Char
  | 0, i, _, _, _ => s.drop i
  | f + 1, i, start, ma, n =>
    if count != 0 && count ≤ n then s.drop i
    else
      match search py p s start ma with
      | none => s.drop i
      | some mt =>
        (s.take mt.start).drop i ++ expand tmpl mt ++
          subFrom tmpl count f mt.finish mt.finish (mt.finish == mt.start) (n + 1)

/-- `pattern.sub(template, string, count)` -/
def sub (tmpl : List TItem) (count : Nat) : List Char :=
  subFrom py p s tmpl count (2 * s.length + 2) 0 0 false 0

end Module

/-- `re.match(pattern, string, flags)` -/
def reMatch (py : PyUnicode) (pattern : String) (string : String) (flags : Flags) :
    Except PyError (Option Match) := do
  let p ← compile pattern flags
  return matchAt py p string.data 0 false

/-- `re.sub(pattern, repl, string, count, flags)` -/
def reSub (py : PyUnicode) (pattern repl : String) (string : String) (count : Nat) (flags : Flags) :
    Except PyError String := do
  let p ← compile pattern flags
  let tmpl ← parseTemplate p.groups (repl.length + 1) repl.data
  return String.mk (sub py p string.data tmpl count)

end Hydrogram.Re
