/-
The parts of the Python runtime that `hydrogram/filters.py` relies on: truth values (`bool(x)`,
`x and y`, `x or y`), the exceptions a filter can raise, and the Unicode tables behind
`str.lower()`, `str.isspace()` and the character classes of `re`.

Python's Unicode database is not part of the repository. It enters as one parameter, `PyUnicode`,
whose fields are the tables the code consults. Each table carries, as a field, the one fact the
model needs of it: on ASCII input it follows the ASCII rules. The real database is one such value,
so every result stated for all `PyUnicode` holds of it. `isSpace` is a short fixed list and is
written out.
-/
import Mathlib.Tactic

namespace Hydrogram

/-! ## Truth values -/

/-- Python's truth test `bool(x)` -/
class Truthy (α : Type) where
  truthy : α → Bool

export Truthy (truthy)

instance : Truthy Bool := ⟨id⟩
instance : Truthy Int := ⟨fun i => i != 0⟩
instance : Truthy String := ⟨fun s => s != ""⟩
instance {α : Type} : Truthy (List α) := ⟨fun l => !l.isEmpty⟩
/-- an object whose class defines neither `__bool__` nor `__len__` (`Audio`, `Photo`, ...) -/
instance : Truthy Unit := ⟨fun _ => true⟩
/-- `None` is false; a present value has its own truth value -/
instance {α : Type} [Truthy α] : Truthy (Option α) := ⟨fun o => o.elim false truthy⟩

@[simp] theorem truthy_bool (b : Bool) : truthy b = b := rfl
@[simp] theorem truthy_unit (u : Unit) : truthy u = true := rfl
@[simp] theorem truthy_none {α : Type} [Truthy α] : truthy (none : Option α) = false := rfl
@[simp] theorem truthy_some {α : Type} [Truthy α] (a : α) : truthy (some a) = truthy a := rfl
@[simp] theorem truthy_list {α : Type} (l : List α) : truthy l = !l.isEmpty := rfl
@[simp] theorem truthy_string (s : String) : truthy s = (s != "") := rfl

/-- `x or y`: the first operand when it is true, else the second -/
def pyOr {α : Type} [Truthy α] (x y : α) : α := if truthy x then x else y

/-- `x and y`: the first operand when it is false, else the second -/
def pyAnd {α : Type} [Truthy α] (x y : α) : α := if truthy x then y else x

@[simp] theorem truthy_pyOr {α : Type} [Truthy α] (x y : α) :
    truthy (pyOr x y) = (truthy x || truthy y) := by
  unfold pyOr; cases h : truthy x <;> simp [h]

@[simp] theorem truthy_pyAnd {α : Type} [Truthy α] (x y : α) :
    truthy (pyAnd x y) = (truthy x && truthy y) := by
  unfold pyAnd; cases h : truthy x <;> simp [h]

/-- what a filter may return: any object with a truth value, `True` and `False` among them -/
class PyValue (V : Type) extends Truthy V where
  ofBool : Bool → V
  truthy_ofBool : ∀ b, truthy (ofBool b) = b

export PyValue (ofBool)

attribute [simp] PyValue.truthy_ofBool

/-- the values the library's own filters return: `True`/`False`, `None` (`user` on a message
without a sender) and a string (`user` on a sender whose username is empty) -/
inductive PyVal where
  | none
  | bool (b : Bool)
  | str (s : String)
  deriving DecidableEq, Repr

instance : PyValue PyVal where
  truthy
    | .none => false
    | .bool b => b
    | .str s => s != ""
  ofBool := .bool
  truthy_ofBool _ := rfl

@[simp] theorem PyVal.truthy_bool (b : Bool) : truthy (PyVal.bool b) = b := rfl
@[simp] theorem PyVal.truthy_none : truthy PyVal.none = false := rfl
@[simp] theorem PyVal.truthy_str (s : String) : truthy (PyVal.str s) = (s != "") := rfl
@[simp] theorem PyVal.ofBool_eq (b : Bool) : (ofBool b : PyVal) = .bool b := rfl

/-! ## Exceptions -/

/-- the exceptions a filter raises -/
inductive PyError where
  /-- `'<type>' object has no attribute '<attr>'`: a field read on an update of another shape -/
  | attributeError (type attr : String)
  /-- `ValueError`: the chat-scope and regex filters on an unsupported update type -/
  | valueError (msg : String)
  /-- `re.error` raised while compiling a pattern -/
  | reError (msg : String)
  /-- `OverflowError`: a repeat count of 2**32 - 1 or more -/
  | overflowError (msg : String)
  /-- a pattern that uses syntax outside the grammar this model covers -/
  | unsupported (feature : String)
  deriving DecidableEq, Repr

/-! ## Unicode tables -/

/-- `Py_UNICODE_ISSPACE`: `str.isspace()` of one character and the `\s` of a str pattern -/
def isSpace (c : Char) : Bool :=
  let n := c.toNat
  (9 ≤ n && n ≤ 13) || (28 ≤ n && n ≤ 32) || n == 0x85 || n == 0xA0 || n == 0x1680 ||
    (0x2000 ≤ n && n ≤ 0x200A) || n == 0x2028 || n == 0x2029 || n == 0x202F || n == 0x205F ||
    n == 0x3000

/-- `\s` under `re.ASCII` -/
def isAsciiSpace (c : Char) : Bool :=
  let n := c.toNat
  (9 ≤ n && n ≤ 13) || n == 32

/-- the tables of Python's Unicode database that the code consults -/
structure PyUnicode where
  /-- `str.lower()`, the full lower-case mapping -/
  lower : String → String
  /-- `sre_lower_unicode` and `sre_upper_unicode`: the simple one-character case mappings -/
  lowerChar : Char → Char
  upperChar : Char → Char
  /-- `_EXTRA_CASES` of `re._casefix`: for a lower-cased character, the other lower-cased
  characters with the same upper case (`ı` for `i`, `ſ` for `s`, ...); empty for most -/
  caseFixes : Char → List Char
  /-- `\d` of a str pattern: decimal digits -/
  isDigit : Char → Bool
  /-- `\w` of a str pattern: alphanumeric characters and `_` -/
  isWord : Char → Bool
  lower_ascii : ∀ s : String, (∀ c ∈ s.data, c.toNat < 128) → lower s = ⟨s.data.map Char.toLower⟩
  lowerChar_ascii : ∀ c : Char, c.toNat < 128 → lowerChar c = c.toLower
  upperChar_ascii : ∀ c : Char, c.toNat < 128 → upperChar c = c.toUpper
  /-- the two entries of `_EXTRA_CASES` for ASCII characters -/
  caseFixes_ascii : ∀ c : Char, c.toNat < 128 →
    caseFixes c = if c = 'i' then ['ı'] else if c = 's' then ['ſ'] else []
  /-- every extra case is in the basic plane, so `_optimize_charset` puts it in its bitmap -/
  caseFixes_bmp : ∀ c, ∀ k ∈ caseFixes c, k.toNat < 0x10000
  /-- only a cased character has extra cases, so folding the members of a set without a cased
  member changes nothing -/
  caseFixes_cased : ∀ c, caseFixes c ≠ [] → lowerChar c ≠ c ∨ upperChar c ≠ c
  isDigit_ascii : ∀ c : Char, c.toNat < 128 → isDigit c = c.isDigit
  isWord_ascii : ∀ c : Char, c.toNat < 128 → isWord c = (c.isAlphanum || c == '_')

/-- tables that follow the ASCII rules everywhere: a concrete database for the witnesses -/
def asciiTables : PyUnicode where
  lower s := ⟨s.data.map Char.toLower⟩
  lowerChar := Char.toLower
  upperChar := Char.toUpper
  caseFixes c := if c = 'i' then ['ı'] else if c = 's' then ['ſ'] else []
  isDigit := Char.isDigit
  isWord c := c.isAlphanum || c == '_'
  lower_ascii _ _ := rfl
  lowerChar_ascii _ _ := rfl
  upperChar_ascii _ _ := rfl
  caseFixes_ascii _ _ := rfl
  caseFixes_bmp c k hk := by
    by_cases hi : c = 'i' <;> by_cases hs : c = 's' <;> simp_all
  caseFixes_cased c hc := by
    by_cases hi : c = 'i'
    · subst hi; exact .inr (by decide)
    · by_cases hs : c = 's'
      · subst hs; exact .inr (by decide)
      · simp [hi, hs] at hc
  isDigit_ascii _ _ := rfl
  isWord_ascii _ _ := rfl

end Hydrogram
