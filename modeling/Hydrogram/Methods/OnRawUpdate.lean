/-
`on_raw_update`: the decorator that registers a function as a handler of raw updates.

`on_raw_update(self, group)` returns `decorator`. Applied to a function, `decorator` registers
`RawUpdateHandler(func)` in group `group` and returns the function itself, so that decorators stack
and each one of a stack sees the same function. Called on a client (`app.on_raw_update(...)`), it
hands the pair to the client's `add_handler`; called through the class (`Client.on_raw_update(...)`
in a plugin), where `self` is not a client, it appends the pair to the function's `handlers`
attribute, creating the list on first use, for the client to find when it loads the plugin.
`add_handler` and the handler table it keeps are the client's, outside this repository: a parameter.

The state (`World`) is each client's handler table and each function's `handlers` attribute, when
it has one; clients and functions are named by their addresses. Since `self` is the first
parameter, `Client.on_raw_update(1)` binds `self` to `1` (`Target.other`) and `group` to `0`.

Results:
- `decorator_handlers`, `decorator_clients`: one decorator registers one pair, where its `self`
  says, and changes nothing else.
- `stack_registers`: a stack of decorators on a function returns the function, appends to its
  `handlers` one pair per decorator called through the class, in the order they run, and hands
  each client one pair per decorator called on it, in that order; nothing else changes.
-/
import Mathlib.Logic.Function.Basic
import Mathlib.Data.List.Basic

namespace Hydrogram

/-- a handler object: `RawUpdateHandler(callback)`, or one another decorator put in a function's
`handlers` -/
inductive Handler where
  | rawUpdate (callback : Nat)
  | other (kind : String) (callback : Nat)
  deriving DecidableEq, Repr

/-- what `on_raw_update` receives as `self`: a client, or an object that is not one -/
inductive Target where
  | client (c : Nat)
  | other
  deriving DecidableEq, Repr

/-- the clients' handler tables, and the functions' `handlers` attributes where they have one -/
structure World (σ : Type) where
  clients : Nat → σ
  handlers : Nat → Option (List (Handler × Int))

/-! ## The decorator -/

section Decorator

variable {σ : Type} (addHandler : σ → Handler → Int → σ)

/-- `decorator(func)`, the function `on_raw_update(self, group)` returns: its result and the world
after it -/
def decorator (self : Target) (group : Int) (func : Nat) (w : World σ) : Nat × World σ :=
  match self with
  | .client c =>
    (func, { w with clients := Function.update w.clients c (addHandler (w.clients c) (.rawUpdate func) group) })
  | .other =>
    -- `if not hasattr(func, "handlers"): func.handlers = []`
    let handlers := (w.handlers func).getD []
    (func, { w with handlers := Function.update w.handlers func (some (handlers ++ [(.rawUpdate func, group)])) })

/-- `on_raw_update(self, group)` -/
def onRawUpdate (self : Target) (group : Int) : Nat → World σ → Nat × World σ :=
  decorator addHandler self group

/-- a stack of decorators `@on_raw_update(self, group)` over a function, innermost first: each one
is applied to what the one below it returned -/
def stack : List (Target × Int) → Nat → World σ → Nat × World σ
  | [], func, w => (func, w)
  | (self, group) :: ds, func, w =>
    let r := onRawUpdate addHandler self group func w
    stack ds r.1 r.2

end Decorator

/-! ## What a stack registers -/

/-- the pairs the decorators of a stack called through the class append to `func.handlers`, in the
order they run -/
def appended (ds : List (Target × Int)) (func : Nat) : List (Handler × Int) :=
  ds.filterMap fun d => if d.1 = .other then some (.rawUpdate func, d.2) else none

/-- the groups the decorators of a stack called on client `c` pass to its `add_handler`, in order -/
def groupsFor (ds : List (Target × Int)) (c : Nat) : List Int :=
  ds.filterMap fun d => if d.1 = .client c then some d.2 else none

/-- a `handlers` attribute after appending `es`: created by the first append, untouched by none -/
def extendHandlers (o : Option (List (Handler × Int))) (es : List (Handler × Int)) :
    Option (List (Handler × Int)) :=
  if es = [] then o else some (o.getD [] ++ es)

theorem extendHandlers_append (o : Option (List (Handler × Int))) (es es' : List (Handler × Int)) :
    extendHandlers (extendHandlers o es) es' = extendHandlers o (es ++ es') := by
  by_cases h : es = [] <;> by_cases h' : es' = [] <;> simp [extendHandlers, h, h']

theorem appended_cons (d : Target × Int) (ds : List (Target × Int)) (func : Nat) :
    appended (d :: ds) func = appended [d] func ++ appended ds func := by
  simp only [appended, List.filterMap_cons, List.filterMap_nil]
  split <;> rfl

theorem groupsFor_cons (d : Target × Int) (ds : List (Target × Int)) (c : Nat) :
    groupsFor (d :: ds) c = groupsFor [d] c ++ groupsFor ds c := by
  simp only [groupsFor, List.filterMap_cons, List.filterMap_nil]
  split <;> rfl

section Registers

variable {σ : Type} (addHandler : σ → Handler → Int → σ)

@[simp] theorem decorator_fst (self : Target) (group : Int) (func : Nat) (w : World σ) :
    (decorator addHandler self group func w).1 = func := by
  cases self <;> rfl

/-- one decorator appends to `func.handlers` when called through the class, and to no other
function's -/
theorem decorator_handlers (self : Target) (group : Int) (func : Nat) (w : World σ) :
    (decorator addHandler self group func w).2.handlers =
      Function.update w.handlers func (extendHandlers (w.handlers func) (appended [(self, group)] func)) := by
  cases self with
  | client c => simp [decorator, appended, extendHandlers]
  | other => simp [decorator, appended, extendHandlers]

/-- one decorator hands its pair to the client it was called on, and to no other -/
theorem decorator_clients (self : Target) (group : Int) (func : Nat) (w : World σ) (c : Nat) :
    (decorator addHandler self group func w).2.clients c =
      (groupsFor [(self, group)] c).foldl (fun t g => addHandler t (.rawUpdate func) g) (w.clients c) := by
  cases self with
  | client c' =>
    by_cases h : c = c'
    · subst h; simp [decorator, groupsFor]
    · simp [decorator, groupsFor, h, Ne.symm h]
  | other => simp [decorator, groupsFor]

theorem stack_fst (ds : List (Target × Int)) (func : Nat) (w : World σ) :
    (stack addHandler ds func w).1 = func := by
  induction ds generalizing w with
  | nil => rfl
  | cons d ds ih => simp only [stack, onRawUpdate, decorator_fst, ih]

theorem stack_handlers (ds : List (Target × Int)) (func : Nat) (w : World σ) :
    (stack addHandler ds func w).2.handlers =
      Function.update w.handlers func (extendHandlers (w.handlers func) (appended ds func)) := by
  induction ds generalizing w with
  | nil => simp [stack, appended, extendHandlers]
  | cons d ds ih =>
    simp only [stack, onRawUpdate, decorator_fst, ih, decorator_handlers, Function.update_idem,
      Function.update_same, extendHandlers_append, ← appended_cons]

theorem stack_clients (ds : List (Target × Int)) (func : Nat) (w : World σ) (c : Nat) :
    (stack addHandler ds func w).2.clients c =
      (groupsFor ds c).foldl (fun t g => addHandler t (.rawUpdate func) g) (w.clients c) := by
  induction ds generalizing w with
  | nil => rfl
  | cons d ds ih =>
    simp only [stack, onRawUpdate, decorator_fst, ih, decorator_clients]
    rw [groupsFor_cons d ds, List.foldl_append]

/-- **A stack of decorators registers each handler once, in order.** For every client's
`add_handler`: a stack of `on_raw_update` decorators over a function returns the function; its
`handlers` gains one pair `(RawUpdateHandler(func), group)` per decorator called through the
class, in the order the decorators run, and is created by the first of them; each client receives
one `add_handler` call per decorator called on it, in that order; no other function's `handlers`
changes. -/
theorem stack_registers (ds : List (Target × Int)) (func : Nat) (w : World σ) :
    (stack addHandler ds func w).1 = func ∧
      (stack addHandler ds func w).2.handlers =
        Function.update w.handlers func (extendHandlers (w.handlers func) (appended ds func)) ∧
      ∀ c, (stack addHandler ds func w).2.clients c =
        (groupsFor ds c).foldl (fun t g => addHandler t (.rawUpdate func) g) (w.clients c) :=
  ⟨stack_fst addHandler ds func w, stack_handlers addHandler ds func w, stack_clients addHandler ds func w⟩

end Registers

end Hydrogram
