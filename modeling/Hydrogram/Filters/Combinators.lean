/-
The filter algebra of `filters.py`: `~f`, `f & g` and `f | g` build `InvertFilter`, `AndFilter`
and `OrFilter` nodes over leaf filters, and a node's `__call__` awaits its children.

`call` is the code. Each child is run through `dispatch`: a child whose `__call__` is a coroutine
function is awaited, any other is sent to the executor (`run_in_executor`). `&` returns `False`
when its left operand is false and `x and y` otherwise, `|` returns `True` when its left operand
is true and `x or y` otherwise, `~` returns `not x`. `call` is stated for every monad, so a leaf
may read and write the update, raise, or suspend: the monad is the leaves' world.

`shortCircuit` is what the combinators are for: Boolean evaluation, left to right, where the right
operand of `&` (of `|`) runs only when the left one is true (false).

Results:
- `call_shortCircuit`: in every lawful monad, the truth value of `call t` is `shortCircuit t` over
  the leaves' truth values. Equality of the two monadic programs means the same leaves run in the
  same order with the same effects, and the Boolean results agree; sync and async leaves alike.
- `call_visited`: the same, read off a log of leaf invocations for leaves that return fixed values:
  the leaves run are those `visited` lists, in its order.
-/
import Hydrogram.Python

namespace Hydrogram

/-- `inspect.iscoroutinefunction(f.__call__)`: awaited directly, or run in the executor -/
inductive Mode where
  | sync | async
  deriving DecidableEq, Repr

/-- a filter tree over leaf filters of type `α` -/
inductive Filter (α : Type) where
  | leaf (f : α)
  | invert (base : Filter α)
  | and (base other : Filter α)
  | or (base other : Filter α)
  deriving DecidableEq, Repr

namespace Filter

variable {α : Type}

/-- how a parent runs this node: the combinators' `__call__` are `async def` -/
def mode (leafMode : α → Mode) : Filter α → Mode
  | .leaf f => leafMode f
  | _ => .async

/-- the same tree over other leaves -/
def map {β : Type} (f : α → β) : Filter α → Filter β
  | .leaf a => .leaf (f a)
  | .invert t => .invert (t.map f)
  | .and a b => .and (a.map f) (b.map f)
  | .or a b => .or (a.map f) (b.map f)

/-- the leaf occurrences, left to right -/
def leaves : Filter α → List α
  | .leaf f => [f]
  | .invert t => t.leaves
  | .and a b | .or a b => a.leaves ++ b.leaves

end Filter

section Call

variable {m : Type → Type} {α V : Type}

/-- `client.loop.run_in_executor(client.executor, f, client, update)`: a worker runs the callable
to completion and the awaiting coroutine resumes with its result -/
def runInExecutor (x : m V) : m V := x

/-- how a combinator invokes a child of the given mode -/
def dispatch (mode : Mode) (x : m V) : m V :=
  match mode with
  | .async => x
  | .sync => runInExecutor x

@[simp] theorem dispatch_eq (mode : Mode) (x : m V) : dispatch mode x = x := by
  cases mode <;> rfl

variable [Monad m] [PyValue V] (leafMode : α → Mode) (run : α → m V)

/-- `__call__` of a filter tree: `InvertFilter`, `AndFilter` and `OrFilter` over the leaves' own
`__call__` -/
def call : Filter α → m V
  | .leaf f => run f
  | .invert base => do
    let x ← dispatch (base.mode leafMode) (call base)
    return ofBool (!truthy x)
  | .and base other => do
    let x ← dispatch (base.mode leafMode) (call base)
    if !truthy x then return ofBool false
    let y ← dispatch (other.mode leafMode) (call other)
    return pyAnd x y
  | .or base other => do
    let x ← dispatch (base.mode leafMode) (call base)
    if truthy x then return ofBool true
    let y ← dispatch (other.mode leafMode) (call other)
    return pyOr x y

end Call

/-- short-circuit Boolean evaluation, left to right -/
def shortCircuit {m : Type → Type} [Monad m] {α : Type} (leaf : α → m Bool) : Filter α → m Bool
  | .leaf f => leaf f
  | .invert t => do return !(← shortCircuit leaf t)
  | .and a b => do if (← shortCircuit leaf a) then shortCircuit leaf b else return false
  | .or a b => do if (← shortCircuit leaf a) then return true else shortCircuit leaf b

section Lawful

variable {m : Type → Type} [Monad m] [LawfulMonad m] {α V : Type} [PyValue V]
  (leafMode : α → Mode) (run : α → m V)

/-- **Combinators evaluate short-circuit.** For every lawful monad, every choice of sync and
async leaves and every tree: the truth value of the tree's `__call__` is the short-circuit
evaluation of the tree over the truth values its leaves return. -/
theorem call_shortCircuit (t : Filter α) :
    truthy <$> call leafMode run t = shortCircuit (fun f => truthy <$> run f) t := by
  induction t with
  | leaf f => rfl
  | invert base ih =>
    simp only [call, shortCircuit, dispatch_eq, ← ih, map_bind, bind_map_left,
      PyValue.truthy_ofBool, map_pure]
  | and base other ihb iho =>
    simp only [call, shortCircuit, dispatch_eq, ← ihb, ← iho, map_bind, bind_map_left]
    congr 1; funext x
    cases h : truthy x <;> simp [h]
  | or base other ihb iho =>
    simp only [call, shortCircuit, dispatch_eq, ← ihb, ← iho, map_bind, bind_map_left]
    congr 1; funext x
    cases h : truthy x <;> simp [h]

/-- Leaves that raise or return, in `Except`: `~leaf 1 | leaf 0`. -/
theorem call_shortCircuit_except :
    truthy <$> call (fun _ : Nat => Mode.sync) (fun n => if n = 0 then
        (Except.error (.valueError "leaf") : Except PyError PyVal) else pure (.bool true))
        (.or (.invert (.leaf 1)) (.leaf 0)) =
      shortCircuit (fun n => truthy <$> if n = 0 then
        (Except.error (.valueError "leaf") : Except PyError PyVal) else pure (.bool true))
        (.or (.invert (.leaf 1)) (.leaf 0)) :=
  call_shortCircuit _ _ _

/-! ## The order of invocations, logged -/

/-- the leaf occurrences a short-circuit evaluation runs, in order, and its result, when leaf `f`
is worth `val f` -/
def visited (val : α → Bool) : Filter α → List α × Bool
  | .leaf f => ([f], val f)
  | .invert t => ((visited val t).1, !(visited val t).2)
  | .and a b =>
    if (visited val a).2 then ((visited val a).1 ++ (visited val b).1, (visited val b).2)
    else ((visited val a).1, false)
  | .or a b =>
    if (visited val a).2 then ((visited val a).1, true)
    else ((visited val a).1 ++ (visited val b).1, (visited val b).2)

/-- a leaf that appends itself to a log of invocations and returns `v f` -/
def logged {W : Type} (v : α → W) (f : α) : StateM (List α) W := do
  modify (· ++ [f])
  return v f

omit [Monad m] [LawfulMonad m] in
/-- a run over logged leaves appends the leaves `visited` lists to the log, and its value has the
truth value `visited` computes -/
theorem call_logged_run (v : α → V) (t : Filter α) (log : List α) :
    ∃ x, (call leafMode (logged v) t).run log = (x, log ++ (visited (truthy ∘ v) t).1) ∧
      truthy x = (visited (truthy ∘ v) t).2 := by
  induction t generalizing log with
  | leaf f => exact ⟨v f, rfl, rfl⟩
  | invert t ih =>
    obtain ⟨x, hx, hv⟩ := ih log
    exact ⟨ofBool !truthy x, by simp [call, StateT.run_bind, hx, visited], by simp [visited, hv]⟩
  | and a b iha ihb =>
    obtain ⟨x, hx, hv⟩ := iha log
    cases h : truthy x
    · exact ⟨ofBool false, by simp [call, StateT.run_bind, hx, h, visited, ← hv],
        by simp [visited, ← hv, h]⟩
    · obtain ⟨y, hy, hw⟩ := ihb (log ++ (visited (truthy ∘ v) a).1)
      exact ⟨pyAnd x y, by simp [call, StateT.run_bind, hx, h, hy, visited, ← hv],
        by simp [visited, ← hv, h, hw, truthy_pyAnd]⟩
  | or a b iha ihb =>
    obtain ⟨x, hx, hv⟩ := iha log
    cases h : truthy x
    · obtain ⟨y, hy, hw⟩ := ihb (log ++ (visited (truthy ∘ v) a).1)
      exact ⟨pyOr x y, by simp [call, StateT.run_bind, hx, h, hy, visited, ← hv],
        by simp [visited, ← hv, h, hw, truthy_pyOr]⟩
    · exact ⟨ofBool true, by simp [call, StateT.run_bind, hx, h, visited, ← hv],
        by simp [visited, ← hv, h]⟩

omit [Monad m] [LawfulMonad m] in
/-- Logged: the leaves of `t` are invoked in the order `visited` lists, each once, and the truth
value of the result is `visited`'s Boolean. -/
theorem call_visited (v : α → V) (t : Filter α) :
    ((call leafMode (logged v) t).run []).2 = (visited (truthy ∘ v) t).1 ∧
      truthy ((call leafMode (logged v) t).run []).1 = (visited (truthy ∘ v) t).2 := by
  obtain ⟨x, hx, hv⟩ := call_logged_run leafMode v t []
  rw [hx]
  exact ⟨List.nil_append _, hv⟩

end Lawful

end Hydrogram
