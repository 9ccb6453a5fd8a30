/-
The laws of the filter algebra: the rewritings of a filter expression that leave its evaluation as
it is.

A filter tree is a program. Its leaves may read and write the update (`command` writes
`message.command`, `regex` writes `update.matches`), raise or suspend, and `call` runs them left to
right, skipping the right operand of `&` (`|`) when the left one is false (true). A law of the
algebra holds only if the two trees run the same leaves, in the same order, and end with the same
value. `&` and `|` regroup (`(a & b) & c` is `a & (b & c)`), and `~` moves through them by De
Morgan's laws. Commutativity and idempotence are not laws: the leaves would run in another order,
or twice.

A node reads its left operand for its truth value only, and so does `~` its operand: `&` returns
`False` or what its right operand returned, `|` returns `True` or that, `~` returns a Boolean
(`call_and_eq`, `call_or_eq`, `call_invert_eq`). Where only the truth value counts, `~~a` may stand
for `a`; at the root or as a right operand, whose value the tree returns, it may not, since `~~a`
returns `True` where `a` may return any true object. `Rewrite p` is one step of rewriting, at a
position where only the truth value counts (`p = true`) or where the value does (`p = false`).

Results:
- `call_rewrite`: one rewrite step keeps the truth value of the tree's `__call__`, and the whole
  program where the value counts.
- `call_rewrites`: a tree rewritten any number of times is the same program, in every lawful monad:
  `~(a & b)` runs the leaves `~a | ~b` runs, with the same effects, and returns the same value.
-/
import Hydrogram.Filters.Library

namespace Hydrogram

namespace Filter

/-- one rewrite of a filter expression by a law of the algebra, at a position where only the
truth value counts (`p = true`) or where the value does (`p = false`) -/
inductive Rewrite {α : Type} : Bool → Filter α → Filter α → Prop
  | andAssoc (p : Bool) (a b c : Filter α) : Rewrite p (.and (.and a b) c) (.and a (.and b c))
  | orAssoc (p : Bool) (a b c : Filter α) : Rewrite p (.or (.or a b) c) (.or a (.or b c))
  | notAnd (p : Bool) (a b : Filter α) : Rewrite p (.invert (.and a b)) (.or (.invert a) (.invert b))
  | notOr (p : Bool) (a b : Filter α) : Rewrite p (.invert (.or a b)) (.and (.invert a) (.invert b))
  | notNot (a : Filter α) : Rewrite true (.invert (.invert a)) a
  | symm {p : Bool} {s t : Filter α} : Rewrite p s t → Rewrite p t s
  | invert {p : Bool} {s t : Filter α} : Rewrite true s t → Rewrite p (.invert s) (.invert t)
  | andLeft {p : Bool} {s t : Filter α} (u : Filter α) : Rewrite true s t → Rewrite p (.and s u) (.and t u)
  | andRight {p : Bool} {s t : Filter α} (u : Filter α) : Rewrite p s t → Rewrite p (.and u s) (.and u t)
  | orLeft {p : Bool} {s t : Filter α} (u : Filter α) : Rewrite true s t → Rewrite p (.or s u) (.or t u)
  | orRight {p : Bool} {s t : Filter α} (u : Filter α) : Rewrite p s t → Rewrite p (.or u s) (.or u t)

end Filter

open Filter

section Laws

variable {m : Type → Type} [Monad m] [LawfulMonad m] {α V : Type} [PyValue V]
  (leafMode : α → Mode) (run : α → m V)

/-! ## What a node reads of its operands -/

theorem call_invert_eq (a : Filter α) :
    call leafMode run (.invert a) = (fun t => ofBool !t) <$> (truthy <$> call leafMode run a) := by
  simp [call, map_eq_bind_pure_comp]

theorem call_and_eq (a b : Filter α) :
    call leafMode run (.and a b) =
      (truthy <$> call leafMode run a) >>= fun t => if t then call leafMode run b else pure (ofBool false) := by
  simp only [call, dispatch_eq, bind_map_left]
  congr 1; funext x
  cases h : truthy x <;> simp [h, pyAnd]

theorem call_or_eq (a b : Filter α) :
    call leafMode run (.or a b) =
      (truthy <$> call leafMode run a) >>= fun t => if t then pure (ofBool true) else call leafMode run b := by
  simp only [call, dispatch_eq, bind_map_left]
  congr 1; funext x
  cases h : truthy x <;> simp [h, pyOr]

theorem truthy_call_invert (a : Filter α) :
    truthy <$> call leafMode run (.invert a) = (!·) <$> (truthy <$> call leafMode run a) := by
  rw [call_invert_eq, Functor.map_map]
  simp

theorem truthy_call_and (a b : Filter α) :
    truthy <$> call leafMode run (.and a b) =
      (truthy <$> call leafMode run a) >>= fun t => if t then truthy <$> call leafMode run b else pure false := by
  rw [call_and_eq, map_bind]
  congr 1; funext t
  cases t <;> simp

theorem truthy_call_or (a b : Filter α) :
    truthy <$> call leafMode run (.or a b) =
      (truthy <$> call leafMode run a) >>= fun t => if t then pure true else truthy <$> call leafMode run b := by
  rw [call_or_eq, map_bind]
  congr 1; funext t
  cases t <;> simp

/-! ## Rewriting -/

omit [LawfulMonad m] in
/-- the same program has the same truth value, at every position -/
theorem rewrite_of_eq {p : Bool} {s t : Filter α} (h : call leafMode run s = call leafMode run t) :
    truthy <$> call leafMode run s = truthy <$> call leafMode run t ∧
      (p = false → call leafMode run s = call leafMode run t) :=
  ⟨congrArg _ h, fun _ => h⟩

/-- a rewrite step keeps the truth value of the tree's `__call__`, and the whole program where the
value counts -/
theorem call_rewrite {p : Bool} {s t : Filter α} (h : Rewrite p s t) :
    truthy <$> call leafMode run s = truthy <$> call leafMode run t ∧
      (p = false → call leafMode run s = call leafMode run t) := by
  induction h with
  | andAssoc p a b c =>
    refine rewrite_of_eq leafMode run ?_
    rw [call_and_eq, truthy_call_and, bind_assoc, call_and_eq]
    congr 1; funext t
    cases t <;> simp [call_and_eq]
  | orAssoc p a b c =>
    refine rewrite_of_eq leafMode run ?_
    rw [call_or_eq, truthy_call_or, bind_assoc, call_or_eq]
    congr 1; funext t
    cases t <;> simp [call_or_eq]
  | notAnd p a b =>
    refine rewrite_of_eq leafMode run ?_
    simp only [call_invert_eq, truthy_call_and, call_or_eq, truthy_call_invert, map_bind, bind_map_left]
    congr 1; funext x
    cases truthy x <;> simp [call_invert_eq]
  | notOr p a b =>
    refine rewrite_of_eq leafMode run ?_
    simp only [call_invert_eq, truthy_call_or, call_and_eq, truthy_call_invert, map_bind, bind_map_left]
    congr 1; funext x
    cases truthy x <;> simp [call_invert_eq]
  | notNot a =>
    refine ⟨?_, nofun⟩
    rw [truthy_call_invert, truthy_call_invert, Functor.map_map]
    simp
  | symm _ ih => exact ⟨ih.1.symm, fun hp => (ih.2 hp).symm⟩
  | invert _ ih => exact rewrite_of_eq leafMode run (by rw [call_invert_eq, call_invert_eq, ih.1])
  | andLeft u _ ih => exact rewrite_of_eq leafMode run (by rw [call_and_eq, call_and_eq, ih.1])
  | orLeft u _ ih => exact rewrite_of_eq leafMode run (by rw [call_or_eq, call_or_eq, ih.1])
  | andRight u _ ih =>
    exact ⟨by rw [truthy_call_and, truthy_call_and, ih.1],
      fun hp => by rw [call_and_eq, call_and_eq, ih.2 hp]⟩
  | orRight u _ ih =>
    exact ⟨by rw [truthy_call_or, truthy_call_or, ih.1],
      fun hp => by rw [call_or_eq, call_or_eq, ih.2 hp]⟩

/-- **Rewriting keeps the program.** For every lawful monad and every choice of sync and async
leaves: a filter tree rewritten any number of times by the laws, each applied where it keeps the
value, runs the same leaves in the same order with the same effects and returns the same value. -/
theorem call_rewrites {s t : Filter α} (h : Relation.ReflTransGen (Rewrite false) s t) :
    call leafMode run s = call leafMode run t := by
  induction h with
  | refl => rfl
  | tail _ hst ih => exact ih.trans ((call_rewrite leafMode run hst).2 rfl)

/-- `&` is not commutative: with leaves that log themselves and return `True`, `a & b` runs `a`
first and `b & a` runs `b` first. -/
example : ((call (fun _ : Nat => Mode.async) (logged fun _ => PyVal.bool true) (.and (.leaf 0) (.leaf 1))).run []).2 ≠
    ((call (fun _ : Nat => Mode.async) (logged fun _ => PyVal.bool true) (.and (.leaf 1) (.leaf 0))).run []).2 := by
  decide

end Laws

/-- De Morgan on the library's filters: `~(text & command("start"))` is `~text | ~command("start")`,
whose leaves write `message.command`. -/
theorem evalLib_deMorgan :
    evalLib asciiTables ⟨{ id := 1 }⟩ (.invert (.and (.leaf (.attr .text)) (.leaf (.command (command asciiTables (.str "start")))))) =
      evalLib asciiTables ⟨{ id := 1 }⟩
        (.or (.invert (.leaf (.attr .text))) (.invert (.leaf (.command (command asciiTables (.str "start")))))) :=
  call_rewrites _ _ (.single (.notAnd false _ _))

end Hydrogram
