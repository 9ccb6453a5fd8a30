/-
The membership filters `user` and `chat`: classes deriving from both `Filter` and `set`, whose
elements are user or chat ids and usernames.

`__init__` is the same for both (`membershipInit`): it takes `None`, one identifier or a list, and
stores each one normalised: `"me"` and `"self"` become `"me"`, any other string is lower-cased and
stripped of `'@'` at both ends, ids stay as they are. `__call__` differs: `user` tests the sender
(`userCall`), `chat` the chat, and answers `"me"` only for an update sent by the account itself
that is not outgoing (`chatCall`). Both read the set only through `in`. They read the update's
attributes as Python does, lazily: `chat` reads `from_user` and `outgoing` only when the id and the
username did not match, so on a `ChatMemberUpdated`, which has no `outgoing`, it raises only there.

The class docstring invites the `set` methods for changing the elements after construction; those
are `set`'s own and store their argument as it is (`SetOp.apply`).

`user_accepts` and `chat_accepts` say what a filter built from a list of identifiers accepts;
`userCall_congr` and `chatCall_congr` that a decision depends on the elements only as a set;
`mem_applyOps` and `mem_membershipInit` what a sequence of insertions stores.

Results:
- `user_add_unnormalized`: `user()` followed by `add("@Alice")` does not accept the messages of
  `@Alice` that `user("@Alice")` accepts.
- `membership_insert_normal`: a filter built from `L₀` and then given `L₁` through `add`, `update`
  and `|=` decides like the filter built from `L₀ ++ L₁`, when every identifier of `L₁` is already
  in normal form.
-/
import Hydrogram.Types

namespace Hydrogram

/-- an element of a membership filter: an id, or a username (`"me"` for the account itself) -/
inductive Ident where
  | id (n : Int)
  | name (s : String)
  deriving DecidableEq, Repr

/-- `str.strip(c)`: drop `c` at both ends -/
def strip (s : String) (c : Char) : String :=
  ⟨((s.data.dropWhile (· == c)).reverse.dropWhile (· == c)).reverse⟩

/-- the normalisation `__init__` applies to every element it is given -/
def normalize (py : PyUnicode) : Ident → Ident
  | .id n => .id n
  | .name s => if s = "me" ∨ s = "self" then .name "me" else .name (strip (py.lower s) '@')

/-- the argument of `user(...)` and `chat(...)`: `None`, one identifier, or a list -/
inductive Idents where
  | none
  | one (i : Ident)
  | list (l : List Ident)

/-- `[] if users is None else users if isinstance(users, list) else [users]` -/
def Idents.toList : Idents → List Ident
  | .none => []
  | .one i => [i]
  | .list l => l

/-- `__init__` of `user` and of `chat`: the set of the normalised identifiers -/
def membershipInit (py : PyUnicode) (ids : Idents) : List Ident :=
  ids.toList.map (normalize py)

/-- `user(users=None)` -/
def user (py : PyUnicode) (users : Idents := .none) : List Ident := membershipInit py users

/-- `chat(chats=None)` -/
def chat (py : PyUnicode) (chats : Idents := .none) : List Ident := membershipInit py chats

/-! ## `__call__` -/

/-- `username and username.lower() in self` -/
def usernameIn (py : PyUnicode) (s : List Ident) : Option String → PyVal
  | none => .none
  | some n => if n = "" then .str "" else .bool (decide (Ident.name (py.lower n) ∈ s))

/-- `user.__call__`: `message.from_user and (id in self or (...) or ("me" in self and is_self))` -/
def userCall (py : PyUnicode) (s : List Ident) (u : Update) : Except PyError PyVal := do
  match ← u.fromUser with
  | none => return .none
  | some user =>
    return pyOr (pyOr (.bool (decide (Ident.id user.id ∈ s))) (usernameIn py s user.username))
      (.bool (decide (Ident.name "me" ∈ s) && user.isSelf))

/-- `"me" in self and message.from_user and message.from_user.is_self and not message.outgoing`:
each operand is read only when the ones before it are true -/
def chatMe (s : List Ident) (u : Update) : Except PyError PyVal := do
  if Ident.name "me" ∈ s then
    match ← u.fromUser with
    | none => return .none
    | some user => if user.isSelf then return .bool !(← u.outgoing) else return .bool false
  else return .bool false

/-- `chat.__call__`: `message.chat and (chat.id in self or (...) or (...))`, where the last
operand of `or` runs only when the first two are false -/
def chatCall (py : PyUnicode) (s : List Ident) (u : Update) : Except PyError PyVal := do
  match ← u.chat with
  | none => return .none
  | some c =>
    let x := pyOr (.bool (decide (Ident.id c.id ∈ s))) (usernameIn py s c.username)
    if truthy x then return x else chatMe s u

section Congr

variable (py : PyUnicode) {s s' : List Ident}

theorem usernameIn_congr (h : ∀ x, x ∈ s ↔ x ∈ s') (n : Option String) :
    usernameIn py s n = usernameIn py s' n := by
  cases n <;> simp [usernameIn, h]

theorem userCall_congr (h : ∀ x, x ∈ s ↔ x ∈ s') (u : Update) :
    userCall py s u = userCall py s' u := by
  simp only [userCall, usernameIn_congr py h, h]

theorem chatCall_congr (h : ∀ x, x ∈ s ↔ x ∈ s') (u : Update) :
    chatCall py s u = chatCall py s' u := by
  simp only [chatCall, chatMe, usernameIn_congr py h, h]

end Congr

/-! ## The set methods -/

/-- the `set` methods that insert: `add(x)`, `update(xs)` and `|= {xs}` -/
inductive SetOp where
  | add (x : Ident)
  | update (xs : List Ident)
  | ior (xs : List Ident)

/-- the identifiers an operation inserts -/
def SetOp.inserted : SetOp → List Ident
  | .add x => [x]
  | .update xs | .ior xs => xs

/-- `set.add`, `set.update`, `set.__ior__`: the identifiers are stored as they are given -/
def SetOp.apply (s : List Ident) : SetOp → List Ident
  | .add x => s ++ [x]
  | .update xs => s ++ xs
  | .ior xs => s ++ xs

/-- a sequence of insertions after construction -/
def applyOps (s : List Ident) (ops : List SetOp) : List Ident := ops.foldl SetOp.apply s

theorem mem_apply (s : List Ident) (op : SetOp) (x : Ident) :
    x ∈ op.apply s ↔ x ∈ s ∨ x ∈ op.inserted := by
  cases op <;> simp [SetOp.apply, SetOp.inserted]

theorem mem_applyOps (s : List Ident) (ops : List SetOp) (x : Ident) :
    x ∈ applyOps s ops ↔ x ∈ s ∨ x ∈ ops.flatMap SetOp.inserted := by
  induction ops generalizing s with
  | nil => simp [applyOps]
  | cons op ops ih =>
    simp only [applyOps, List.foldl_cons] at ih ⊢
    rw [ih, mem_apply]
    simp [or_assoc]

theorem mem_membershipInit (py : PyUnicode) (ids : Idents) (x : Ident) :
    x ∈ membershipInit py ids ↔ ∃ y ∈ ids.toList, normalize py y = x := by
  simp [membershipInit]

/-- `user()` then `add("@Alice")` stores `"@Alice"`; `user("@Alice")` stores `"alice"`. On a
message from `@Alice` the first is false and the second true. -/
theorem user_add_unnormalized : ¬ ∃ py : PyUnicode, ∀ u : Update,
    (userCall py (applyOps (user py) [.add (.name "@Alice")]) u).map truthy =
      (userCall py (user py (.one (.name "@Alice"))) u).map truthy := by
  rintro ⟨py, h⟩
  have hA : py.lower "@Alice" = "@alice" := py.lower_ascii _ (by decide)
  have ha : py.lower "Alice" = "alice" := py.lower_ascii _ (by decide)
  have := h (.message { fromUser := some { id := 7, username := some "Alice" } })
  simp only [userCall, Update.fromUser, usernameIn, user, membershipInit, normalize, applyOps,
    SetOp.apply, Idents.toList, hA, ha, bind, Except.bind, pure, Except.pure, Except.map,
    List.map_cons, List.map_nil, List.foldl_cons, List.foldl_nil] at this
  simp [strip, pyOr] at this

/-- **Insertions after construction.** When every identifier inserted through the set methods is
already in normal form, a `user` or `chat` filter built from `ids` and then given those
identifiers decides every update as the filter built from all of them at once. -/
theorem membership_insert_normal (py : PyUnicode) (ids : Idents) (ops : List SetOp)
    (hn : ∀ x ∈ ops.flatMap SetOp.inserted, normalize py x = x) (u : Update) :
    userCall py (applyOps (user py ids) ops) u =
        userCall py (user py (.list (ids.toList ++ ops.flatMap SetOp.inserted))) u ∧
      chatCall py (applyOps (chat py ids) ops) u =
        chatCall py (chat py (.list (ids.toList ++ ops.flatMap SetOp.inserted))) u := by
  have hmem : ∀ x, x ∈ applyOps (membershipInit py ids) ops ↔
      x ∈ membershipInit py (.list (ids.toList ++ ops.flatMap SetOp.inserted)) := by
    intro x
    simp only [mem_applyOps, mem_membershipInit, Idents.toList, List.mem_append]
    constructor
    · rintro (⟨y, hy, rfl⟩ | hx)
      · exact ⟨y, .inl hy, rfl⟩
      · exact ⟨x, .inr hx, hn x hx⟩
    · rintro ⟨y, hy | hy, rfl⟩
      · exact .inl ⟨y, hy, rfl⟩
      · exact .inr (by rwa [hn y hy])
  exact ⟨userCall_congr py hmem u, chatCall_congr py hmem u⟩

/-- An id inserted after construction is in normal form: `user("@Alice")` and `chat("@Alice")`,
then `add(5)`, on a message from user 5 in chat 5. -/
theorem membership_insert_normal_id : (∀ x ∈ [SetOp.add (.id 5)].flatMap SetOp.inserted,
      normalize asciiTables x = x) ∧
    userCall asciiTables (applyOps (user asciiTables (.one (.name "@Alice"))) [.add (.id 5)])
        (.message { fromUser := some { id := 5 }, chat := some { id := 5, type := .group } }) =
      userCall asciiTables (user asciiTables (.list ([Ident.name "@Alice"] ++
        [SetOp.add (.id 5)].flatMap SetOp.inserted)))
        (.message { fromUser := some { id := 5 }, chat := some { id := 5, type := .group } }) ∧
    chatCall asciiTables (applyOps (chat asciiTables (.one (.name "@Alice"))) [.add (.id 5)])
        (.message { fromUser := some { id := 5 }, chat := some { id := 5, type := .group } }) =
      chatCall asciiTables (chat asciiTables (.list ([Ident.name "@Alice"] ++
        [SetOp.add (.id 5)].flatMap SetOp.inserted)))
        (.message { fromUser := some { id := 5 }, chat := some { id := 5, type := .group } }) :=
  have hn : ∀ x ∈ [SetOp.add (.id 5)].flatMap SetOp.inserted, normalize asciiTables x = x := by
    simp [SetOp.inserted, normalize]
  ⟨hn, membership_insert_normal asciiTables (.one (.name "@Alice")) _ hn _⟩

/-- both sides accept that message: the inserted id is the one that matches -/
example : (userCall asciiTables (applyOps (user asciiTables (.one (.name "@Alice"))) [.add (.id 5)])
      (.message { fromUser := some { id := 5 }, chat := some { id := 5, type := .group } })).map truthy =
      .ok true ∧
    (chatCall asciiTables (applyOps (chat asciiTables (.one (.name "@Alice"))) [.add (.id 5)])
      (.message { fromUser := some { id := 5 }, chat := some { id := 5, type := .group } })).map truthy =
      .ok true :=
  ⟨rfl, rfl⟩

/-! ## What the filters accept -/

theorem truthy_usernameIn (py : PyUnicode) (s : List Ident) (o : Option String) :
    truthy (usernameIn py s o) = true ↔ ∃ n ∈ o, n ≠ "" ∧ Ident.name (py.lower n) ∈ s := by
  cases o with
  | none => simp [usernameIn]
  | some n => by_cases h : n = "" <;> simp [usernameIn, h]

/-- **What `user` accepts.** `user(ids)` accepts an update exactly when the update has a sender and
one of `ids` normalises to the sender's id, to its lower-cased username when that is not empty, or
to `"me"` when the sender is the account itself. -/
theorem user_accepts (py : PyUnicode) (ids : Idents) (u : Update) :
    (userCall py (user py ids) u).map truthy = .ok true ↔
      ∃ sender, u.fromUser = .ok (some sender) ∧
        ((∃ y ∈ ids.toList, normalize py y = .id sender.id) ∨
          (∃ n ∈ sender.username, n ≠ "" ∧ ∃ y ∈ ids.toList, normalize py y = .name (py.lower n)) ∨
          ((∃ y ∈ ids.toList, normalize py y = .name "me") ∧ sender.isSelf = true)) := by
  simp only [userCall, user]
  cases u.fromUser with
  | error e => simp [bind, Except.bind, Except.map]
  | ok o =>
    cases o with
    | none => simp [bind, Except.bind, pure, Except.pure, Except.map]
    | some s =>
      simp only [bind, Except.bind, pure, Except.pure, Except.map, Except.ok.injEq, truthy_pyOr,
        Bool.or_eq_true, PyVal.truthy_bool, decide_eq_true_eq, truthy_usernameIn,
        mem_membershipInit, Bool.and_eq_true, Option.some.injEq, exists_eq_left', or_assoc]

example : (userCall asciiTables (user asciiTables (.list [.name "@Alice", .id 123, .name "me"]))
    (.message { fromUser := some { id := 7, username := some "ALICE" } })).map truthy = .ok true :=
  rfl

theorem chatMe_accepts (s : List Ident) (u : Update) :
    (chatMe s u).map truthy = .ok true ↔ Ident.name "me" ∈ s ∧
      ∃ user, u.fromUser = .ok (some user) ∧ user.isSelf = true ∧ u.outgoing = .ok false := by
  unfold chatMe
  by_cases hme : Ident.name "me" ∈ s
  · rcases hf : u.fromUser with e | _ | user
    · simp [hme, bind, Except.bind, Except.map]
    · simp [hme, bind, Except.bind, pure, Except.pure, Except.map]
    · rcases ho : u.outgoing with e | _ | _ <;> cases hs : user.isSelf <;>
        simp [hme, hs, ho, bind, Except.bind, pure, Except.pure, Except.map]
  · simp [hme, pure, Except.pure, Except.map]

/-- **What `chat` accepts.** `chat(ids)` accepts an update exactly when it has a chat and one of
`ids` normalises to the chat's id, to its lower-cased username when that is not empty, or to
`"me"` when the update was sent by the account itself and is not outgoing: an update of a class
without `outgoing` raises there. -/
theorem chat_accepts (py : PyUnicode) (ids : Idents) (u : Update) :
    (chatCall py (chat py ids) u).map truthy = .ok true ↔
      ∃ c, u.chat = .ok (some c) ∧
        ((∃ y ∈ ids.toList, normalize py y = .id c.id) ∨
          (∃ n ∈ c.username, n ≠ "" ∧ ∃ y ∈ ids.toList, normalize py y = .name (py.lower n)) ∨
          ((∃ y ∈ ids.toList, normalize py y = .name "me") ∧
            ∃ s, u.fromUser = .ok (some s) ∧ s.isSelf = true ∧ u.outgoing = .ok false)) := by
  simp only [chatCall, chat]
  rcases hc : u.chat with e | _ | c
  · simp [bind, Except.bind, Except.map]
  · simp [bind, Except.bind, pure, Except.pure, Except.map]
  · simp only [bind, Except.bind, pure, Except.pure]
    split
    · next hx =>
      refine iff_of_true (congrArg Except.ok hx) ⟨c, rfl, ?_⟩
      simp only [truthy_pyOr, Bool.or_eq_true, PyVal.truthy_bool, decide_eq_true_eq,
        truthy_usernameIn, mem_membershipInit] at hx
      exact hx.imp id .inl
    · next hx =>
      simp only [truthy_pyOr, Bool.or_eq_true, PyVal.truthy_bool, decide_eq_true_eq,
        truthy_usernameIn, mem_membershipInit, not_or] at hx
      rw [chatMe_accepts, mem_membershipInit]
      simp only [Except.ok.injEq, Option.some.injEq, exists_eq_left', hx.1, hx.2, false_or]

end Hydrogram
