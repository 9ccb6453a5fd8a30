/-
Augmented assignment on filter objects: `a &= b` and `a |= b`.

Python runs `a &= b` as `a = type(a).__iand__(a, b)` when the class has an `__iand__` and it does
not return `NotImplemented`, and as `a = a & b` otherwise; `a & b` calls `type(a).__and__`. A method
is looked up along the class's MRO. `Filter` defines `__and__` and `__or__`; `set` defines those and
`__iand__`, `__ior__`. So a plain filter has no in-place method and `a &= b` builds an `AndFilter`,
while `user` and `chat`, whose MRO is `[user, Filter, set, object]`, take `__and__` from `Filter`
and `__iand__` from `set`: when `b` is a set too, `a &= b` intersects `a`'s elements in place.

Objects live on a heap (`Heap`), each pointing only at objects created before it, and an object
stands for the filter tree below it (`Heap.treeOf`), whose leaves are labelled by their objects.
The reflected methods (`__rand__`, `__ror__`) are left out: `Filter.__and__` and `Filter.__or__`
come first in every filter class's MRO and never return `NotImplemented` (`lookup_op`).

Results:
- `lookup_op`, `lookup_iop`: where the operator methods of every filter class come from.
- `augmented_assign`: when `a` and `b` are not both membership filters, `a &= b` (`a |= b`) binds
  `a` to a new `AndFilter(a, b)` (`OrFilter(a, b)`) and every existing object keeps its tree; when
  both are, it changes the elements of `a` in place, and every tree holding `a` sees the change.
- `augmented_in_place`: `user({1}) &= chat({2})` is not `AndFilter(user({1}), chat({2}))`.
-/
import Hydrogram.Filters.Library

namespace Hydrogram

/-! ## Classes and method lookup -/

/-- the classes of filter objects, and the two others `user` and `chat` derive from -/
inductive Cls where
  | filter | invertFilter | andFilter | orFilter | created | user | chat | set | object
  deriving DecidableEq, Repr

/-- `__mro__`, the linearisation of each class's bases -/
def Cls.mro : Cls → List Cls
  | .filter => [.filter, .object]
  | .invertFilter => [.invertFilter, .filter, .object]
  | .andFilter => [.andFilter, .filter, .object]
  | .orFilter => [.orFilter, .filter, .object]
  | .created => [.created, .filter, .object]
  | .user => [.user, .filter, .set, .object]
  | .chat => [.chat, .filter, .set, .object]
  | .set => [.set, .object]
  | .object => [.object]

/-- `&` and `|` -/
inductive BinOp where
  | and | or
  deriving DecidableEq, Repr

/-- the operator methods: `__and__`, `__or__` and the in-place `__iand__`, `__ior__` -/
inductive Method where
  | op (o : BinOp)
  | iop (o : BinOp)
  deriving DecidableEq, Repr

/-- the methods a class body defines: `Filter` the two operators, `set` those and the in-place
ones -/
def Cls.defines : Cls → Method → Bool
  | .filter, .op _ => true
  | .set, _ => true
  | _, _ => false

/-- a method looked up on a class: the first class of its MRO that defines it -/
def Cls.lookup (c : Cls) (m : Method) : Option Cls := c.mro.find? (·.defines m)

/-! ## Filter objects -/

/-- the two membership classes -/
inductive MemberKind where
  | user | chat
  deriving DecidableEq, Repr

/-- a leaf filter object: a membership filter with its elements, or an instance of a class made
by `create` -/
inductive LeafObj (α : Type) where
  | members (k : MemberKind) (s : List Ident)
  | created (f : α)

/-- a filter object -/
inductive PyObj (α : Type) where
  | invert (base : Nat)
  | and (base other : Nat)
  | or (base other : Nat)
  | leaf (l : LeafObj α)

variable {α : Type}

/-- the objects an object points at -/
def PyObj.refs : PyObj α → List Nat
  | .invert b => [b]
  | .and b c | .or b c => [b, c]
  | .leaf _ => []

/-- `type(obj)` -/
def PyObj.cls : PyObj α → Cls
  | .invert _ => .invertFilter
  | .and _ _ => .andFilter
  | .or _ _ => .orFilter
  | .leaf (.members .user _) => .user
  | .leaf (.members .chat _) => .chat
  | .leaf (.created _) => .created

/-- `Filter.__and__` builds an `AndFilter`, `Filter.__or__` an `OrFilter` -/
def BinOp.node (o : BinOp) (a b : Nat) : PyObj α :=
  match o with
  | .and => .and a b
  | .or => .or a b

/-- what `set.__iand__` (`intersection_update`) and `set.__ior__` (`update`) make of `self` -/
def BinOp.inplace (o : BinOp) (s t : List Ident) : List Ident :=
  match o with
  | .and => s.filter (· ∈ t)
  | .or => s ++ t

theorem lookup_op (x : PyObj α) (o : BinOp) : x.cls.lookup (.op o) = some .filter := by
  rcases x with _ | _ | _ | ⟨_ | _, _⟩ | _ <;> cases o <;> rfl

theorem lookup_iop (x : PyObj α) (o : BinOp) :
    x.cls.lookup (.iop o) = match x with
      | .leaf (.members _ _) => some .set
      | _ => none := by
  rcases x with _ | _ | _ | ⟨_ | _, _⟩ | _ <;> cases o <;> rfl

/-! ## The heap -/

/-- the objects alive; each points only at objects created before it -/
structure Heap (α : Type) where
  objs : List (PyObj α)
  wf : ∀ (i : Nat) (x : PyObj α), objs[i]? = some x → ∀ r ∈ x.refs, r < i

/-- no objects -/
def Heap.empty : Heap α := ⟨[], by simp⟩

/-- allocate an object -/
def Heap.push (h : Heap α) (x : PyObj α) (hx : ∀ r ∈ x.refs, r < h.objs.length) : Heap α where
  objs := h.objs ++ [x]
  wf i y hy r hr := by
    rcases Nat.lt_or_ge i h.objs.length with hi | hi
    · rw [List.getElem?_append_left hi] at hy
      exact h.wf i y hy r hr
    · rw [List.getElem?_append_right hi] at hy
      rcases Nat.eq_or_lt_of_le hi with rfl | hi'
      · simp only [Nat.sub_self, List.getElem?_cons_zero, Option.some.injEq] at hy
        subst hy
        exact hx r hr
      · rw [List.getElem?_eq_none (by simp; omega)] at hy
        cases hy

/-- replace the object at `a` by a leaf -/
def Heap.setLeaf (h : Heap α) (a : Nat) (l : LeafObj α) : Heap α where
  objs := h.objs.set a (.leaf l)
  wf i y hy r hr := by
    rw [List.getElem?_set] at hy
    split at hy
    · split at hy <;> cases hy; simp [PyObj.refs] at hr
    · exact h.wf i y hy r hr

/-- the elements of a `set` object: a membership filter's -/
def Heap.members (h : Heap α) (r : Nat) : Option (List Ident) :=
  match h.objs[r]? with
  | some (.leaf (.members _ s)) => some s
  | _ => none

/-- `type(a).__and__(a, b)`, `type(a).__or__(a, b)` -/
def binary (o : BinOp) (h : Heap α) (a b : Nat) : Option (Heap α × Nat) :=
  match (h.objs[a]?).map (·.cls.lookup (.op o)) with
  | some (some Cls.filter) =>
    if hab : a < h.objs.length ∧ b < h.objs.length then
      some (h.push (o.node a b) (by cases o <;> simp [BinOp.node, PyObj.refs, hab]),
        h.objs.length)
    else none
  | _ => none

/-- `a &= b`, `a |= b`: `type(a).__iand__(a, b)` when the class has it and it does not return
`NotImplemented` (`set.__iand__` does unless `b` is a set), else `a & b`; `a` is bound to the
result -/
def augmented (o : BinOp) (h : Heap α) (a b : Nat) : Option (Heap α × Nat) :=
  match (h.objs[a]?).map (·.cls.lookup (.iop o)) with
  | some (some Cls.set) =>
    match h.objs[a]?, h.members b with
    | some (.leaf (.members k s)), some t => some (h.setLeaf a (.members k (o.inplace s t)), a)
    | _, _ => binary o h a b
  | _ => binary o h a b

/-! ## The tree an object stands for -/

/-- the filter tree below an object, its leaves labelled by their objects; `fuel` bounds the
depth -/
def Heap.tree (h : Heap α) : Nat → Nat → Option (Filter (Nat × LeafObj α))
  | 0, _ => none
  | n + 1, r =>
    match h.objs[r]? with
    | some (.leaf l) => some (.leaf (r, l))
    | some (.invert b) => (h.tree n b).map .invert
    | some (.and b c) => do return .and (← h.tree n b) (← h.tree n c)
    | some (.or b c) => do return .or (← h.tree n b) (← h.tree n c)
    | none => none

/-- the tree of an object: the objects below it were all created before it -/
def Heap.treeOf (h : Heap α) (r : Nat) : Option (Filter (Nat × LeafObj α)) := h.tree (r + 1) r

/-- the tree under another object: `Filter.__and__`'s node over two trees -/
def BinOp.tree {β : Type} (o : BinOp) (x y : Filter β) : Filter β :=
  match o with
  | .and => .and x y
  | .or => .or x y

/-- the leaf `a` given the object `l` -/
def relabel (a : Nat) (l : LeafObj α) (p : Nat × LeafObj α) : Nat × LeafObj α :=
  if p.1 = a then (a, l) else p

theorem Heap.refs_lt (h : Heap α) {r : Nat} {x : PyObj α} (hx : h.objs[r]? = some x) {c : Nat}
    (hc : c ∈ x.refs) : c < r :=
  h.wf r x hx c hc

/-- Enough fuel gives the same tree. -/
theorem Heap.tree_fuel (h : Heap α) : ∀ n m r, r < n → r < m → h.tree n r = h.tree m r
  | 0, _, _, hn, _ => absurd hn (Nat.not_lt_zero _)
  | _ + 1, 0, _, _, hm => absurd hm (Nat.not_lt_zero _)
  | n + 1, m + 1, r, hn, hm => by
    have ih : ∀ x, h.objs[r]? = some x → ∀ c ∈ x.refs, h.tree n c = h.tree m c :=
      fun x hx c hc => h.tree_fuel n m c (by have := h.refs_lt hx hc; omega)
        (by have := h.refs_lt hx hc; omega)
    simp only [Heap.tree]
    cases hx : h.objs[r]? with
    | none => rfl
    | some x =>
      have := ih x hx
      cases x <;> simp_all [PyObj.refs]

theorem Heap.treeOf_eq (h : Heap α) {n r : Nat} (hr : r < n) : h.tree n r = h.treeOf r :=
  h.tree_fuel n (r + 1) r hr (Nat.lt_succ_self r)

/-- Allocation leaves the trees of the objects already there. -/
theorem Heap.tree_push (h : Heap α) (x : PyObj α) (hx : ∀ r ∈ x.refs, r < h.objs.length) :
    ∀ n r, r < h.objs.length → (h.push x hx).tree n r = h.tree n r
  | 0, _, _ => rfl
  | n + 1, r, hr => by
    have hget : (h.push x hx).objs[r]? = h.objs[r]? := List.getElem?_append_left hr
    have ih : ∀ y, h.objs[r]? = some y → ∀ c ∈ y.refs, (h.push x hx).tree n c = h.tree n c :=
      fun y hy c hc => h.tree_push x hx n c (by have := h.refs_lt hy hc; omega)
    simp only [Heap.tree, hget]
    cases hy : h.objs[r]? with
    | none => rfl
    | some y =>
      have := ih y hy
      cases y <;> simp_all [PyObj.refs]

/-- Changing the leaf object `a` changes that leaf in every tree. -/
theorem Heap.tree_setLeaf (h : Heap α) {a : Nat} {l₀ : LeafObj α} (ha : h.objs[a]? = some (.leaf l₀))
    (l : LeafObj α) : ∀ n r, (h.setLeaf a l).tree n r = (h.tree n r).map (Filter.map (relabel a l))
  | 0, _ => rfl
  | n + 1, r => by
    have ih := h.tree_setLeaf ha l n
    by_cases hra : a = r
    · subst hra
      have hlt : a < h.objs.length := (List.getElem?_eq_some_iff.mp ha).1
      simp [Heap.tree, Heap.setLeaf, List.getElem?_set_self hlt, ha, Filter.map, relabel]
    · have hget : (h.setLeaf a l).objs[r]? = h.objs[r]? := List.getElem?_set_ne hra
      simp only [Heap.tree, hget]
      cases hy : h.objs[r]? with
      | none => rfl
      | some y =>
        cases y with
        | leaf l' => simp [Filter.map, relabel, Ne.symm hra]
        | invert b =>
          simp only [ih, Option.map_map]
          cases h.tree n b <;> rfl
        | and b c =>
          simp only [ih]
          cases h.tree n b <;> cases h.tree n c <;> rfl
        | or b c =>
          simp only [ih]
          cases h.tree n b <;> cases h.tree n c <;> rfl

theorem binary_eq (o : BinOp) (h : Heap α) {a b : Nat} (ha : a < h.objs.length)
    (hb : b < h.objs.length) :
    ∃ hx, binary o h a b = some (h.push (o.node a b) hx, h.objs.length) := by
  obtain ⟨x, hx⟩ : ∃ x, h.objs[a]? = some x := ⟨_, List.getElem?_eq_getElem ha⟩
  refine ⟨?_, ?_⟩
  · cases o <;> simp [BinOp.node, PyObj.refs, ha, hb]
  · simp only [binary, hx, Option.map_some', lookup_op, dif_pos (And.intro ha hb)]

/-- **Augmented assignment.** For two objects `a` and `b`: when they are not both membership
filters, `a &= b` (`a |= b`) binds `a` to a new object whose tree is `AndFilter` (`OrFilter`) over
the trees of `a` and `b`, and every object already there keeps its tree. When both are, `a` stays
bound to the same object, whose elements become the intersection (union) of the two sets, and
the tree of every object is its old tree with `a`'s leaf changed. -/
theorem augmented_assign (o : BinOp) (h : Heap α) (a b : Nat) (ha : a < h.objs.length)
    (hb : b < h.objs.length) :
    ((h.members a = none ∨ h.members b = none) →
      ∃ h', augmented o h a b = some (h', h.objs.length) ∧
        h'.treeOf h.objs.length = (do return o.tree (← h.treeOf a) (← h.treeOf b)) ∧
        ∀ r < h.objs.length, h'.treeOf r = h.treeOf r) ∧
    (∀ k s t, h.objs[a]? = some (.leaf (.members k s)) → h.members b = some t →
      ∃ h', augmented o h a b = some (h', a) ∧ h'.members a = some (o.inplace s t) ∧
        ∀ r, h'.treeOf r =
          (h.treeOf r).map (Filter.map (relabel a (.members k (o.inplace s t))))) := by
  obtain ⟨hx, hbin⟩ := binary_eq o h ha hb
  refine ⟨fun hnm => ⟨h.push (o.node a b) hx, ?_, ?_, fun r hr => ?_⟩,
    fun k s t hs ht => ⟨h.setLeaf a (.members k (o.inplace s t)), ?_, ?_, fun r => ?_⟩⟩
  · obtain ⟨x, hxa⟩ : ∃ x, h.objs[a]? = some x := ⟨_, List.getElem?_eq_getElem ha⟩
    rw [← hbin]
    unfold augmented
    rw [hxa, Option.map_some', lookup_iop]
    cases x with
    | leaf l =>
      cases l with
      | members k s =>
        have : h.members b = none := by simpa [Heap.members, hxa] using hnm
        simp only [this]
      | created f => rfl
    | _ => rfl
  · have hlast : (h.push (o.node a b) hx).objs[h.objs.length]? = some (o.node a b) := by
      simp [Heap.push]
    have hta := h.tree_push _ hx h.objs.length a ha
    have htb := h.tree_push _ hx h.objs.length b hb
    rw [h.treeOf_eq ha] at hta
    rw [h.treeOf_eq hb] at htb
    generalize h.push (o.node a b) hx = h' at hlast hta htb ⊢
    cases o <;> simp [Heap.treeOf, Heap.tree, hlast, BinOp.node, BinOp.tree, hta, htb]
  · exact h.tree_push _ hx _ _ hr
  · simp [augmented, hs, lookup_iop, ht]
  · simp [Heap.members, Heap.setLeaf, List.getElem?_set_self ha]
  · exact h.tree_setLeaf hs _ _ _

/-- `a = user([1])`, `b = chat([2])` -/
def userChatHeap : Heap LibFilter :=
  (Heap.empty.push (.leaf (.members .user [.id 1])) (by simp [PyObj.refs])).push
    (.leaf (.members .chat [.id 2])) (by simp [PyObj.refs])

/-- `a = filters.text`, `b = chat([2])` -/
def textChatHeap : Heap LibFilter :=
  (Heap.empty.push (.leaf (.created (.attr .text))) (by simp [PyObj.refs])).push
    (.leaf (.members .chat [.id 2])) (by simp [PyObj.refs])

/-- `a &= b` on `a = user([1])`, `b = chat([2])` changes the elements of `a` in place; on
`a = filters.text`, `b = chat([2])` it binds `a` to a new `AndFilter(a, b)`, object 2. -/
theorem augmented_assign_user_chat :
    (∃ h', augmented .and userChatHeap 0 1 = some (h', 0) ∧
      h'.members 0 = some (BinOp.and.inplace [.id 1] [.id 2]) ∧
      ∀ r, h'.treeOf r = (userChatHeap.treeOf r).map
        (Filter.map (relabel 0 (.members .user (BinOp.and.inplace [.id 1] [.id 2]))))) ∧
    (∃ h', augmented .and textChatHeap 0 1 = some (h', 2) ∧
      h'.treeOf 2 = (do return BinOp.and.tree (← textChatHeap.treeOf 0) (← textChatHeap.treeOf 1)) ∧
      ∀ r < 2, h'.treeOf r = textChatHeap.treeOf r) :=
  ⟨(augmented_assign .and userChatHeap 0 1 (by decide) (by decide)).2 .user [.id 1] [.id 2] rfl rfl,
    (augmented_assign .and textChatHeap 0 1 (by decide) (by decide)).1 (.inl rfl)⟩

/-- a leaf object as a library filter -/
def LeafObj.toLib : LeafObj LibFilter → LibFilter
  | .members .user s => .user s
  | .members .chat s => .chat s
  | .created f => f

/-- `__call__` of the tree an object stands for -/
def objCall (py : PyUnicode) (client : Client) (t : Filter (Nat × LeafObj LibFilter)) :
    EStateM PyError Update PyVal :=
  evalLib py client (t.map fun p => p.2.toLib)

/-- `a = user([1])`, `b = chat([2])`, `a &= b`: `a` is now `user([])`, which rejects a message
from user 1 in chat 2 that `AndFilter(user([1]), chat([2]))` accepts. -/
theorem augmented_in_place : ¬ ∃ py : PyUnicode, ∀ u,
    ((augmented .and ((Heap.empty.push (.leaf (.members .user [.id 1])) (by simp [PyObj.refs])).push
        (.leaf (.members .chat [.id 2])) (by simp [PyObj.refs])) 0 1).bind
        fun r => r.1.treeOf r.2).map (fun t => objCall py ⟨{ id := 1 }⟩ t u) =
      (((Heap.empty.push (.leaf (.members .user [.id 1])) (by simp [PyObj.refs])).push
          (.leaf (.members .chat [.id 2])) (by simp [PyObj.refs])).treeOf 0).bind fun x =>
        (((Heap.empty.push (.leaf (.members .user [.id 1])) (by simp [PyObj.refs])).push
          (.leaf (.members .chat [.id 2])) (by simp [PyObj.refs])).treeOf 1).map fun y =>
          objCall py ⟨{ id := 1 }⟩ (.and x y) u := by
  rintro ⟨py, h⟩
  have := h (.message { fromUser := some { id := 1 }, chat := some { id := 2, type := .group } })
  exact absurd this (by intro h; cases h)

end Hydrogram
