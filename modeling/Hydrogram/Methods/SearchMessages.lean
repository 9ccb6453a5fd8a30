/-
`search_messages`: an async generator that pages through a chat's search results.

Each request (`get_chunk`) asks the server for up to `limit` results starting `add_offset` results
in; the loop advances the offset by the number of messages received, yields them one by one
counting them in `current`, and returns when a request brings no message or when `current`
reaches `total`, which is `abs(limit) or 2**31 - 1`. Every request asks for `min(100, total)`.

The server is a fixed ordered list of results (`Server`). It answers a request whose offset is
inside the list with a non-empty window there, of a size of its choosing up to the limit, and any
other request with nothing. The choice may depend on anything: the client is deterministic, so any
strategy of the server is a sequence of sizes, one per request (`Server.size`).

The generator is a state machine (`Gen`) whose step yields at most one message (`Gen.step`).

Results:
- `step_inv`, `run_inv`: what has been yielded is the slice of the results from the initial offset
  up to `current`; at a request the offset is that slice's end; inside the loop over a chunk the
  pending messages are the next ones of the list; once returned, the whole slice was yielded.
- `step_measure`, `run_returns`: every step before the return decreases a measure bounded by
  `3 * len(results) + 1`, so the generator returns within that many steps.
- `searchMessages_slice`: `search_messages` returns and yields exactly
  `results[offset : offset + total]`, in order.
-/
import Hydrogram.Python

namespace Hydrogram

variable {α : Type}

/-- the server: the ordered results of the search, and the size of the window it sends back to
the `i`-th request -/
structure Server (α : Type) where
  results : List α
  size : Nat → Nat
  size_pos : ∀ i, 0 < size i

/-- `get_chunk(..., offset=offset, limit=limit)`, the `i`-th request -/
def Server.getChunk (srv : Server α) (i offset limit : Nat) : List α :=
  if offset < srv.results.length then (srv.results.drop offset).take (min (srv.size i) limit)
  else []

/-- `abs(limit) or (1 << 31) - 1` -/
def searchTotal (limit : Int) : Nat := if limit.natAbs ≠ 0 then limit.natAbs else 2 ^ 31 - 1

/-- where the generator is: at the `get_chunk` call of the `while` loop, in the `for` loop over
the messages of a chunk not yet yielded, or returned -/
inductive Pc (α : Type) where
  | request
  | yielding (rest : List α)
  | returned

/-- the generator's local state -/
structure Gen (α : Type) where
  offset : Nat
  current : Nat
  /-- the requests made so far -/
  requests : Nat
  pc : Pc α

section Machine

variable (srv : Server α) (total : Nat)

/-- one step of the generator, and the message it yields, if any -/
def Gen.step (g : Gen α) : Option α × Gen α :=
  match g.pc with
  | .request =>
    let messages := srv.getChunk g.requests g.offset (min 100 total)
    if messages.isEmpty then (none, { g with pc := .returned })
    else
      (none, { g with
        offset := g.offset + messages.length
        requests := g.requests + 1
        pc := .yielding messages })
  | .yielding [] => (none, { g with pc := .request })
  | .yielding (m :: ms) =>
    (some m, { g with
      current := g.current + 1
      pc := if g.current + 1 ≥ total then .returned else .yielding ms })
  | .returned => (none, g)

/-- `n` steps: the messages yielded and the state reached -/
def Gen.run : Nat → Gen α → List α × Gen α
  | 0, g => ([], g)
  | n + 1, g =>
    let r := (g.step srv total).2.run n
    ((g.step srv total).1.toList ++ r.1, r.2)

end Machine

/-- `search_messages(chat_id, offset=offset, limit=limit)`, run for `fuel` steps from its start -/
def searchMessages (srv : Server α) (offset : Nat) (limit : Int) (fuel : Nat) : List α × Gen α :=
  Gen.run srv (searchTotal limit) fuel ⟨offset, 0, 0, .request⟩

/-! ## The invariant -/

section Invariant

variable (srv : Server α) (total o₀ : Nat)

/-- the loop invariant, for the messages `ys` yielded so far -/
def SearchInv (ys : List α) : Gen α → Prop
  | ⟨offset, current, _, .request⟩ =>
    ys = (srv.results.drop o₀).take current ∧ offset = o₀ + current ∧ current < total
  | ⟨offset, current, _, .yielding rest⟩ =>
    ys = (srv.results.drop o₀).take current ∧ offset = o₀ + current + rest.length ∧
      rest <+: srv.results.drop (o₀ + current) ∧ current < total
  | ⟨_, _, _, .returned⟩ => ys = (srv.results.drop o₀).take total

theorem getChunk_eq_nil {i offset limit : Nat} (hl : 0 < limit)
    (h : (srv.getChunk i offset limit).isEmpty = true) : srv.results.length ≤ offset := by
  unfold Server.getChunk at h
  split at h
  · have := srv.size_pos i
    simp only [List.isEmpty_iff, List.take_eq_nil_iff, List.drop_eq_nil_iff] at h
    omega
  · omega

theorem getChunk_window (i offset limit : Nat) :
    srv.getChunk i offset limit <+: srv.results.drop offset := by
  unfold Server.getChunk
  split
  · exact List.take_prefix _ _
  · exact List.nil_prefix

/-- the slice grows by the message after it -/
theorem take_succ_of_prefix {o c : Nat} {m : α} {ms : List α}
    (h : m :: ms <+: srv.results.drop (o + c)) :
    (srv.results.drop o).take c ++ [m] = (srv.results.drop o).take (c + 1) := by
  obtain ⟨t, ht⟩ := h
  have hm : (srv.results.drop o)[c]? = some m := by
    rw [List.getElem?_drop, ← List.head?_drop, ← ht]
    rfl
  rw [List.take_succ, hm, Option.toList_some]

theorem prefix_tail {k : Nat} {m : α} {ms : List α} (h : m :: ms <+: srv.results.drop k) :
    ms <+: srv.results.drop (k + 1) := by
  obtain ⟨t, ht⟩ := h
  exact ⟨t, by rw [← List.tail_drop, ← ht]; rfl⟩

theorem SearchInv.init (htotal : 0 < total) : SearchInv srv total o₀ [] ⟨o₀, 0, 0, .request⟩ :=
  ⟨rfl, rfl, htotal⟩

/-- **Step.** One step keeps the invariant, with the message it yields appended. -/
theorem step_inv {ys : List α} {g : Gen α} (h : SearchInv srv total o₀ ys g) :
    SearchInv srv total o₀ (ys ++ (g.step srv total).1.toList) (g.step srv total).2 := by
  rcases g with ⟨offset, current, requests, _ | (_ | ⟨m, ms⟩) | _⟩
  · obtain ⟨rfl, rfl, hlt⟩ := h
    simp only [Gen.step]
    split
    · rename_i hnil
      have hle := getChunk_eq_nil srv (by omega) hnil
      simp only [SearchInv, Option.toList_none, List.append_nil]
      rw [List.take_of_length_le (by simp; omega), List.take_of_length_le (by simp; omega)]
    · exact ⟨by simp, by omega, getChunk_window srv _ _ _, hlt⟩
  · obtain ⟨hys, hoff, -, hlt⟩ := h
    exact ⟨by simpa [Gen.step] using hys, by simpa using hoff, hlt⟩
  · obtain ⟨rfl, hoff, hwin, hlt⟩ := h
    simp only [Gen.step, Option.toList_some, take_succ_of_prefix srv hwin]
    split
    · show _ = _
      congr 1; omega
    · refine ⟨rfl, by simp at hoff; omega, ?_, by omega⟩
      simpa [Nat.add_assoc] using prefix_tail srv hwin
  · simpa [Gen.step] using h

/-- **Run.** Every run keeps the invariant, with the messages it yields appended. -/
theorem run_inv (n : Nat) {ys : List α} {g : Gen α} (h : SearchInv srv total o₀ ys g) :
    SearchInv srv total o₀ (ys ++ (g.run srv total n).1) (g.run srv total n).2 := by
  induction n generalizing ys g with
  | zero => simpa [Gen.run] using h
  | succ n ih => simpa [Gen.run, List.append_assoc] using ih (step_inv srv total o₀ h)

theorem SearchInv.returned {ys : List α} {g : Gen α} (h : SearchInv srv total o₀ ys g)
    (hg : g.pc = .returned) : ys = (srv.results.drop o₀).take total := by
  rcases g with ⟨_, _, _, _ | _ | _⟩ <;> first | exact h | cases hg

end Invariant

/-! ## Termination -/

section Termination

variable (srv : Server α) (total : Nat)

/-- an upper bound on the steps left before the return, for `L` results -/
def Gen.measure (L : Nat) : Gen α → Nat
  | ⟨offset, _, _, .request⟩ => 3 * (L - offset) + 1
  | ⟨offset, _, _, .yielding rest⟩ => 3 * (L - offset) + rest.length + 2
  | ⟨_, _, _, .returned⟩ => 0

theorem getChunk_length_le (i offset limit : Nat) :
    (srv.getChunk i offset limit).length ≤ srv.results.length - offset := by
  simpa using (getChunk_window srv i offset limit).length_le

/-- **Step.** Every step before the return decreases the measure. -/
theorem step_measure (g : Gen α) (hg : g.pc ≠ .returned) :
    (g.step srv total).2.measure srv.results.length < g.measure srv.results.length := by
  rcases g with ⟨offset, current, requests, _ | (_ | ⟨m, ms⟩) | _⟩
  · simp only [Gen.step]
    split
    · simp [Gen.measure]
    · rename_i hne
      have hle := getChunk_length_le srv requests offset (min 100 total)
      have hpos : 0 < (srv.getChunk requests offset (min 100 total)).length := by
        simpa [List.length_pos, List.isEmpty_iff] using hne
      simp only [Gen.measure]
      omega
  · simp [Gen.step, Gen.measure]
  · simp only [Gen.step]
    split <;> simp [Gen.measure]
  · exact absurd rfl hg

/-- **Run.** A run of at least as many steps as the measure ends returned. -/
theorem run_returns (n : Nat) (g : Gen α) (hn : g.measure srv.results.length ≤ n) :
    (g.run srv total n).2.pc = .returned := by
  induction n generalizing g with
  | zero =>
    rcases g with ⟨_, _, _, _ | _ | _⟩ <;> simp_all [Gen.measure, Gen.run]
  | succ n ih =>
    by_cases hg : g.pc = .returned
    · rcases g with ⟨_, _, _, _ | _ | _⟩ <;> simp_all [Gen.run, Gen.step, Gen.measure]
    · exact ih _ (by have := step_measure srv total g hg; omega)

end Termination

theorem searchTotal_pos (limit : Int) : 0 < searchTotal limit := by
  unfold searchTotal; split <;> omega

theorem searchTotal_eq (limit : Int) :
    searchTotal limit = if limit ≠ 0 then limit.natAbs else 2 ^ 31 - 1 := by
  simp only [searchTotal, ne_eq, Int.natAbs_eq_zero]

/-- **`search_messages` yields the slice.** For every server, every initial offset and every
limit, the generator returns within `3 * len(results) + 2` steps, and then it has yielded exactly
`results[offset : offset + total]`, in order, where `total` is `abs(limit)`, or `2**31 - 1` when the
limit is zero: no message skipped, repeated, or yielded past the limit. -/
theorem searchMessages_slice (srv : Server α) (o₀ : Nat) (limit : Int) (n : Nat)
    (hn : 3 * srv.results.length + 2 ≤ n) :
    (searchMessages srv o₀ limit n).2.pc = .returned ∧
      (searchMessages srv o₀ limit n).1 =
        (srv.results.drop o₀).take (if limit ≠ 0 then limit.natAbs else 2 ^ 31 - 1) := by
  have hret : (searchMessages srv o₀ limit n).2.pc = .returned :=
    run_returns srv _ n _ (by simp only [Gen.measure]; omega)
  have hinv := run_inv srv _ o₀ n (SearchInv.init srv _ o₀ (searchTotal_pos limit))
  exact ⟨hret, searchTotal_eq limit ▸ hinv.returned srv _ o₀ hret⟩

/-- Three results sent one at a time, from offset 1 with limit -1. -/
theorem searchMessages_slice_three : ∃ (srv : Server Nat) (o₀ : Nat) (limit : Int) (n : Nat),
    3 * srv.results.length + 2 ≤ n ∧ (searchMessages srv o₀ limit n).2.pc = .returned ∧
      (searchMessages srv o₀ limit n).1 =
        (srv.results.drop o₀).take (if limit ≠ 0 then limit.natAbs else 2 ^ 31 - 1) :=
  ⟨⟨[1, 2, 3], fun _ => 1, fun _ => Nat.one_pos⟩, 1, -1, 11, by decide,
    searchMessages_slice _ 1 (-1) 11 (by decide)⟩

end Hydrogram
