/-
The matcher moves forward and stays within the string: every match `re` returns is a span of the
string, and the matches of `finditer` come in order without overlapping.

`St.Valid s st` says a matcher state lies within `s`: its position, and every group span it has
recorded, each in order. `Forward s g` says a matcher `g` in continuation-passing style calls its
continuation only on a valid state at or after the one it started from. The matcher of every node
is forward (`m_forward`), by induction over the node, with one lemma for the forced and one for the
optional iterations of a repeat. A back-reference advances by the length of the span it repeats,
which lies within `s`; a look-behind runs its inner matcher before the position, but the pattern
resumes at the position itself.

Results:
- `m_forward`: the matcher of every node is forward.
- `matchAt_within`, `searchFrom_within`: a match found from `pos` starts at `pos` (at or after it)
  and is a span of the string, and so is each of its group spans.
- `finditer_ordered`: the matches of `finditer` are spans of the string, each ending at or before
  the start of the next.
-/
import Hydrogram.Re.Facts

namespace Hydrogram.Re

/-- a matcher state on `s`: the position and every recorded group span lie within `s` -/
structure St.Valid (s : List Char) (st : St) : Prop where
  pos_le : st.pos ≤ s.length
  caps_le : ∀ c ∈ st.caps, c.2.1 ≤ c.2.2 ∧ c.2.2 ≤ s.length

/-- a matcher in continuation-passing style that calls its continuation only on a valid state at
or after the one it starts from -/
def Forward (s : List Char) (g : (St → Option St) → St → Option St) : Prop :=
  ∀ k st x, st.Valid s → g k st = some x → ∃ st', st'.Valid s ∧ st.pos ≤ st'.pos ∧ k st' = some x

/-- a group span `(i, a, b)` of a match: `a ≤ b ≤ len(s)` -/
def SpanIn (s : List Char) (c : Nat × Nat × Nat) : Prop := c.2.1 ≤ c.2.2 ∧ c.2.2 ≤ s.length

section Forward

variable {s : List Char}

theorem St.Valid.adv {st : St} (hv : st.Valid s) (h : st.pos < s.length) : st.adv.Valid s :=
  ⟨h, hv.caps_le⟩

/-- closing group `i` opened at `a` records the span `(i, a, pos)` -/
theorem St.Valid.push {st : St} (hv : st.Valid s) (i : Nat) {a : Nat} (ha : a ≤ st.pos) :
    St.Valid s { st with caps := (i, a, st.pos) :: st.caps } := by
  refine ⟨hv.pos_le, ?_⟩
  rintro c (_ | ⟨_, hc⟩)
  · exact ⟨ha, hv.pos_le⟩
  · exact hv.caps_le c hc

theorem forward_id (k : St → Option St) {st : St} {x : St} (hv : st.Valid s) (h : k st = some x) :
    ∃ st', st'.Valid s ∧ st.pos ≤ st'.pos ∧ k st' = some x :=
  ⟨st, hv, le_rfl, h⟩

/-- a node that consumes one character when it satisfies `P` -/
theorem forward_one (P : Char → Bool) :
    Forward s fun k st => if (s[st.pos]?).any P then k st.adv else none := by
  intro k st x hv h
  dsimp only at h
  split at h
  · rename_i hp
    have hlt : st.pos < s.length := by
      cases hs : s[st.pos]? with
      | none => simp [hs] at hp
      | some c => exact (List.getElem?_eq_some_iff.1 hs).1
    exact ⟨st.adv, hv.adv hlt, Nat.le_succ _, h⟩
  · cases h

theorem forward_trans {st st₁ : St} {k : St → Option St} {x : St}
    (h₁ : st.pos ≤ st₁.pos) (h₂ : ∃ st', st'.Valid s ∧ st₁.pos ≤ st'.pos ∧ k st' = some x) :
    ∃ st', st'.Valid s ∧ st.pos ≤ st'.pos ∧ k st' = some x :=
  let ⟨st', hv, h, hk⟩ := h₂
  ⟨st', hv, h₁.trans h, hk⟩

variable {body : (St → Option St) → St → Option St}

/-- the forced iterations of a forward body -/
theorem repMin_forward (hb : Forward s body) (n : Nat) : Forward s (repMin body n) := by
  induction n with
  | zero => exact fun k st x hv h => forward_id k hv h
  | succ n ih =>
    intro k st x hv h
    obtain ⟨st₁, hv₁, h₁, hk₁⟩ := hb _ st x hv h
    exact forward_trans h₁ (ih k st₁ x hv₁ hk₁)

/-- the optional iterations of a forward body -/
theorem repMore_forward (hb : Forward s body) (hi : Option Nat) (greedy : Bool) (f : Nat) :
    ∀ count allowed, Forward s fun k => repMore body hi greedy k f count allowed := by
  induction f with
  | zero => exact fun _ _ k st x hv h => forward_id k hv h
  | succ f ih =>
    intro count allowed k st x hv h
    have again : ∀ y, (if allowed && hi.all (count < ·) then body (fun st' =>
        repMore body hi greedy k f (count + 1) (st'.pos != st.pos) st') st else none) = some y →
        ∃ st', st'.Valid s ∧ st.pos ≤ st'.pos ∧ k st' = some y := by
      intro y hy
      split at hy
      · obtain ⟨st₁, hv₁, h₁, hk₁⟩ := hb _ st y hv hy
        exact forward_trans h₁ (ih _ _ k st₁ y hv₁ hk₁)
      · cases hy
    simp only [repMore] at h
    split at h
    · cases ha : (if allowed && hi.all (count < ·) then body (fun st' =>
          repMore body hi greedy k f (count + 1) (st'.pos != st.pos) st') st else none) with
      | none => rw [ha] at h; exact forward_id k hv h
      | some y => rw [ha] at h; exact again x (ha.trans h)
    · cases hk : k st with
      | none => rw [hk] at h; exact again x h
      | some y => rw [hk] at h; exact forward_id k hv (hk.trans h)

/-- a back-reference to a span within `s` ends within `s` -/
theorem refMatch_le {py : PyUnicode} {fl : Flags} {a b i : Nat}
    (h : refMatch py fl s a b i = true) (hb : b ≤ s.length) (hi : i ≤ s.length) :
    i + (b - a) ≤ s.length := by
  simp only [refMatch, Bool.and_eq_true, beq_iff_eq, List.length_take, List.length_drop] at h
  omega

theorem span?_valid {st : St} (hv : st.Valid s) {i a b : Nat} (h : st.span? i = some (a, b)) :
    a ≤ b ∧ b ≤ s.length := by
  obtain ⟨c, hc, hab⟩ := Option.map_eq_some'.1 h
  simpa [hab] using hv.caps_le c (List.mem_of_find?_eq_some hc)

variable (py : PyUnicode) (fl : Flags)

/-- **The matcher moves forward.** For every node, the continuation is called only on a state
within the string, at or after the state the node started from. -/
theorem m_forward (r : Node) : Forward s (m py fl s r) := by
  induction r with
  | empty => exact fun k st x hv h => forward_id k hv h
  | lit c => exact forward_one (litMatch py fl c)
  | any => exact forward_one (anyMatch fl)
  | set negate items => exact forward_one (setMatch py fl negate items)
  | cat a b iha ihb =>
    intro k st x hv h
    obtain ⟨st₁, hv₁, h₁, hk₁⟩ := iha _ st x hv h
    exact forward_trans h₁ (ihb k st₁ x hv₁ hk₁)
  | branch a b iha ihb =>
    intro k st x hv h
    rw [m_branch] at h
    cases ha : m py fl s a k st with
    | none => rw [ha] at h; exact ihb k st x hv h
    | some y => rw [ha] at h; exact iha k st x hv (ha.trans h)
  | group i r ih =>
    intro k st x hv h
    obtain ⟨st₁, hv₁, h₁, hk₁⟩ := ih _ st x hv h
    exact ⟨_, hv₁.push i h₁, h₁, hk₁⟩
  | rep lo hi greedy r ih =>
    intro k st x hv h
    obtain ⟨st₁, hv₁, h₁, hk₁⟩ := repMin_forward ih lo _ st x hv h
    exact forward_trans h₁ (repMore_forward ih hi greedy _ lo true k st₁ x hv₁ hk₁)
  | anchor a =>
    intro k st x hv h
    rw [m_anchor] at h
    split at h
    · exact forward_id k hv h
    · cases h
  | groupref i =>
    intro k st x hv h
    rw [m_groupref] at h
    split at h
    · rename_i a b hab
      split at h
      · have hs := span?_valid hv hab
        exact ⟨{ st with pos := st.pos + (b - a) }, ⟨refMatch_le ‹_› hs.2 hv.pos_le, hv.caps_le⟩,
          Nat.le_add_right _ _, h⟩
      · cases h
    · cases h
  | assert behind negate r ih =>
    intro k st x hv h
    rw [m_assert] at h
    simp only at h
    split at h
    · rename_i st' hin
      generalize (if behind then r.width.1 else 0) = w at hin
      split at hin
      · cases hin
      · obtain ⟨_, hv₁, -, hw⟩ := ih some { st with pos := st.pos - w } st'
          ⟨by simp only; have := hv.pos_le; omega, hv.caps_le⟩ hin
        cases hw
        exact ⟨{ st with caps := st'.caps }, ⟨hv.pos_le, hv₁.caps_le⟩, le_rfl, h⟩
    · exact forward_id k hv h
    · cases h

end Forward

/-! ## Matches are spans of the string -/

/-- a match on `s` that is a span of it, each of its group spans too -/
structure Match.Within (s : List Char) (mt : Match) : Prop where
  string_eq : mt.string = s
  start_le : mt.start ≤ mt.finish
  finish_le : mt.finish ≤ s.length
  caps_in : ∀ c ∈ mt.caps, SpanIn s c

section Within

variable (py : PyUnicode) (p : Pattern) (s : List Char)

/-- a match found at `pos` starts there and is a span of the string -/
theorem matchAt_within {pos : Nat} {ma : Bool} {mt : Match} (hpos : pos ≤ s.length)
    (h : matchAt py p s pos ma = some mt) : mt.Within s ∧ mt.start = pos := by
  obtain ⟨st, hm, rfl⟩ := Option.map_eq_some'.1 h
  obtain ⟨st', hv, hle, hk⟩ := m_forward py p.flags p.node _ _ st ⟨hpos, by simp⟩ hm
  split at hk
  · cases hk
  · cases hk
    exact ⟨⟨rfl, hle, hv.pos_le, hv.caps_le⟩, rfl⟩

/-- a match the search finds from `pos` starts at or after it and is a span of the string -/
theorem searchFrom_within (f : Nat) : ∀ {pos : Nat} {ma : Bool} {mt : Match}, pos ≤ s.length →
    searchFrom py p s f pos ma = some mt → mt.Within s ∧ pos ≤ mt.start := by
  induction f with
  | zero => intro _ _ _ _ h; cases h
  | succ f ih =>
    intro pos ma mt hpos h
    simp only [searchFrom] at h
    split at h
    · rename_i mt' hm
      cases h
      obtain ⟨hw, rfl⟩ := matchAt_within py p s hpos hm
      exact ⟨hw, le_rfl⟩
    · split at h
      · obtain ⟨hw, h₀⟩ := ih (by omega) h
        exact ⟨hw, by omega⟩
      · cases h

/-- the scan from `start`: spans of the string, in order, from `start` on -/
theorem finditerFrom_ordered (f : Nat) : ∀ (start : Nat) (ma : Bool), start ≤ s.length →
    (finditerFrom py p s f start ma).Chain' (fun a b => a.finish ≤ b.start) ∧
      ∀ mt ∈ finditerFrom py p s f start ma, mt.Within s ∧ start ≤ mt.start := by
  induction f with
  | zero => intro _ _ _; simp [finditerFrom]
  | succ f ih =>
    intro start ma hs
    simp only [finditerFrom]
    split
    · simp
    · rename_i mt hm
      obtain ⟨hw, h₀⟩ := searchFrom_within py p s _ hs hm
      obtain ⟨ihc, ihw⟩ := ih mt.finish (mt.finish == mt.start) hw.finish_le
      refine ⟨List.chain'_cons'.2 ⟨fun y hy => (ihw y (List.mem_of_mem_head? hy)).2, ihc⟩, ?_⟩
      rintro x (_ | ⟨_, hx⟩)
      · exact ⟨hw, h₀⟩
      · obtain ⟨hxw, hx₀⟩ := ihw x hx
        exact ⟨hxw, by have := hw.start_le; omega⟩

/-- **`finditer` scans forward.** Every match of `pattern.finditer(string)` is a span of the
string, with its group spans inside the string, and each match ends at or before the start of the
next one: the matches are in order and do not overlap. -/
theorem finditer_ordered :
    (finditer py p s).Chain' (fun a b => a.finish ≤ b.start) ∧ ∀ mt ∈ finditer py p s, mt.Within s :=
  let ⟨hc, hw⟩ := finditerFrom_ordered py p s (2 * s.length + 2) 0 false (Nat.zero_le _)
  ⟨hc, fun mt h => (hw mt h).1⟩

end Within

end Hydrogram.Re
