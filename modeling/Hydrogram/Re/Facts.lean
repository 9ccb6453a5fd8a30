/-
Facts about the `re` model that proofs about concrete patterns rest on: how the parser reads
ordinary characters and optional items, one equation per matcher case, and how the search loop
moves past a position where nothing matches.

A pattern that pastes a string into a template (the command filter's) is parsed by reading the
pasted characters one by one; `parseItems_plains` does that for every character sre has no special
meaning for. The matcher lemmas let a proof unfold one node at a time instead of the whole matcher.

Results:
- `parseItems_plains`: a run of ordinary characters becomes one literal per character.
- `m_seqOf_lits`: a run of literals matches a run of characters that match them one by one, under
  any flags.
- `repMore_lazy_any`: a lazy `.*?` stops at the first position where the rest of the pattern
  succeeds.
- `repMore_greedy_set`: a greedy repeat of a one-character set takes the whole run.
- `m_notBehind`: a negative look-behind for one character.
- `search_skip`, `search_here`, `search_end`: the search loop's three outcomes at one position;
  `subFrom_skip`: `sub` where nothing matches.
-/
import Hydrogram.Re.Engine

namespace Hydrogram.Re

/-! ## Parsing -/

@[simp] theorem seqOf_nil : seqOf [] = .empty := rfl

@[simp] theorem seqOf_cons (x : Node) (xs : List Node) : seqOf (x :: xs) = .cat x (seqOf xs) := rfl

theorem fixedLookbehinds_seqOf (xs : List Node) :
    (seqOf xs).fixedLookbehinds = xs.all Node.fixedLookbehinds := by
  induction xs with
  | nil => rfl
  | cons x xs ih => rw [List.all_cons, ← ih]; rfl

section Parse

variable {f : Nat} {st : PState} {alts items : List Node}

/-- a character with no special meaning is read as a literal -/
theorem parseItems_plain {c : Char} {r : List Char} (hc : special c = false) :
    parseItems (f + 1) (c :: r) st alts items = parseItems f r st alts (items ++ [.lit c]) := by
  simp only [special, Bool.or_eq_false_iff, beq_eq_false_iff_ne, ne_eq] at hc
  obtain ⟨⟨⟨⟨⟨⟨⟨⟨⟨⟨⟨h1, h2⟩, h3⟩, h4⟩, h5⟩, h6⟩, h7⟩, h8⟩, h9⟩, h10⟩, h11⟩, h12⟩ := hc
  exact parseItems.eq_28 _ _ _ _ _ _ h6 h12 h2 h3 h1 h10 h11 h7 h8 h9 h4 (fun _ h _ => h5 h) h5

theorem parseItems_plains {u r : List Char} (hu : ∀ c ∈ u, special c = false) :
    parseItems (f + u.length) (u ++ r) st alts items =
      parseItems f r st alts (items ++ u.map .lit) := by
  induction u generalizing items with
  | nil => simp
  | cons c u ih =>
    rw [List.length_cons, ← Nat.add_assoc, List.cons_append,
      parseItems_plain (hu c (List.mem_cons_self _ _)),
      ih fun d hd => hu d (List.mem_cons_of_mem _ hd)]
    simp

/-- a greedy `?` after an item -/
theorem parseItems_optional {r : List Char} {items' : List Node} (hr : r.head? ≠ some '?')
    (hq : quantify items 0 (some 1) true = .ok items') :
    parseItems (f + 1) ('?' :: r) st alts items = parseItems f r st alts items' := by
  rw [parseItems.eq_13]
  rcases r with _ | ⟨c, r⟩
  · simp only [hq]
  · have : c ≠ '?' := fun h => hr (by simp [h])
    beta_reduce
    split
    simp_all

/-- any item but an anchor or a repeat can be repeated -/
theorem quantify_concat {x : Node} (ha : ∀ a, x ≠ .anchor a) (hr : ∀ lo hi g r, x ≠ .rep lo hi g r)
    (lo : Nat) (hi : Option Nat) (g : Bool) :
    quantify (items ++ [x]) lo hi g = .ok (items ++ [.rep lo hi g x]) := by
  unfold quantify
  rw [List.getLast?_concat]
  cases x with
  | anchor a => exact absurd rfl (ha a)
  | rep lo' hi' g' r => exact absurd rfl (hr lo' hi' g' r)
  | _ => simp

end Parse

/-! ## Matching, one node at a time -/

section Matcher

variable {py : PyUnicode} {fl : Flags} {s : List Char}

@[simp] theorem m_empty (k : St → Option St) (st : St) : m py fl s .empty k st = k st := rfl

theorem m_lit (c : Char) (k : St → Option St) (st : St) :
    m py fl s (.lit c) k st = if (s[st.pos]?).any (litMatch py fl c) then k st.adv else none := rfl

theorem m_any (k : St → Option St) (st : St) :
    m py fl s .any k st = if (s[st.pos]?).any (anyMatch fl) then k st.adv else none := rfl

theorem m_set (negate : Bool) (items : List SetItem) (k : St → Option St) (st : St) :
    m py fl s (.set negate items) k st =
      if (s[st.pos]?).any (setMatch py fl negate items) then k st.adv else none := rfl

@[simp] theorem m_cat (a b : Node) (k : St → Option St) (st : St) :
    m py fl s (.cat a b) k st = m py fl s a (m py fl s b k) st := rfl

theorem m_branch (a b : Node) (k : St → Option St) (st : St) :
    m py fl s (.branch a b) k st = (m py fl s a k st).orElse fun _ => m py fl s b k st := rfl

theorem m_group (i : Nat) (r : Node) (k : St → Option St) (st : St) :
    m py fl s (.group i r) k st =
      m py fl s r (fun st' => k { st' with caps := (i, st.pos, st'.pos) :: st'.caps }) st := rfl

theorem m_anchor (a : At) (k : St → Option St) (st : St) :
    m py fl s (.anchor a) k st = if atMatch py fl s a st.pos then k st else none := rfl

theorem m_rep (lo : Nat) (hi : Option Nat) (g : Bool) (r : Node) (k : St → Option St) (st : St) :
    m py fl s (.rep lo hi g r) k st =
      repMin (m py fl s r) lo (repMore (m py fl s r) hi g k (s.length + 1) lo true) st := rfl

theorem m_assert (behind negate : Bool) (r : Node) (k : St → Option St) (st : St) :
    m py fl s (.assert behind negate r) k st =
      let w := if behind then r.width.1 else 0
      let inner := if st.pos < w then none else m py fl s r some { st with pos := st.pos - w }
      match inner, negate with
      | some st', false => k { st with caps := st'.caps }
      | none, true => k st
      | _, _ => none := rfl

theorem m_groupref (i : Nat) (k : St → Option St) (st : St) :
    m py fl s (.groupref i) k st =
      match st.span? i with
      | some (a, b) =>
        if refMatch py fl s a b st.pos then k { st with pos := st.pos + (b - a) } else none
      | none => none := rfl

/-- a negative look-behind for one character `c` -/
theorem m_notBehind (c : Char) (k : St → Option St) (st : St) :
    m py fl s (.assert true true (.cat (.lit c) .empty)) k st =
      if 0 < st.pos ∧ (s[st.pos - 1]?).any (litMatch py fl c) then none else k st := by
  rw [m_assert]
  simp only [if_true, Node.width]
  by_cases hp : st.pos < 1
  · have : st.pos = 0 := by omega
    simp [hp, this]
  · have : 0 < st.pos := by omega
    simp only [hp, if_false, this, true_and]
    rw [m_cat, m_lit, Nat.add_zero]
    by_cases ha : (s[st.pos - 1]?).any (litMatch py fl c) = true <;> simp [ha]

theorem litMatch_self (c : Char) : litMatch py fl c c = true := by
  unfold litMatch; split <;> simp

/-- the ASCII case facts, checked character by character -/
theorem asciiCase_ofNat : ∀ n : Fin 128,
    ((Char.ofNat n).toLower != Char.ofNat n || (Char.ofNat n).toUpper != Char.ofNat n) =
        (Char.ofNat n).isAlpha ∧ (Char.ofNat n).toLower.toNat < 128 ∧
      ((Char.ofNat n).isAlpha = false → (Char.ofNat n).toLower = Char.ofNat n) ∧
      ((Char.ofNat n).toLower.isAlpha = false → (Char.ofNat n).toLower = Char.ofNat n) := by
  decide

theorem asciiCase {c : Char} (hc : c.toNat < 128) :
    (c.toLower != c || c.toUpper != c) = c.isAlpha ∧ c.toLower.toNat < 128 ∧
      (c.isAlpha = false → c.toLower = c) ∧ (c.toLower.isAlpha = false → c.toLower = c) := by
  simpa only [Fin.val_mk, Char.ofNat_toNat] using asciiCase_ofNat ⟨c.toNat, hc⟩

theorem isCased_ascii {c : Char} (hc : c.toNat < 128) : isCased py fl c = c.isAlpha := by
  unfold isCased
  split
  · simp [hc]
  · rw [py.lowerChar_ascii c hc, py.upperChar_ascii c hc, (asciiCase hc).1]

theorem lowerOf_ascii {c : Char} (hc : c.toNat < 128) : lowerOf py fl c = c.toLower := by
  unfold lowerOf; split
  · rfl
  · exact py.lowerChar_ascii c hc

/-- the extra cases of an ASCII character: `ı` and `ſ` -/
theorem extraCases_ascii {c x : Char} (hc : c.toNat < 128) (hx : x ∈ extraCases py fl c) :
    x = 'ı' ∨ x = 'ſ' := by
  unfold extraCases at hx
  split at hx
  · simp at hx
  · rw [py.caseFixes_ascii c hc] at hx
    split_ifs at hx <;> simp_all

/-- a literal with no case matches itself only -/
theorem litMatch_uncased {c t : Char} (hc : isCased py fl c = false) : litMatch py fl c t = (t == c) := by
  simp [litMatch, hc]

/-- on ASCII characters a literal follows Python's ASCII case rules -/
theorem litMatch_ascii {c t : Char} (hc : c.toNat < 128) (ht : t.toNat < 128) :
    litMatch py fl c t = if fl.ignoreCase then t.toLower == c.toLower else t == c := by
  have hno : (extraCases py fl (lowerOf py fl c)).contains (lowerOf py fl t) = false := by
    rw [lowerOf_ascii ht, List.contains_eq_any_beq, List.any_eq_false]
    intro x hx hxt
    have h128 : 128 ≤ x.toNat := by
      rcases extraCases_ascii (lowerOf_ascii hc ▸ (asciiCase hc).2.1) hx with rfl | rfl <;> decide
    rw [← beq_iff_eq.1 hxt] at h128
    exact absurd (asciiCase ht).2.1 (by omega)
  unfold litMatch
  rw [isCased_ascii hc, hno, Bool.or_false, lowerOf_ascii hc, lowerOf_ascii ht]
  by_cases hic : fl.ignoreCase = true
  · cases ha : c.isAlpha
    · -- a character that is not a letter is its own lower case, and the only one lowering to it
      have hcl := (asciiCase hc).2.2.1 ha
      have : t.toLower = c ↔ t = c :=
        ⟨fun h => ((asciiCase ht).2.2.2 (h ▸ ha)).symm.trans h, fun h => h ▸ hcl⟩
      simp [hic, ha, hcl, this]
    · simp [hic, ha]
  · simp [hic]

/-- `re.match("s", "ſ", re.I)` matches: `ſ` is an extra case of `s` -/
example : litMatch asciiTables { ignoreCase := true } 's' 'ſ' = true := by decide

/-- a set of one category has no cased member: `_optimize_charset` tests the character as it
is -/
theorem setMatch_cat (negate : Bool) (k : Category) (t : Char) :
    setMatch py fl negate [.cat k] t = (negate != categoryMatch py fl k t) := by
  simp [setMatch, SetItem.cased, itemMatch]

/-- the characters of `s` from `p` match the literals `cs` one by one -/
def LitsAt (py : PyUnicode) (fl : Flags) (s cs : List Char) (p : Nat) : Prop :=
  List.Forall₂ (fun c t => litMatch py fl c t = true) cs ((s.drop p).take cs.length)

instance (cs : List Char) (p : Nat) : Decidable (LitsAt py fl s cs p) :=
  inferInstanceAs (Decidable (List.Forall₂ _ _ _))

theorem litsAt_iff {cs : List Char} {p : Nat} :
    LitsAt py fl s cs p ↔
      ∃ T, List.Forall₂ (fun c t => litMatch py fl c t = true) cs T ∧ T <+: s.drop p := by
  constructor
  · exact fun h => ⟨_, h, List.take_prefix _ _⟩
  · rintro ⟨T, hT, hp⟩
    rw [LitsAt, hT.length_eq, ← List.prefix_iff_eq_take.1 hp]
    exact hT

theorem litsAt_cons {c : Char} {cs : List Char} {p : Nat} :
    LitsAt py fl s (c :: cs) p ↔ (s[p]?).any (litMatch py fl c) = true ∧ LitsAt py fl s cs (p + 1) := by
  cases hs : s[p]? with
  | none =>
    have : s.drop p = [] := List.drop_eq_nil_of_le (List.getElem?_eq_none_iff.1 hs)
    rw [LitsAt, this, List.take_nil]
    simp
  | some t =>
    obtain ⟨hp, rfl⟩ := List.getElem?_eq_some_iff.1 hs
    rw [LitsAt, LitsAt, List.drop_eq_getElem_cons hp, List.length_cons, List.take_succ_cons,
      List.forall₂_cons, Option.any_some]

/-- a run of literals matches exactly where the next characters match them one by one -/
theorem m_seqOf_lits_eq (cs : List Char) (rest : List Node) (k : St → Option St) (st : St) :
    m py fl s (seqOf (cs.map .lit ++ rest)) k st =
      if LitsAt py fl s cs st.pos then m py fl s (seqOf rest) k { st with pos := st.pos + cs.length }
      else none := by
  induction cs generalizing st with
  | nil => simp [LitsAt]
  | cons c cs ih =>
    rw [List.map_cons, List.cons_append, seqOf_cons, m_cat, m_lit, ih st.adv]
    by_cases h₁ : (s[st.pos]?).any (litMatch py fl c) = true <;>
      by_cases h₂ : LitsAt py fl s cs (st.pos + 1) <;>
        simp [h₁, h₂, litsAt_cons, St.adv, Nat.add_assoc, Nat.add_comm 1]

/-- a greedy optional `r?` tries `r` first and falls back to the rest of the pattern -/
theorem m_opt (r : Node) (k : St → Option St) (st : St) :
    m py fl s (.rep 0 (some 1) true r) k st = (m py fl s r k st).orElse fun _ => k st := by
  have hone : ∀ f a st', repMore (m py fl s r) (some 1) true k f 1 a st' = k st' := by
    intro f a st'
    cases f <;> simp [repMore]
  simp [m_rep, repMin, repMore, hone]

/-- a lazy `.*?` from `q` stops at the first position `q + n` where the rest of the pattern
succeeds, provided `.` matches every character before it -/
theorem repMore_lazy_any {k : St → Option St} {r : St} {cs : List (Nat × Nat × Nat)} (n : Nat) :
    ∀ {f c q : Nat}, n < f → (∀ i < n, ∃ t, s[q + i]? = some t ∧ anyMatch fl t = true) →
      (∀ i < n, k ⟨q + i, cs⟩ = none) → k ⟨q + n, cs⟩ = some r →
      repMore (m py fl s .any) none false k f c true ⟨q, cs⟩ = some r := by
  induction n with
  | zero =>
    intro f c q hn _ _ hr
    obtain ⟨f, rfl⟩ : ∃ g, f = g + 1 := ⟨f - 1, by omega⟩
    simp only [Nat.add_zero] at hr
    simp [repMore, hr]
  | succ n ih =>
    intro f c q hn hs hk hr
    obtain ⟨f, rfl⟩ : ∃ g, f = g + 1 := ⟨f - 1, by omega⟩
    obtain ⟨t, ht, ha⟩ := hs 0 (by omega)
    have h0 := hk 0 (by omega)
    have ih' := @ih f (c + 1) (q + 1) (by omega)
      (fun i hi => by simpa [Nat.add_right_comm, Nat.add_assoc] using hs (i + 1) (by omega))
      (fun i hi => by simpa [Nat.add_right_comm, Nat.add_assoc] using hk (i + 1) (by omega))
      (by simpa [Nat.add_right_comm, Nat.add_assoc] using hr)
    have hq : (q + 1 != q) = true := by simp
    simp only [Nat.add_zero] at h0 ht
    simp [repMore, h0, m_any, ht, ha, St.adv, hq, ih']

/-- a greedy repeat of a one-character set from `q` takes the whole run of `n` characters in the
set when the character after it is not in the set or the text ends there, and the rest of the
pattern succeeds after the run -/
theorem repMore_greedy_set {negate : Bool} {items : List SetItem} {k : St → Option St}
    {cs : List (Nat × Nat × Nat)} (n : Nat) :
    ∀ {f c q : Nat}, n < f →
      (∀ i < n, ∃ t, s[q + i]? = some t ∧ setMatch py fl negate items t = true) →
      (∀ t, s[q + n]? = some t → setMatch py fl negate items t = false) → k ⟨q + n, cs⟩ ≠ none →
      repMore (m py fl s (.set negate items)) none true k f c true ⟨q, cs⟩ = k ⟨q + n, cs⟩ := by
  induction n with
  | zero =>
    intro f c q hn _ hend _
    obtain ⟨f, rfl⟩ : ∃ g, f = g + 1 := ⟨f - 1, by omega⟩
    simp only [Nat.add_zero] at hend ⊢
    cases hs : s[q]? with
    | none => simp [repMore, m_set, hs]
    | some t => simp [repMore, m_set, hs, hend t hs]
  | succ n ih =>
    intro f c q hn hs hend hk
    obtain ⟨f, rfl⟩ : ∃ g, f = g + 1 := ⟨f - 1, by omega⟩
    obtain ⟨t, ht, ha⟩ := hs 0 (by omega)
    have e : q + (n + 1) = q + 1 + n := by omega
    have ih' := @ih f (c + 1) (q + 1) (by omega)
      (fun i hi => by rw [show q + 1 + i = q + (i + 1) by omega]; exact hs (i + 1) (by omega))
      (fun t' h' => hend t' (by rwa [e])) (by rwa [← e])
    have hq : (q + 1 != q) = true := by simp
    simp only [Nat.add_zero] at ht
    simp only [repMore, m_set, ht, Option.any_some, ha, if_true, St.adv, hq, Option.all_none,
      Bool.and_self, ih', e]
    cases h : k ⟨q + 1 + n, cs⟩ with
    | none => exact absurd (e ▸ h) hk
    | some r => rfl

end Matcher

/-! ## The search loop -/

section Search

variable {py : PyUnicode} {p : Pattern} {s : List Char}

/-- one more unit of fuel than the positions left changes nothing -/
theorem searchFrom_succ (f pos : Nat) (ma : Bool) (hf : s.length - pos < f) :
    searchFrom py p s (f + 1) pos ma = searchFrom py p s f pos ma := by
  induction f generalizing pos ma with
  | zero => omega
  | succ f ih =>
    unfold searchFrom
    split
    · rfl
    · split
      · exact ih (pos + 1) false (by omega)
      · rfl

/-- a match at the start position is the search's result -/
theorem search_here {pos : Nat} {ma : Bool} {mt : Match} (h : matchAt py p s pos ma = some mt) :
    search py p s pos ma = some mt := by
  simp [search, searchFrom, h]

/-- where nothing matches, the search moves one position on -/
theorem search_skip {pos : Nat} {ma : Bool} (h : matchAt py p s pos ma = none)
    (hpos : pos < s.length) : search py p s pos ma = search py p s (pos + 1) false := by
  rw [search, searchFrom, h]
  simp only [hpos, if_true]
  rw [search, searchFrom_succ _ _ _ (by omega)]

/-- at the end of the string the search fails when nothing matches there -/
theorem search_end {ma : Bool} (h : matchAt py p s s.length ma = none) :
    search py p s s.length ma = none := by
  simp [search, searchFrom, h]

/-- where nothing matches, `finditer` moves its search on -/
theorem finditerFrom_skip {pos f : Nat} {ma : Bool} (h : matchAt py p s pos ma = none)
    (hpos : pos < s.length) : finditerFrom py p s f pos ma = finditerFrom py p s f (pos + 1) false := by
  cases f with
  | zero => rfl
  | succ f => simp only [finditerFrom, search_skip h hpos]

/-- where nothing matches, `sub` moves its search on and keeps copying -/
theorem subFrom_skip {tmpl : List TItem} {count f i start n : Nat}
    (h : matchAt py p s start false = none) (hs : start < s.length) :
    subFrom py p s tmpl count (f + 1) i start false n =
      subFrom py p s tmpl count (f + 1) i (start + 1) false n := by
  simp only [subFrom, search_skip h hs]

end Search

theorem take_one_drop {α : Type} (s : List α) (j : Nat) : (s.drop j).take 1 = (s[j]?).toList := by
  rw [← List.head?_drop]
  cases s.drop j <;> rfl


end Hydrogram.Re
