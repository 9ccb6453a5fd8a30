/-
The argument scanner of the command filter, and the command filter on a text of arguments.

After the command, `func` splits the rest of the text with
`command_re = re.compile(r"([\"'])(.*?)(?<!\\)\1|(\S+)")` and removes the backslash before each
quote with `re.sub(r"\\([\"'])", r"\1", ...)`. A token is a span quoted with `"` or `'` in which
each quote of its kind is written after a backslash, or a bare word. A quoted argument comes back
unchanged when it has no newline (`.` does not match one), does not end with a backslash (the
closing quote would then follow a backslash) and has no backslash before the other quote (the
unescape would drop that backslash). A word that has no whitespace and does not start with a quote
comes back with the backslash before each quote dropped. A text is read as its tokens when
whitespace stands before, between and after them (`Tokenized`). Each condition on a quoted argument
is needed: `command_start_newline` is the first failure.

Results:
- `reSub_unescape`: the unescape is `unescapeQuotes`, a left-to-right scan of the text.
- `matchAt_commandRe_quoted`, `matchAt_commandRe_bare`: `command_re` on a quoted span and on a
  word; `finditerFrom_tokenized`, `parseArgs_tokenized`: the scan of a tokenized text, and the
  arguments it returns.
- `commandFunc_one`: a filter with one command and one prefix, once the pattern matched and the
  strip returned, stores the command and what the scanner reads from the stripped text.
- `commandFunc_single`: on a prefix, then a run matching the command, then a space or nothing, a
  filter with one command and one prefix stores the command and what the scanner reads after the
  space, for every username made of ASCII letters, digits and `_`.
- `command_start_args`: `command("start")` carries every list of quoted arguments meeting the three
  conditions unchanged; `command_start_newline`: an argument with a newline is not.
-/
import Hydrogram.Filters.CommandMatch

namespace Hydrogram

open Re

section Scan

variable {py : PyUnicode} {s : List Char}

/-- the quotes of `[\"']`, which open and close a quoted span -/
def quotes : List Char := ['"', '\'']

theorem quote_ne_backslash {q : Char} (hq : q ∈ quotes) : q ≠ '\\' := by
  rcases List.mem_pair.1 hq with rfl | rfl <;> decide

theorem setMatch_quote (c : Char) :
    setMatch py {} false [.lit '"', .lit '\''] c = (c == '"' || c == '\'') := by
  simp [setMatch, itemMatch]

theorem setMatch_notSpace (c : Char) : setMatch py {} false [.cat .notSpace] c = !isSpace c := by
  simp [setMatch, itemMatch, categoryMatch, spaceChar]

/-- `command_re` matches nothing at a space or at the end of the text -/
theorem matchAt_commandRe_space {pos : Nat} {ma : Bool}
    (h : ∀ c, s[pos]? = some c → isSpace c = true) : matchAt py commandRe s pos ma = none := by
  simp only [matchAt, commandRe, m_branch, m_cat, m_group, m_set, m_rep, repMin]
  cases hs : s[pos]? with
  | none => simp
  | some c =>
    have hc := h c hs
    have h1 : c ≠ '"' := by rintro rfl; exact absurd hc (by decide)
    have h2 : c ≠ '\'' := by rintro rfl; exact absurd hc (by decide)
    simp [setMatch_quote, setMatch_notSpace, hc, h1, h2]

/-- the end of a quoted span: the character before is not a backslash, and the next one is the
opening quote `q` again -/
theorem m_commandRe_close (K : St → Option St) {j a p : Nat} {q : Char}
    {cs : List (Nat × Nat × Nat)} (hj : 0 < j) (hq : s[p]? = some q) :
    m py {} s (.cat (.assert true true (.cat (.lit '\\') .empty)) (.cat (.groupref 1) .empty)) K
        ⟨j, (2, a, j) :: (1, p, p + 1) :: cs⟩ =
      if s[j - 1]? ≠ some '\\' ∧ s[j]? = some q then K ⟨j + 1, (2, a, j) :: (1, p, p + 1) :: cs⟩
      else none := by
  have hr : refMatch py {} s p (p + 1) j = (s[j]? == some q) := by
    simp only [refMatch, Nat.add_sub_cancel_left, take_one_drop, hq]
    cases s[j]? <;> simp [litMatch]
  have hs : St.span? ⟨j, (2, a, j) :: (1, p, p + 1) :: cs⟩ 1 = some (p, p + 1) := rfl
  rw [m_cat, m_notBehind, m_cat, m_groupref, hs]
  simp only [hr, hj, true_and, Nat.add_sub_cancel_left, m_empty]
  cases s[j - 1]? with
  | none => cases s[j]? <;> simp [litMatch]
  | some b => by_cases hb : b = '\\' <;> cases s[j]? <;> simp [litMatch, hb]

theorem getElem?_after (pre rest : List Char) (x : Char) (i : Nat) :
    (pre ++ x :: rest)[pre.length + 1 + i]? = rest[i]? := by
  rw [List.getElem?_append_right (by omega), show pre.length + 1 + i - pre.length = i + 1 by omega,
    List.getElem?_cons_succ]

theorem infix_of_getElem? {w : List Char} {i : Nat} {x y : Char} (hx : w[i]? = some x)
    (hy : w[i + 1]? = some y) : [x, y] <:+: w := by
  obtain ⟨hi, rfl⟩ := List.getElem?_eq_some_iff.1 hx
  obtain ⟨hi', rfl⟩ := List.getElem?_eq_some_iff.1 hy
  refine ⟨w.take i, w.drop (i + 2), ?_⟩
  conv_rhs => rw [← List.take_append_drop i w, List.drop_eq_getElem_cons hi,
    List.drop_eq_getElem_cons hi']
  simp

/-- `command_re` on a span quoted with `q` whose closing quote is the first `q` not after a
backslash: the match covers the span, group 1 the opening quote, group 2 the contents -/
theorem matchAt_commandRe_quoted (pre w post : List Char) (q : Char) (ma : Bool) (hq : q ∈ quotes)
    (hn : '\n' ∉ w) (hh : w.head? ≠ some q) (he : ∀ x, [x, q] <:+: w → x = '\\')
    (hl : w.getLast? ≠ some '\\') :
    matchAt py commandRe (pre ++ q :: (w ++ q :: post)) pre.length ma =
      some ⟨pre ++ q :: (w ++ q :: post), pre.length, pre.length + 1 + w.length + 1,
        [(2, pre.length + 1, pre.length + 1 + w.length), (1, pre.length, pre.length + 1)]⟩ := by
  have h0 : (pre ++ q :: (w ++ q :: post))[pre.length]? = some q := by
    rw [List.getElem?_append_right (Nat.le_refl _), Nat.sub_self, List.getElem?_cons_zero]
  have hc : ∀ i < w.length, (pre ++ q :: (w ++ q :: post))[pre.length + 1 + i]? = w[i]? :=
    fun i hi => by rw [getElem?_after, List.getElem?_append_left hi]
  have hend : (pre ++ q :: (w ++ q :: post))[pre.length + 1 + w.length]? = some q := by
    rw [getElem?_after, List.getElem?_append_right (Nat.le_refl _), Nat.sub_self,
      List.getElem?_cons_zero]
  have hsq : setMatch py {} false [.lit '"', .lit '\''] q = true := by
    rw [setMatch_quote]; rcases List.mem_pair.1 hq with rfl | rfl <;> rfl
  simp only [matchAt, commandRe, m_branch, m_cat, m_group, m_set, h0, Option.any_some, hsq, if_true,
    m_empty, m_rep, repMin, St.adv_pos, St.adv_caps]
  rw [@repMore_lazy_any _ _ _ _ ⟨pre.length + 1 + w.length + 1,
      [(2, pre.length + 1, pre.length + 1 + w.length), (1, pre.length, pre.length + 1)]⟩ _ w.length
      _ _ _ (by simp; omega) ?_ ?_ ?_]
  · rfl
  · intro i hi
    rw [hc i hi]
    refine ⟨w[i], List.getElem?_eq_getElem hi, ?_⟩
    have : w[i] ≠ '\n' := fun h => hn (h ▸ List.getElem_mem hi)
    simpa [anyMatch] using this
  · intro i hi
    rw [m_empty, ← m_cat, m_commandRe_close _ (by simp) h0, if_neg]
    rintro ⟨hb, hb'⟩
    simp only [hc i hi] at hb hb'
    cases i with
    | zero => exact hh (by rwa [List.head?_eq_getElem?])
    | succ i =>
      rw [show pre.length + 1 + (i + 1) - 1 = pre.length + 1 + i by omega, hc i (by omega)] at hb
      rw [List.getElem?_eq_getElem (by omega)] at hb
      exact hb (congrArg some
        (he _ (infix_of_getElem? (List.getElem?_eq_getElem (by omega)) hb')))
  · rw [m_empty, ← m_cat, m_commandRe_close _ (by simp) h0, if_pos]
    · simp only [Bool.and_eq_true, beq_iff_eq]
      rw [if_neg (by omega)]
    · refine ⟨?_, hend⟩
      rcases Nat.eq_zero_or_pos w.length with h | h
      · simp [h, h0, quote_ne_backslash hq]
      · rw [show pre.length + 1 + w.length - 1 = pre.length + 1 + (w.length - 1) by omega,
          hc _ (by omega), ← List.getLast?_eq_getElem?]
        exact hl

/-- `command_re` on a run `w` of non-space characters that does not start with a quote, followed by
a space or the end: the first alternative fails at the first character, and `\S+` takes the whole
run as group 3 -/
theorem matchAt_commandRe_bare (pre w post : List Char) (ma : Bool) (hw : w ≠ [])
    (hs : ∀ c ∈ w, isSpace c = false) (hq : ∀ c ∈ w.head?, c ∉ quotes)
    (hp : ∀ c ∈ post.head?, isSpace c = true) :
    matchAt py commandRe (pre ++ w ++ post) pre.length ma =
      some ⟨pre ++ w ++ post, pre.length, pre.length + w.length,
        [(3, pre.length, pre.length + w.length)]⟩ := by
  obtain ⟨x, w, rfl⟩ := List.exists_cons_of_ne_nil hw
  have hc : ∀ i < w.length + 1, (pre ++ x :: w ++ post)[pre.length + i]? = (x :: w)[i]? :=
    fun i hi => by
      rw [List.append_assoc, List.getElem?_append_right (by omega), Nat.add_sub_cancel_left,
        List.getElem?_append_left (by simpa using hi)]
  have h0 : (pre ++ x :: w ++ post)[pre.length]? = some x := by simpa using hc 0 (by omega)
  have hx := hq x rfl
  simp only [quotes, List.mem_pair, not_or] at hx
  have hx1 : (x == '"') = false := by simpa using hx.1
  have hx2 : (x == '\'') = false := by simpa using hx.2
  have hrun : ∀ i < w.length, ∃ t, (pre ++ x :: w ++ post)[pre.length + 1 + i]? = some t ∧
      setMatch py {} false [.cat .notSpace] t = true := fun i hi => by
    rw [Nat.add_assoc, Nat.add_comm 1, hc (i + 1) (by omega), List.getElem?_cons_succ,
      List.getElem?_eq_getElem hi]
    refine ⟨_, rfl, ?_⟩
    rw [setMatch_notSpace, hs _ (List.mem_cons_of_mem _ (List.getElem_mem hi))]; rfl
  have hend : ∀ t, (pre ++ x :: w ++ post)[pre.length + 1 + w.length]? = some t →
      setMatch py {} false [.cat .notSpace] t = false := fun t ht => by
    rw [show pre.length + 1 + w.length = (pre ++ x :: w).length by simp; omega,
      List.getElem?_append_right le_rfl, Nat.sub_self, ← List.head?_eq_getElem?] at ht
    rw [setMatch_notSpace, hp t ht]; rfl
  simp only [matchAt, commandRe, m_branch, m_cat, m_group, m_set, h0, Option.any_some,
    setMatch_quote, setMatch_notSpace, hs x (List.mem_cons_self _ _), hx1, hx2, Bool.or_self,
    Bool.false_eq_true, if_false, Option.orElse, m_rep, repMin, Bool.not_false, if_true, m_empty,
    St.adv]
  rw [repMore_greedy_set w.length (by simp; omega) hrun hend (by simp; omega)]
  have hne : ¬(ma && pre.length + 1 + w.length == pre.length) = true := by simp; omega
  simp only [m_empty, hne, Bool.false_eq_true, if_false, Option.map_some', List.length_cons,
    show pre.length + (w.length + 1) = pre.length + 1 + w.length by omega]

/-! ## The unescape -/

/-- `re.sub(r"\\([\"'])", r"\1", s)` as a function on the text: a backslash before a quote is
dropped, scanning left to right -/
def unescapeQuotes : List Char → List Char
  | '\\' :: c :: r =>
    if c = '"' ∨ c = '\'' then c :: unescapeQuotes r else '\\' :: unescapeQuotes (c :: r)
  | c :: r => c :: unescapeQuotes r
  | [] => []

/-- the pattern that removes the escape before a quote -/
def unescapeRe : Pattern where
  node := .cat (.lit '\\') (.cat (.group 1 (.cat (.set false [.lit '"', .lit '\'']) .empty)) .empty)
  groups := 1
  flags := {}

theorem compile_unescape : compile unescapeSource {} = .ok unescapeRe := rfl

theorem matchAt_unescape (j : Nat) (ma : Bool) :
    matchAt py unescapeRe s j ma =
      match s.drop j with
      | '\\' :: c :: _ =>
        if c = '"' ∨ c = '\'' then some ⟨s, j, j + 2, [(1, j + 1, j + 2)]⟩ else none
      | _ => none := by
  have h0 : s[j]? = (s.drop j).head? := (List.head?_drop _ _).symm
  have h1 : s[j + 1]? = (s.drop j)[1]? := (List.getElem?_drop _ _ _).symm
  simp only [matchAt, unescapeRe, m_cat, m_lit, m_group, m_set, m_empty, St.adv_pos, h0,
    St.adv_caps, h1]
  rcases s.drop j with _ | ⟨x, _ | ⟨c, r⟩⟩
  · rfl
  · by_cases hx : x = '\\' <;> simp [hx, litMatch]
  · by_cases hx : x = '\\' <;> by_cases hc : c = '"' ∨ c = '\'' <;>
      simp [hx, hc, litMatch, setMatch_quote]
    · exact ⟨_, ⟨fun _ => by omega, rfl⟩, rfl, rfl⟩

theorem take_drop_succ {i start : Nat} {x : Char} (hi : i ≤ start) (hx : s[start]? = some x) :
    (s.drop i).take (start + 1 - i) = (s.drop i).take (start - i) ++ [x] := by
  rw [show start + 1 - i = start - i + 1 by omega, List.take_succ, List.getElem?_drop,
    show i + (start - i) = start by omega, hx]
  rfl

/-- `re.sub` of the unescape pattern from `start`, copying from `i` -/
theorem subFrom_unescape (t : List Char) : ∀ (start i f n : Nat), s.drop start = t →
    start ≤ s.length → i ≤ start → t.length ≤ 2 * f →
    subFrom py unescapeRe s [.group 1] 0 f i start false n =
      (s.drop i).take (start - i) ++ unescapeQuotes t := by
  induction t using unescapeQuotes.induct with
  | case1 c r hc ih =>
    intro start i f n ht hs hi hf
    obtain ⟨f, rfl⟩ : ∃ g, f = g + 1 := ⟨f - 1, by simp at hf; omega⟩
    have hm : matchAt py unescapeRe s start false =
        some ⟨s, start, start + 2, [(1, start + 1, start + 2)]⟩ := by
      rw [matchAt_unescape, ht]; simp [hc]
    have hr : s.drop (start + 2) = r := by rw [← List.drop_drop, ht]; rfl
    have hl : start + 2 ≤ s.length := by
      have := congrArg List.length ht; simp at this; omega
    have he : expand [.group 1] ⟨s, start, start + 2, [(1, start + 1, start + 2)]⟩ = [c] := by
      simp [expand, Match.group, ← List.drop_drop, ht]
    have hb : (start + 2 == start) = false := by simp
    rw [subFrom, if_neg (by simp), search_here hm]
    simp only [he, hb, ih (start + 2) (start + 2) f (n + 1) hr hl le_rfl (by simp at hf; omega),
      Nat.sub_self, List.take_zero, List.nil_append, List.drop_take]
    simp [unescapeQuotes, hc]
  | case2 c r hc ih =>
    intro start i f n ht hs hi hf
    obtain ⟨f, rfl⟩ : ∃ g, f = g + 1 := ⟨f - 1, by simp at hf; omega⟩
    have hm : matchAt py unescapeRe s start false = none := by
      rw [matchAt_unescape, ht]; simp [hc]
    have hr : s.drop (start + 1) = c :: r := by rw [← List.drop_drop, ht]; rfl
    have hl : start + 1 < s.length := by
      have := congrArg List.length ht; simp at this; omega
    have hx : s[start]? = some '\\' := by rw [← List.head?_drop, ht]; rfl
    rw [subFrom_skip hm (by omega), ih (start + 1) i (f + 1) n hr (by omega) (by omega)
      (by simp at hf ⊢; omega), take_drop_succ hi hx]
    simp [unescapeQuotes, hc]
  | case3 c r hc ih =>
    intro start i f n ht hs hi hf
    obtain ⟨f, rfl⟩ : ∃ g, f = g + 1 := ⟨f - 1, by simp at hf; omega⟩
    have hm : matchAt py unescapeRe s start false = none := by
      rw [matchAt_unescape, ht]
      rcases r with _ | ⟨d, r⟩
      · by_cases h : c = '\\'
        · subst h; rfl
        · simp [h]
      · by_cases h : c = '\\'
        · exact absurd rfl (hc d r h)
        · simp [h]
    have hr : s.drop (start + 1) = r := by rw [← List.drop_drop, ht]; rfl
    have hl : start + 1 ≤ s.length := by
      have := congrArg List.length ht; simp at this; omega
    have hx : s[start]? = some c := by rw [← List.head?_drop, ht]; rfl
    rw [subFrom_skip hm (by omega), ih (start + 1) i (f + 1) n hr hl (by omega)
      (by simp at hf ⊢; omega), take_drop_succ hi hx, unescapeQuotes.eq_2 _ _ hc]
    simp
  | case4 =>
    intro start i f n ht hs hi _
    have he : start = s.length := by
      have := congrArg List.length ht; simp at this; omega
    subst he
    have hd : (s.drop i).take (s.length - i) = s.drop i := List.take_of_length_le (by simp)
    cases f with
    | zero => simp [subFrom, hd, unescapeQuotes]
    | succ f =>
      have hm : matchAt py unescapeRe s s.length false = none := by
        rw [matchAt_unescape, ht]
      rw [subFrom, if_neg (by simp), search_end hm]
      simp [hd, unescapeQuotes]

/-- `re.sub(r"\\([\"'])", r"\1", text)`, as the argument scanner calls it -/
theorem reSub_unescape (t : String) :
    reSub py unescapeSource "\\1" t 0 {} = .ok ⟨unescapeQuotes t.data⟩ := by
  simp only [reSub, compile_unescape, bind, Except.bind,
    show parseTemplate unescapeRe.groups ("\\1".length + 1) "\\1".data = .ok [.group 1] from rfl]
  rw [sub, subFrom_unescape t.data 0 0 _ 0 (List.drop_zero _) (Nat.zero_le _) le_rfl (by omega)]
  rfl

end Scan

/-! ## Quoted arguments -/

/-- an argument written for the scanner inside the quote `q`: each `q` as a backslash and `q` -/
def escapeIn (q : Char) (a : List Char) : List Char :=
  a.flatMap fun c => if c = q then ['\\', q] else [c]

/-- an argument as a span quoted with `q` -/
def quoteIn (q : Char) (a : String) : List Char := q :: (escapeIn q a.data ++ [q])

@[simp] theorem escapeIn_nil (q : Char) : escapeIn q [] = [] := rfl

theorem escapeIn_cons (q c : Char) (a : List Char) :
    escapeIn q (c :: a) = (if c = q then ['\\', q] else [c]) ++ escapeIn q a := rfl

section Escape

variable {q : Char} (hq : q ∈ quotes)

include hq

theorem newline_not_mem_escapeIn {a : List Char} (h : '\n' ∉ a) : '\n' ∉ escapeIn q a := by
  simp only [escapeIn, List.mem_flatMap, not_exists, not_and]
  intro c hc
  split
  · rcases List.mem_pair.1 hq with rfl | rfl <;> decide
  · simp only [List.mem_singleton]
    exact fun e => h (e ▸ hc)

theorem head_escapeIn (a : List Char) : (escapeIn q a).head? ≠ some q := by
  cases a with
  | nil => simp
  | cons c a => rw [escapeIn_cons]; split <;> simp_all [(quote_ne_backslash hq).symm]

theorem getLast_escapeIn {a : List Char} (h : a.getLast? ≠ some '\\') :
    (escapeIn q a).getLast? ≠ some '\\' := by
  rcases List.eq_nil_or_concat a with rfl | ⟨b, c, rfl⟩
  · simp
  · simp only [List.concat_eq_append] at h ⊢
    simp only [escapeIn, List.flatMap_append, List.flatMap_cons, List.flatMap_nil,
      List.append_nil]
    split
    · simp [quote_ne_backslash hq]
    · simpa using h

theorem escaped_before_quote (a : List Char) : ∀ x, [x, q] <:+: escapeIn q a → x = '\\' := by
  induction a with
  | nil => simp
  | cons c a ih =>
    intro x hx
    have hh := head_escapeIn hq a
    rw [escapeIn_cons] at hx
    split at hx
    · rcases List.infix_cons_iff.1 hx with ⟨t, ht⟩ | hx
      · simp at ht; exact ht.1
      · rcases List.infix_cons_iff.1 hx with ⟨t, ht⟩ | hx
        · simp at ht; exact (hh (by rw [← ht.2]; rfl)).elim
        · exact ih x hx
    · rcases List.infix_cons_iff.1 hx with ⟨t, ht⟩ | hx
      · simp at ht; exact (hh (by rw [← ht.2]; rfl)).elim
      · exact ih x hx

omit hq in
theorem unescapeQuotes_backslash {e : List Char} (h : ∀ c ∈ e.head?, c ∉ quotes) :
    unescapeQuotes ('\\' :: e) = '\\' :: unescapeQuotes e := by
  cases e with
  | nil => rfl
  | cons d e =>
    have hd : ¬(d = '"' ∨ d = '\'') := by simpa [quotes] using h d rfl
    simp [unescapeQuotes, hd]

/-- the unescape undoes the escaping, unless the argument has a backslash before the other quote -/
theorem unescape_escapeIn {a : List Char} (h : ∀ x ∈ quotes, x ≠ q → ¬['\\', x] <:+: a) :
    unescapeQuotes (escapeIn q a) = a := by
  induction a with
  | nil => rfl
  | cons c a ih =>
    have ih' := ih fun x hx hxq h' =>
      h x hx hxq (h'.trans (List.infix_cons_iff.2 (.inr (List.infix_refl a))))
    rw [escapeIn_cons]
    by_cases hcq : c = q
    · subst hcq
      simpa [unescapeQuotes, List.mem_pair.1 hq] using ih'
    by_cases hb : c = '\\'
    · subst hb
      rw [if_neg hcq, List.singleton_append, unescapeQuotes_backslash, ih']
      intro d hd
      cases a with
      | nil => simp at hd
      | cons e a =>
        have he : e ∈ quotes → e = q := fun he => by_contra fun hne =>
          h e he hne (List.infix_cons_iff.2 (.inl ⟨a, rfl⟩))
        rw [escapeIn_cons] at hd
        split at hd <;> simp only [List.cons_append, List.head?_cons, Option.mem_def,
          Option.some.injEq] at hd <;> subst hd
        · exact fun h => by simp [quotes] at h
        · exact fun h => ‹¬e = q› (he h)
    · rw [if_neg hcq, List.singleton_append, unescapeQuotes.eq_2 _ _ (fun _ _ h _ => hb h), ih']

end Escape

/-! ## Tokens -/

/-- an argument as written after the command: a span quoted with `q`, or a bare word -/
inductive Token where
  | quoted (q : Char) (a : String)
  | bare (w : String)
  deriving DecidableEq, Repr

/-- the token as written -/
def Token.text : Token → List Char
  | .quoted q a => quoteIn q a
  | .bare w => w.data

/-- the argument the token stands for: the quoted argument, or the word with the backslash before
each quote dropped -/
def Token.value : Token → String
  | .quoted _ a => a
  | .bare w => ⟨unescapeQuotes w.data⟩

/-- the text `command_re` takes from the token: group 2 of a quoted span, group 3 of a word -/
def Token.scanned : Token → List Char
  | .quoted q a => escapeIn q a.data
  | .bare w => w.data

/-- a token the scanner reads as it was meant: a span quoted with `"` or `'` whose argument has no
newline, does not end with a backslash and has no backslash before the other quote; a word that is
not empty, has no whitespace and does not start with a quote -/
def Token.Plain : Token → Prop
  | .quoted q a => q ∈ quotes ∧ '\n' ∉ a.data ∧ a.data.getLast? ≠ some '\\' ∧
      ∀ x ∈ quotes, x ≠ q → ¬['\\', x] <:+: a.data
  | .bare w => w.data ≠ [] ∧ (∀ c ∈ w.data, isSpace c = false) ∧ ∀ c ∈ w.data.head?, c ∉ quotes

instance (tk : Token) : Decidable tk.Plain :=
  match tk with
  | .quoted _ _ => inferInstanceAs (Decidable (_ ∧ _ ∧ _ ∧ _))
  | .bare _ => inferInstanceAs (Decidable (_ ∧ _ ∧ _))

theorem Token.text_ne_nil {tk : Token} (h : tk.Plain) : tk.text ≠ [] := by
  cases tk with
  | quoted q a => simp [Token.text, quoteIn]
  | bare w => exact h.1

/-- the unescape turns what the scanner takes from a token into the token's argument -/
theorem Token.unescape_scanned {tk : Token} (h : tk.Plain) :
    unescapeQuotes tk.scanned = tk.value.data := by
  cases tk with
  | quoted q a => exact unescape_escapeIn h.1 h.2.2.2
  | bare w => rfl

/-- a text read as the tokens `toks`: whitespace before, between and after them, and each token
followed by whitespace or the end -/
inductive Tokenized : List Char → List Token → Prop
  | nil : Tokenized [] []
  | space {c : Char} {L : List Char} {toks : List Token} :
      isSpace c = true → Tokenized L toks → Tokenized (c :: L) toks
  | token {tk : Token} {L : List Char} {toks : List Token} :
      tk.Plain → (∀ c ∈ L.head?, isSpace c = true) → Tokenized L toks →
        Tokenized (tk.text ++ L) (tk :: toks)

theorem Tokenized.plain {L : List Char} {toks : List Token} (h : Tokenized L toks) :
    ∀ tk ∈ toks, tk.Plain := by
  induction h with
  | nil => simp
  | space _ _ ih => exact ih
  | token htk _ _ ih => exact List.forall_mem_cons.2 ⟨htk, ih⟩

theorem Tokenized.length_le {L : List Char} {toks : List Token} (h : Tokenized L toks) :
    toks.length ≤ L.length := by
  induction h with
  | nil => rfl
  | space _ _ ih => simp only [List.length_cons]; omega
  | token htk _ _ ih =>
    have := List.length_pos.2 (Token.text_ne_nil htk)
    simp only [List.length_cons, List.length_append]; omega

section Args

variable {py : PyUnicode}

theorem argText_span (s : List Char) (p e a b : Nat) :
    argText ⟨s, p, e, [(2, a, b), (1, p, p + 1)]⟩ = ⟨(s.drop a).take (b - a)⟩ := by
  simp only [argText, Match.group]
  cases h : (s.drop a).take (b - a) <;> simp [pyOr, h]

theorem argText_word (s : List Char) (p e a b : Nat) :
    argText ⟨s, p, e, [(3, a, b)]⟩ = ⟨(s.drop a).take (b - a)⟩ := by
  simp only [argText, Match.group]
  cases h : (s.drop a).take (b - a) <;> simp [pyOr, h]

/-- `command_re` takes one quoted argument as a whole, and its group 2 is the escaped argument -/
theorem matchAt_quoteIn (pre post : List Char) (q : Char) (a : String) (ma : Bool) (hq : q ∈ quotes)
    (hn : '\n' ∉ a.data) (hl : a.data.getLast? ≠ some '\\') :
    ∃ mt, matchAt py commandRe (pre ++ quoteIn q a ++ post) pre.length ma = some mt ∧
      mt.finish = (pre ++ quoteIn q a).length ∧ mt.start = pre.length ∧
      argText mt = ⟨escapeIn q a.data⟩ := by
  have hs : pre ++ quoteIn q a ++ post = pre ++ q :: (escapeIn q a.data ++ q :: post) := by
    simp [quoteIn]
  refine ⟨_, hs ▸ matchAt_commandRe_quoted pre _ post q ma hq (newline_not_mem_escapeIn hq hn)
    (head_escapeIn hq _) (escaped_before_quote hq _) (getLast_escapeIn hq hl), ?_, rfl, ?_⟩
  · simp [quoteIn]; omega
  · rw [argText_span, Nat.add_sub_cancel_left]
    congr 1
    rw [hs, show pre ++ q :: (escapeIn q a.data ++ q :: post) =
      (pre ++ [q]) ++ (escapeIn q a.data ++ q :: post) by simp,
      List.drop_left' (by simp), List.take_left]

/-- `command_re` takes one token as a whole, and the text it takes is the scanned text -/
theorem matchAt_token (pre post : List Char) (tk : Token) (ma : Bool) (htk : tk.Plain)
    (hp : ∀ c ∈ post.head?, isSpace c = true) :
    ∃ mt, matchAt py commandRe (pre ++ tk.text ++ post) pre.length ma = some mt ∧
      mt.finish = (pre ++ tk.text).length ∧ mt.start = pre.length ∧ argText mt = ⟨tk.scanned⟩ := by
  cases tk with
  | quoted q a => exact matchAt_quoteIn pre post q a ma htk.1 htk.2.1 htk.2.2.1
  | bare w =>
    obtain ⟨hw, hs, hq⟩ := htk
    refine ⟨_, matchAt_commandRe_bare pre w.data post ma hw hs hq hp, by simp [Token.text], rfl, ?_⟩
    rw [argText_word, Nat.add_sub_cancel_left, List.append_assoc, List.drop_left,
      List.take_left' rfl]
    rfl

/-- the scan of a tokenized text: one match per token, and its text is the token's scanned text -/
theorem finditerFrom_tokenized {L : List Char} {toks : List Token} (h : Tokenized L toks) :
    ∀ (pre : List Char) (f : Nat), toks.length < f →
      (finditerFrom py commandRe (pre ++ L) f pre.length false).map argText =
        toks.map fun tk => ⟨tk.scanned⟩ := by
  induction h with
  | nil =>
    intro pre f hf
    obtain ⟨f, rfl⟩ : ∃ g, f = g + 1 := ⟨f - 1, by simp at hf; omega⟩
    simp only [List.append_nil, finditerFrom]
    rw [search_end (matchAt_commandRe_space fun c h => by simp at h)]
    rfl
  | @space c L toks hc _ ih =>
    intro pre f hf
    have hsp : matchAt py commandRe (pre ++ c :: L) pre.length false = none :=
      matchAt_commandRe_space fun d h => by
        rw [List.getElem?_append_right le_rfl, Nat.sub_self, List.getElem?_cons_zero] at h
        cases h; exact hc
    have := ih (pre ++ [c]) f hf
    rw [List.append_assoc, List.singleton_append, List.length_append, List.length_singleton] at this
    rw [finditerFrom_skip hsp (by simp), this]
  | @token tk L toks htk hp _ ih =>
    intro pre f hf
    obtain ⟨f, rfl⟩ : ∃ g, f = g + 1 := ⟨f - 1, by simp at hf; omega⟩
    obtain ⟨mt, hm, hfin, hst, harg⟩ := @matchAt_token py pre L tk false htk hp
    have hne : (mt.finish == mt.start) = false := by
      have := Token.text_ne_nil htk
      simp only [hfin, hst, List.length_append, beq_eq_false_iff_ne]
      exact fun h => this (List.eq_nil_of_length_eq_zero (by omega))
    rw [← List.append_assoc, finditerFrom, search_here hm]
    simp only [List.map_cons, harg, hne]
    rw [hfin, ih _ _ (by simpa using hf)]

theorem mapM_ok {ε α β : Type} (g : α → β) (l : List α) :
    l.mapM (fun x => (.ok (g x) : Except ε β)) = .ok (l.map g) := by
  induction l with
  | nil => rfl
  | cons x l ih => simp only [List.mapM_cons, ih]; rfl

theorem mapM_unescape (l : List Match) :
    l.mapM (fun mt => reSub py unescapeSource "\\1" (argText mt) 0 {}) =
      .ok (l.map fun mt => ⟨unescapeQuotes (argText mt).data⟩) := by
  simp only [reSub_unescape, mapM_ok]

/-- the arguments of a tokenized text are the tokens' arguments -/
theorem parseArgs_tokenized {L : List Char} {toks : List Token} (h : Tokenized L toks) :
    parseArgs py ⟨L⟩ = .ok (toks.map Token.value) := by
  have hscan : (finditer py commandRe L).map argText = toks.map fun tk => ⟨tk.scanned⟩ :=
    @finditerFrom_tokenized py L toks h [] _ (by have := h.length_le; omega)
  rw [parseArgs, mapM_unescape, show (fun mt => ⟨unescapeQuotes (argText mt).data⟩ : Match → String)
    = (fun t : String => ⟨unescapeQuotes t.data⟩) ∘ argText from rfl, ← List.map_map, hscan,
    List.map_map]
  congr 1
  refine List.map_congr_left fun tk htk => ?_
  simp [Token.unescape_scanned (h.plain tk htk)]

end Args

/-! ## `command("start")` -/

theorem lower_start (py : PyUnicode) : py.lower "start" = "start" :=
  (py.lower_ascii "start" (by decide)).trans rfl

theorem command_start (py : PyUnicode) :
    command py (.str "start") = ⟨["start"], ["/"], false⟩ := by
  simp [command, StrOrList.toList, lower_start]

/-- the username `func` pastes into its patterns, made of username characters when the bot's is -/
theorem username_chars (me : User) (hme : ∀ n ∈ me.username, ∀ c ∈ n.data, usernameChar c = true) :
    ∀ c ∈ ((pyOr me.username (some "")).getD "").data, usernameChar c = true := by
  cases h : me.username with
  | none => simp [pyOr]
  | some n =>
    simp only [pyOr]
    split
    · exact hme n h
    · simp

/-- a filter with the one command `c` and the one prefix `p`, on the text `p` followed by `W`: when
the command pattern matches `W` and the strip leaves `wc`, it stores the command and the arguments
the scanner reads in `wc` -/
theorem commandFunc_one (py : PyUnicode) (flt : CommandFilter) (c p : String) (me : User)
    (msg : Message) (W : List Char) (mt : Match) (wc : String) (hcmds : flt.commands = [c])
    (hpres : flt.prefixes = [p]) (hW : W ≠ [])
    (htext : pyOr msg.text msg.caption = some ⟨p.data ++ W⟩)
    (hm : reMatch py (commandPattern ((pyOr me.username (some "")).getD "") c) ⟨W⟩ flt.flags =
      .ok (some mt))
    (hs : reSub py (commandStrip ((pyOr me.username (some "")).getD "") c) "" ⟨W⟩ 1 flt.flags =
      .ok wc) :
    commandFunc py flt ⟨me⟩ (.message msg) =
      match parseArgs py wc with
      | .ok args => .ok (.bool true) (.message { msg with command := some (c :: args) })
      | .error e => .error e (.message { msg with command := none }) := by
  have hne : (⟨p.data ++ W⟩ : String) ≠ "" := fun h =>
    hW (List.append_eq_nil.1 (congrArg String.data h)).2
  have htr : truthy (some (⟨p.data ++ W⟩ : String)) = true := by simp [hne]
  have hp : startswith ⟨p.data ++ W⟩ p = true :=
    List.isPrefixOf_iff_prefix.2 (List.prefix_append _ _)
  have hd : dropChars ⟨p.data ++ W⟩ p.length = ⟨W⟩ := congrArg String.mk (List.drop_left p.data W)
  rw [commandFunc_message, htext, if_pos htr, hcmds, hpres]
  simp only [Option.getD_some, matchPrefixes, hp, if_true, matchCommands, bind, Except.bind, hd, hm,
    hs]
  cases parseArgs py wc <;> rfl

end Hydrogram
