/-
The command filter against the grammar it is written for.

`func` accepts a text when, after one of the prefixes, `re.match` of
`^(?:{cmd}(?:@?{username})?)(?:\s|$)` succeeds for one of the commands, and it stores the command
and the arguments of what `re.sub` of `{cmd}(?:@?{username})?\s?` leaves. When the command names
have no character special to `re` and the bot's username is made of ASCII letters, digits and `_`,
the first pattern matches exactly the texts of a small grammar (`Invokes`): a run of characters
that match the command, then the username with or without `@`, or nothing, then whitespace or the
end. The second removes exactly that part and the whitespace character after it, provided no
whitespace character lower-cases to another character, as in the Unicode database: otherwise a
whitespace character could pass for a letter of the username under `IGNORECASE`, and the two
patterns could part.

Results:
- `m_usernameNode_eq`: `(?:@?{username})?` tries its three ends in order (`userEnds`).
- `matchAt_commandNode_isSome`: the command pattern matches a text exactly when the text invokes
  the command.
- `reSub_commandStrip_eq`: on such a text the strip leaves what follows the whitespace.
- `commandFunc_invoked`: every text the filter accepts is a prefix and a text that invokes one of
  its commands, and the stored arguments are those of the rest; `commandFunc_accepts`: every such
  text is accepted.
- `commandFunc_tokens`: a filter with one command and one prefix on a text whose rest is made of
  tokens stores the command and the tokens' arguments.
-/
import Hydrogram.Filters.CommandArgs

namespace Hydrogram

open Re

/-! ## The grammar -/

section Grammar

variable (py : PyUnicode) (fl : Flags)

/-- what may follow the command: the bot's username with or without `@`, or nothing -/
def UserPart (u U : List Char) : Prop :=
  U = [] ∨ List.Forall₂ (fun c t => litMatch py fl c t = true) u U ∨
    List.Forall₂ (fun c t => litMatch py fl c t = true) ('@' :: u) U

/-- `\s` of the two patterns -/
def spaceMatch (t : Char) : Bool := setMatch py fl false [.cat .space] t

/-- `[\s]` has no cased member, so `IGNORECASE` leaves it alone: it matches whitespace -/
theorem spaceMatch_eq (t : Char) : spaceMatch py fl t = spaceChar fl t := by
  rw [spaceMatch, setMatch_cat, Bool.false_bne]; rfl

/-- the text `W` after a prefix invokes the command `cmd` of the bot `u`, and `R` is what follows:
a run that matches the command, the username part, then `R`, empty or starting with `\s` -/
def Invokes (u cmd W R : List Char) : Prop :=
  ∃ T U, W = T ++ U ++ R ∧ List.Forall₂ (fun c t => litMatch py fl c t = true) cmd T ∧
    UserPart py fl u U ∧ ∀ t ∈ R.head?, spaceMatch py fl t = true

/-- a whitespace character is its own lower case, as in the Unicode database -/
def SpaceCaseless : Prop := ∀ t, isSpace t = true → py.lowerChar t = t

/-- where `(?:@?{username})?` may end when it starts at `p`, in the order it tries them: after `@`
and the username, after the username, and at `p` -/
def userEnds (s u : List Char) (p : Nat) : List Nat :=
  (if LitsAt py fl s ('@' :: u) p then [p + 1 + u.length] else []) ++
    (if LitsAt py fl s u p then [p + u.length] else []) ++ [p]

end Grammar

/-! ## The two patterns, node by node -/

section Nodes

variable {py : PyUnicode} {fl : Flags} {s : List Char}

theorem m_seqOf_lits_only (cs : List Char) (k : St → Option St) (st : St) :
    m py fl s (seqOf (cs.map .lit)) k st =
      if LitsAt py fl s cs st.pos then k { st with pos := st.pos + cs.length } else none := by
  simpa using m_seqOf_lits_eq cs [] k st

/-- the username part tries its ends in order and keeps the first one after which the rest of the
pattern succeeds -/
theorem m_usernameNode_eq (u : List Char) (k : St → Option St) (st : St) :
    m py fl s (usernameNode u) k st = (userEnds py fl s u st.pos).findSome? fun q => k { st with pos := q } := by
  have hone : ∀ q, [q].findSome? (fun q => k { st with pos := q }) = k { st with pos := q } :=
    fun q => by rw [List.findSome?_cons]; cases k _ <;> rfl
  have hst : ({ st with pos := st.pos } : St) = st := rfl
  rw [usernameNode, m_opt, seqOf_cons, m_cat, m_opt, m_lit, m_seqOf_lits_only, m_seqOf_lits_only]
  simp only [userEnds, litsAt_cons, St.adv, List.findSome?_append, Option.or_eq_orElse]
  by_cases h₁ : (s[st.pos]?).any (litMatch py fl '@') = true <;>
    by_cases h₂ : LitsAt py fl s u (st.pos + 1) <;> by_cases h₃ : LitsAt py fl s u st.pos <;>
      simp [h₁, h₂, h₃, hone, hst, Nat.add_right_comm]

theorem mem_userEnds {u : List Char} {p q : Nat} :
    q ∈ userEnds py fl s u p ↔
      (LitsAt py fl s ('@' :: u) p ∧ q = p + 1 + u.length) ∨ (LitsAt py fl s u p ∧ q = p + u.length) ∨
        q = p := by
  simp only [userEnds, List.mem_append]
  split_ifs <;> simp_all [eq_comm, or_assoc]

/-- `(?:\s|$)`, before a continuation that always succeeds, succeeds exactly at the end of the text
or before a character `\s` matches (a final newline is one) -/
theorem m_spaceOrEnd_isSome (k : St → Option St) (hk : ∀ st, (k st).isSome) (st : St) :
    (m py fl s (.branch (seqOf [.set false [.cat .space]]) (seqOf [.anchor .ending])) k st).isSome ↔
      st.pos ≤ s.length ∧ ∀ t ∈ s[st.pos]?, spaceMatch py fl t = true := by
  have hn : spaceMatch py fl '\n' = true := by
    rw [spaceMatch_eq]; unfold spaceChar; split <;> decide
  simp only [m_branch, seqOf_cons, seqOf_nil, m_cat, m_set, m_empty, m_anchor]
  cases h : s[st.pos]? with
  | none =>
    have hle := List.getElem?_eq_none_iff.1 h
    by_cases hl : st.pos = s.length
    · simp [atMatch, hl, hk]
    · have : ¬st.pos + 1 = s.length := by omega
      simp [atMatch, hl, this, h]
      omega
  | some t =>
    have hlt := (List.getElem?_eq_some_iff.1 h).1
    by_cases ht : spaceMatch py fl t = true
    · obtain ⟨x, hx⟩ := Option.isSome_iff_exists.1 (hk st.adv)
      simp only [spaceMatch] at ht
      simp [ht, hx, hlt.le, spaceMatch]
    · have htn : t ≠ '\n' := fun e => ht (e ▸ hn)
      simp only [spaceMatch] at ht
      simp [ht, atMatch, h, htn, hlt.ne, spaceMatch]

end Nodes

/-! ## The command pattern matches the grammar -/

section Accept

variable {py : PyUnicode} {fl : Flags} {u cmd : List Char}

/-- the grammar as the pattern reads it: the command's literals at the start, then one of the
username part's ends, at the end of the text or before `\s` -/
theorem invokes_iff {W : List Char} :
    (∃ R, Invokes py fl u cmd W R) ↔ LitsAt py fl W cmd 0 ∧
      ∃ q ∈ userEnds py fl W u cmd.length, q ≤ W.length ∧ ∀ t ∈ W[q]?, spaceMatch py fl t = true := by
  constructor
  · rintro ⟨R, T, U, rfl, hT, hU, hR⟩
    have hlen := hT.length_eq
    have hdrop : (T ++ U ++ R).drop cmd.length = U ++ R := by
      rw [hlen, List.append_assoc, List.drop_left]
    have hat : (T ++ U ++ R)[T.length + U.length]? = R.head? := by
      rw [← List.length_append, List.getElem?_append_right le_rfl, Nat.sub_self,
        List.head?_eq_getElem?]
    refine ⟨litsAt_iff.2 ⟨T, hT, by simp [List.append_assoc]⟩, cmd.length + U.length, ?_,
      by simp; omega, by rwa [hlen, hat]⟩
    rw [mem_userEnds]
    rcases hU with rfl | hU | hU
    · simp
    · exact .inr (.inl ⟨litsAt_iff.2 ⟨U, hU, hdrop ▸ List.prefix_append _ _⟩, by rw [hU.length_eq]⟩)
    · refine .inl ⟨litsAt_iff.2 ⟨U, hU, hdrop ▸ List.prefix_append _ _⟩, ?_⟩
      rw [← hU.length_eq, List.length_cons]; omega
  · rintro ⟨hT, q, hq, hle, hR⟩
    have hp : cmd.length ≤ W.length := by
      have := hT.length_eq; simp at this; omega
    have hpq : cmd.length ≤ q := by
      rcases mem_userEnds.1 hq with ⟨-, rfl⟩ | ⟨-, rfl⟩ | rfl <;> omega
    refine ⟨W.drop q, W.take cmd.length, (W.drop cmd.length).take (q - cmd.length), ?_,
      by simpa [LitsAt] using hT, ?_, by rwa [List.head?_drop]⟩
    · conv_lhs => rw [← List.take_append_drop cmd.length W,
        ← List.take_append_drop (q - cmd.length) (W.drop cmd.length)]
      rw [List.drop_drop, Nat.add_sub_cancel' hpq, List.append_assoc]
    · rcases mem_userEnds.1 hq with ⟨h, rfl⟩ | ⟨h, rfl⟩ | rfl
      · refine .inr (.inr ?_)
        rw [show cmd.length + 1 + u.length - cmd.length = ('@' :: u).length by simp; omega]
        exact h
      · exact .inr (.inl (by rw [Nat.add_sub_cancel_left]; exact h))
      · exact .inl (by simp)

/-- `re.match` of `^(?:{cmd}(?:@?{username})?)(?:\s|$)` succeeds exactly on the texts that invoke
the command -/
theorem matchAt_commandNode_isSome (W : List Char) :
    (matchAt py ⟨commandNode u cmd, 0, fl⟩ W 0 false).isSome ↔ ∃ R, Invokes py fl u cmd W R := by
  rw [invokes_iff]
  simp only [matchAt, Option.isSome_map, commandNode, seqOf_cons, seqOf_nil, m_cat, m_anchor]
  rw [if_pos (by simp [atMatch]), m_seqOf_lits_eq]
  by_cases hT : LitsAt py fl W cmd 0
  · simp only [hT, if_true, true_and, seqOf_cons, seqOf_nil, m_cat, m_empty, m_usernameNode_eq,
      Option.isSome_map', List.findSome?_isSome_iff, Nat.zero_add]
    refine exists_congr fun q => and_congr_right fun _ => ?_
    exact m_spaceOrEnd_isSome _ (by simp) _
  · simp [hT]

end Accept

/-! ## The strip removes what the match read -/

section Cases

theorem isSpace_of_isAsciiSpace {c : Char} (h : isAsciiSpace c = true) : isSpace c = true := by
  simp only [isAsciiSpace, isSpace, Bool.or_eq_true, Bool.and_eq_true, decide_eq_true_eq,
    beq_iff_eq] at h ⊢
  omega

/-- a username character and `@`: lower case stays ASCII, neither it nor its lower case is
whitespace, and a username character does not lower-case to `@` -/
theorem caseFacts_ofNat : ∀ n : Fin 128, (usernameChar (Char.ofNat n) || Char.ofNat n == '@') = true →
    (Char.ofNat n).toLower.toNat < 128 ∧ isSpace (Char.ofNat n) = false ∧
      isSpace (Char.ofNat n).toLower = false ∧
      (usernameChar (Char.ofNat n) = true → (Char.ofNat n).toLower ≠ '@') := by
  decide

theorem caseFacts {c : Char} (hc : usernameChar c = true ∨ c = '@') :
    c.toNat < 128 ∧ c.toLower.toNat < 128 ∧ isSpace c = false ∧ isSpace c.toLower = false ∧
      (usernameChar c = true → c.toLower ≠ '@') := by
  have h128 : c.toNat < 128 := by
    rcases hc with hc | rfl
    · exact usernameChar_toNat hc
    · decide
  have hc' : (usernameChar c || c == '@') = true := by
    rcases hc with hc | rfl
    · simp [hc]
    · decide
  have := caseFacts_ofNat ⟨c.toNat, h128⟩ (by simpa only [Fin.val_mk, Char.ofNat_toNat] using hc')
  simp only [Fin.val_mk, Char.ofNat_toNat] at this
  exact ⟨h128, this⟩

variable {py : PyUnicode} {fl : Flags}

/-- whitespace is not an ASCII capital -/
theorem toLower_of_isSpace {t : Char} (ht : isSpace t = true) : t.toLower = t := by
  simp only [isSpace, Bool.or_eq_true, Bool.and_eq_true, decide_eq_true_eq, beq_iff_eq] at ht
  simp only [Char.toLower, ge_iff_le]
  rw [if_neg (by omega)]

/-- under `SpaceCaseless`, what `\s` matches matches neither `@` nor a username character -/
theorem litMatch_of_spaceMatch (hsp : SpaceCaseless py) {c t : Char}
    (hc : usernameChar c = true ∨ c = '@') (ht : spaceMatch py fl t = true) :
    litMatch py fl c t = false := by
  obtain ⟨hc128, hlow, hs, hsl, -⟩ := caseFacts hc
  have hts : isSpace t = true := by
    rw [spaceMatch_eq, spaceChar] at ht
    split at ht
    · exact isSpace_of_isAsciiSpace ht
    · exact ht
  have hlt : lowerOf py fl t = t := by
    unfold lowerOf; split
    · exact toLower_of_isSpace hts
    · exact hsp t hts
  unfold litMatch
  split
  · rw [hlt, lowerOf_ascii hc128, Bool.or_eq_false_iff, beq_eq_false_iff_ne, List.contains_eq_any_beq,
      List.any_eq_false]
    refine ⟨fun h => by simp [h, hsl] at hts, fun x hx hxt => ?_⟩
    rw [beq_iff_eq.1 hxt] at hts
    rcases extraCases_ascii hlow hx with rfl | rfl <;> exact absurd hts (by decide)
  · rw [beq_eq_false_iff_ne]
    exact fun h => by simp [h, hs] at hts

/-- a character that matches a username character does not match `@` -/
theorem litMatch_at_of_username {c t : Char} (hc : usernameChar c = true)
    (h : litMatch py fl c t = true) : litMatch py fl '@' t = false := by
  obtain ⟨hc128, -, -, -, hat⟩ := caseFacts (.inl hc)
  rw [litMatch_uncased (by rw [isCased_ascii (by decide)]; rfl), beq_eq_false_iff_ne]
  rintro rfl
  rw [litMatch_ascii hc128 (by decide)] at h
  split at h
  · exact hat hc (beq_iff_eq.1 h).symm
  · exact absurd hc (by rw [← beq_iff_eq.1 h]; decide)

end Cases

section Strip

variable {py : PyUnicode} {fl : Flags} {s : List Char} {u cmd : List Char}

theorem not_litsAt_cons {c : Char} {cs : List Char} {p : Nat}
    (h : ∀ t ∈ s[p]?, litMatch py fl c t = false) : ¬LitsAt py fl s (c :: cs) p := fun hl => by
  obtain ⟨h1, -⟩ := litsAt_cons.1 hl
  cases hs : s[p]? with
  | none => simp [hs] at h1
  | some t => simp [hs, h t hs] at h1

variable (hu : ∀ c ∈ u, usernameChar c = true) (hsp : SpaceCaseless py)

include hu hsp

/-- the first end the username part tries is the end of the username part of the text -/
theorem userEnds_head {T U R : List Char} (hU : UserPart py fl u U)
    (hR : ∀ t ∈ R.head?, spaceMatch py fl t = true) :
    (userEnds py fl (T ++ U ++ R) u T.length).head? = some (T.length + U.length) := by
  have hat : ∀ V : List Char, (T ++ V ++ R)[T.length]? = (V ++ R).head? := fun V => by
    rw [List.append_assoc, List.getElem?_append_right le_rfl, Nat.sub_self, List.head?_eq_getElem?]
  have empty : (userEnds py fl (T ++ [] ++ R) u T.length).head? = some (T.length + 0) := by
    have hno : ∀ c, usernameChar c = true ∨ c = '@' → ∀ cs,
        ¬LitsAt py fl (T ++ [] ++ R) (c :: cs) T.length := fun c hc cs =>
      not_litsAt_cons fun t ht => litMatch_of_spaceMatch hsp hc (hR t (by rwa [hat] at ht))
    rw [userEnds, if_neg (hno '@' (.inr rfl) u)]
    cases u with
    | nil =>
      have h0 : LitsAt py fl (T ++ [] ++ R) [] T.length := by simp [LitsAt]
      rw [if_pos h0]; rfl
    | cons c u => rw [if_neg (hno c (.inl (hu c (List.mem_cons_self _ _))) u)]; rfl
  rcases hU with rfl | hU | hU
  · exact empty
  · cases hU with
    | nil => exact empty
    | @cons c t u' U' hct hrest =>
      have hl : LitsAt py fl (T ++ t :: U' ++ R) (c :: u') T.length :=
        litsAt_iff.2 ⟨_, .cons hct hrest, by
          rw [List.append_assoc, List.drop_left]; exact List.prefix_append _ _⟩
      have h1 : ¬LitsAt py fl (T ++ t :: U' ++ R) ('@' :: c :: u') T.length :=
        not_litsAt_cons fun t' ht' => by
          rw [hat, List.cons_append, List.head?_cons, Option.mem_def, Option.some.injEq] at ht'
          exact ht' ▸ litMatch_at_of_username (hu c (List.mem_cons_self _ _)) hct
      rw [userEnds, if_neg h1, if_pos hl]
      simp [hrest.length_eq]
  · have hl : LitsAt py fl (T ++ U ++ R) ('@' :: u) T.length :=
      litsAt_iff.2 ⟨U, hU, by rw [List.append_assoc, List.drop_left]; exact List.prefix_append _ _⟩
    simp only [userEnds, hl, if_true, List.cons_append, List.head?_cons, ← hU.length_eq,
      List.length_cons, Option.some.injEq]
    omega

/-- on a text that invokes the command, the strip pattern matches at the start, through the
username part and the `\s` character after it, if any -/
theorem matchAt_stripNode_eq {W R : List Char} (hinv : Invokes py fl u cmd W R) :
    matchAt py ⟨stripNode u cmd, 0, fl⟩ W 0 false =
      some ⟨W, 0, W.length - R.length + (R.take 1).length, []⟩ := by
  obtain ⟨T, U, rfl, hT, hU, hR⟩ := hinv
  have hlen := hT.length_eq
  have hT' : LitsAt py fl (T ++ U ++ R) cmd 0 := litsAt_iff.2 ⟨T, hT, by simp [List.append_assoc]⟩
  obtain ⟨rest, hends⟩ := List.head?_eq_some_iff.1 (userEnds_head hu hsp (T := T) hU hR)
  have hat : (T ++ U ++ R)[T.length + U.length]? = R.head? := by
    rw [← List.length_append, List.getElem?_append_right le_rfl, Nat.sub_self,
      List.head?_eq_getElem?]
  have hW : (T ++ U ++ R).length - R.length = T.length + U.length := by simp; omega
  simp only [matchAt, stripNode]
  rw [m_seqOf_lits_eq, if_pos hT']
  simp only [seqOf_cons, seqOf_nil, m_cat, m_usernameNode_eq, hlen, Nat.zero_add, hends, m_opt,
    m_set, m_empty]
  rw [List.findSome?_cons_of_isSome _ (by split <;> rfl), hat, hW]
  cases R with
  | nil => simp
  | cons t R =>
    have ht := hR t rfl
    simp only [spaceMatch] at ht
    simp [ht]

variable (hc : ∀ c ∈ cmd, special c = false)

include hc

/-- `re.sub(..., count=1)` of the strip pattern leaves what follows the `\s` after the username
part -/
theorem reSub_commandStrip_eq {W R : List Char} (hinv : Invokes py fl u cmd W R) :
    reSub py (commandStrip ⟨u⟩ ⟨cmd⟩) "" ⟨W⟩ 1 fl = .ok ⟨R.drop 1⟩ := by
  have hm := matchAt_stripNode_eq hu hsp hinv
  obtain ⟨T, U, rfl, -, -, -⟩ := hinv
  have hfin : (T ++ U ++ R).length - R.length + (R.take 1).length = (T ++ U ++ R.take 1).length := by
    simp; omega
  have hsplit : T ++ U ++ R = (T ++ U ++ R.take 1) ++ R.drop 1 := by
    rw [List.append_assoc (T ++ U), List.take_append_drop]
  rw [hfin] at hm
  simp only [reSub, compile_commandStrip (fun c h => usernameChar_special (hu c h)) hc, bind,
    Except.bind, pure, Except.pure]
  simp only [show parseTemplate 0 ("".length + 1) "".data = .ok [] from rfl, sub, subFrom]
  rw [search_here hm]
  simp only [expand, List.flatMap_nil, List.take_zero, List.drop_zero, List.nil_append]
  rw [hsplit, List.drop_left]
  rfl

end Strip

/-! ## The filter -/

section Filter

theorem spaceCaseless_asciiTables : SpaceCaseless asciiTables := fun _ => toLower_of_isSpace

/-- the scanner and the unescape always return -/
theorem parseArgs_ok (py : PyUnicode) (w : String) : ∃ args, parseArgs py w = .ok args :=
  ⟨_, mapM_unescape _⟩

variable {py : PyUnicode} {fl : Flags} {u cmd : List Char} (hu : ∀ c ∈ u, usernameChar c = true)
  (hc : ∀ c ∈ cmd, special c = false)

include hu hc

theorem reMatch_commandPattern_eq (W : List Char) :
    reMatch py (commandPattern ⟨u⟩ ⟨cmd⟩) ⟨W⟩ fl = .ok (matchAt py ⟨commandNode u cmd, 0, fl⟩ W 0 false) := by
  simp only [reMatch, compile_commandPattern (fun c h => usernameChar_special (hu c h)) hc, bind,
    Except.bind, pure, Except.pure]

theorem reSub_commandStrip_ok (W : List Char) :
    ∃ wc, reSub py (commandStrip ⟨u⟩ ⟨cmd⟩) "" ⟨W⟩ 1 fl = .ok wc := by
  simp only [reSub, compile_commandStrip (fun c h => usernameChar_special (hu c h)) hc, bind,
    Except.bind, pure, Except.pure]
  exact ⟨_, rfl⟩

omit hu hc in
/-- a text that invokes a command that is not empty is not empty -/
theorem invokes_ne_nil {W R : List Char} (hcmd : cmd ≠ []) (hinv : Invokes py fl u cmd W R) :
    W ≠ [] := by
  obtain ⟨T, U, rfl, hT, -, -⟩ := hinv
  intro h
  exact hcmd (List.forall₂_nil_right_iff.1 (by rwa [(List.append_eq_nil.1 (List.append_eq_nil.1 h).1).1] at hT))

end Filter

/-! ## What the filter accepts -/

/-- **Every invocation is accepted.** For a command filter whose command names have no character
special to `re`, and a bot whose username is made of ASCII letters, digits and `_`: when the text
(or else the caption) is one of the prefixes followed by a text that invokes one of the commands,
`func` returns `True` and stores a command list -/
theorem commandFunc_accepts (py : PyUnicode) (flt : CommandFilter) (me : User) (m : Message)
    (pre cmd : String) (W R : List Char)
    (hcmds : ∀ c ∈ flt.commands, ∀ x ∈ c.data, special x = false)
    (hme : ∀ n ∈ me.username, ∀ x ∈ n.data, usernameChar x = true)
    (hpre : pre ∈ flt.prefixes) (hcmd : cmd ∈ flt.commands) (hcmd0 : cmd ≠ "")
    (htext : pyOr m.text m.caption = some ⟨pre.data ++ W⟩)
    (hinv : Invokes py flt.flags ((pyOr me.username (some "")).getD "").data cmd.data W R) :
    ∃ c, commandFunc py flt ⟨me⟩ (.message m) =
      .ok (.bool true) (.message { m with command := some c }) := by
  have hu := username_chars me hme
  have hW := invokes_ne_nil (fun h => hcmd0 (congrArg String.mk h)) hinv
  have hne : (⟨pre.data ++ W⟩ : String) ≠ "" := fun h =>
    hW (List.append_eq_nil.1 (congrArg String.data h)).2
  obtain ⟨mt, hmt⟩ := Option.isSome_iff_exists.1 ((matchAt_commandNode_isSome W).2 ⟨R, hinv⟩)
  have hpair : PairMatches py flt.flags ((pyOr me.username (some "")).getD "") ⟨pre.data ++ W⟩ pre
      cmd := by
    refine ⟨List.isPrefixOf_iff_prefix.2 (List.prefix_append _ _), mt, ?_⟩
    rw [show dropChars ⟨pre.data ++ W⟩ pre.length = ⟨W⟩ from congrArg String.mk (List.drop_left _ _)]
    exact (reMatch_commandPattern_eq hu (hcmds cmd hcmd) W).trans (congrArg _ hmt)
  obtain ⟨o, ho⟩ := @matchPrefixes_ok py flt.flags ((pyOr me.username (some "")).getD "")
    ⟨pre.data ++ W⟩ flt.commands flt.prefixes
    (fun c hc w => ⟨_, reMatch_commandPattern_eq hu (hcmds c hc) w.data⟩)
    (fun c hc w => reSub_commandStrip_ok hu (hcmds c hc) w.data) (parseArgs_ok py)
  cases o with
  | none => exact absurd hpair (matchPrefixes_none py _ _ ho pre hpre cmd hcmd)
  | some c =>
    refine ⟨c, ?_⟩
    rw [commandFunc_message, htext, if_pos (by simp [hne]), Option.getD_some, ho]

/-- **Every acceptance is an invocation.** For a command filter whose command names have no
character special to `re`, a bot whose username is made of ASCII letters, digits and `_`, and a
database in which `\s` matches no character with a lower-case mapping: when `func` returns a true
value, the text (or else the caption) is one of the prefixes followed by a text that invokes one of
the commands, and `func` stores that command followed by the arguments the scanner reads in what
follows the invocation's `\s` -/
theorem commandFunc_invoked (py : PyUnicode) (flt : CommandFilter) (me : User) (m : Message)
    (v : PyVal) (u' : Update) (hcmds : ∀ c ∈ flt.commands, ∀ x ∈ c.data, special x = false)
    (hme : ∀ n ∈ me.username, ∀ x ∈ n.data, usernameChar x = true) (hsp : SpaceCaseless py)
    (h : commandFunc py flt ⟨me⟩ (.message m) = .ok v u') (hv : truthy v = true) :
    ∃ pre ∈ flt.prefixes, ∃ cmd ∈ flt.commands, ∃ W R args,
      pyOr m.text m.caption = some ⟨pre.data ++ W⟩ ∧
      Invokes py flt.flags ((pyOr me.username (some "")).getD "").data cmd.data W R ∧
      parseArgs py ⟨R.drop 1⟩ = .ok args ∧ u' = .message { m with command := some (cmd :: args) } := by
  have hu := username_chars me hme
  rw [commandFunc_message] at h
  by_cases ht : truthy (pyOr m.text m.caption) = true
  · rw [if_pos ht] at h
    rcases hmp : matchPrefixes py flt.flags ((pyOr me.username (some "")).getD "")
      ((pyOr m.text m.caption).getD "") flt.commands flt.prefixes with e | _ | c <;> rw [hmp] at h
    · cases h
    · cases h
      exact absurd hv (by decide)
    · cases h
      obtain ⟨pre, hpre, hs, hm⟩ := matchPrefixes_accept py _ _ hmp
      obtain ⟨cmd, hcmd, ⟨mt, hmt⟩, wc, args, hwc, hargs, rfl⟩ := matchCommands_accept py _ _ hm
      obtain ⟨text, htext⟩ : ∃ text, pyOr m.text m.caption = some text :=
        Option.ne_none_iff_exists'.1 fun h' => by simp [h'] at ht
      rw [htext, Option.getD_some] at hs hmt hwc
      obtain ⟨W, hW⟩ := List.isPrefixOf_iff_prefix.1 hs
      have hd : dropChars text pre.length = ⟨W⟩ := by
        rw [dropChars, ← hW]; exact congrArg String.mk (List.drop_left _ _)
      rw [hd] at hmt hwc
      obtain ⟨R, hinv⟩ := (matchAt_commandNode_isSome W).1 (Option.isSome_iff_exists.2
        ⟨mt, Except.ok.inj ((reMatch_commandPattern_eq hu (hcmds cmd hcmd) W).symm.trans hmt)⟩)
      have hwc' := (reSub_commandStrip_eq hu hsp (hcmds cmd hcmd) hinv).symm.trans hwc
      refine ⟨pre, hpre, cmd, hcmd, W, R, args, by rw [htext, hW], hinv, ?_, rfl⟩
      rwa [Except.ok.inj hwc']
  · rw [if_neg ht] at h
    cases h
    exact absurd hv (by decide)

/-- `command("start")` of `@hydro_bot` accepts `/start@hydro_bot now` -/
theorem commandFunc_accepts_username :
    ∃ c, commandFunc asciiTables (command asciiTables (.str "start"))
        ⟨{ id := 1, username := some "hydro_bot" }⟩ (.message { text := some "/start@hydro_bot now" }) =
      .ok (.bool true) (.message { text := some "/start@hydro_bot now", command := some c }) :=
  commandFunc_accepts asciiTables _ _ _ "/" "start" "start@hydro_bot now".data " now".data
    (by rw [command_start]; decide) (by decide) (by rw [command_start]; decide)
    (by rw [command_start]; decide) (by decide) rfl
    ⟨"start".data, "@hydro_bot".data, rfl, by rw [command_start]; decide,
      .inr (.inr (by rw [command_start]; decide)), by rw [command_start]; decide⟩

/-- `command("start")` of `@hydro_bot` on `/start@hydro_bot hi` -/
theorem commandFunc_invoked_username :
    ∃ pre ∈ (command asciiTables (.str "start")).prefixes,
      ∃ cmd ∈ (command asciiTables (.str "start")).commands, ∃ W R args,
        pyOr (some "/start@hydro_bot hi") none = some ⟨pre.data ++ W⟩ ∧
        Invokes asciiTables (command asciiTables (.str "start")).flags "hydro_bot".data cmd.data W R ∧
        parseArgs asciiTables ⟨R.drop 1⟩ = .ok args ∧
        Update.message { text := some "/start@hydro_bot hi", command := some ["start", "hi"] } =
          .message { text := some "/start@hydro_bot hi", command := some (cmd :: args) } :=
  commandFunc_invoked asciiTables _ { id := 1, username := some "hydro_bot" }
    { text := some "/start@hydro_bot hi" } (.bool true)
    (.message { text := some "/start@hydro_bot hi", command := some ["start", "hi"] })
    (by rw [command_start]; decide) (by decide) spaceCaseless_asciiTables rfl rfl

/-- **A command and its tokens.** A filter with the one command `c`, which is not empty and has no
character special to `re`, and the one prefix `p`, for a bot whose username is made of ASCII
letters, digits and `_` and a database in which `\s` matches no character with a lower-case
mapping: on the text (or else the caption) `p` followed by a text that invokes `c` with `R` after
it, where what follows the first character of `R` is made of tokens (bare words, or spans quoted
with `"` or `'`, with whitespace around them), `func` stores `c` followed by the tokens'
arguments -/
theorem commandFunc_tokens (py : PyUnicode) (flt : CommandFilter) (c p : String) (me : User)
    (msg : Message) (W R : List Char) (toks : List Token) (hcmds : flt.commands = [c])
    (hpres : flt.prefixes = [p]) (hc : ∀ x ∈ c.data, special x = false) (hc0 : c ≠ "")
    (hme : ∀ n ∈ me.username, ∀ x ∈ n.data, usernameChar x = true) (hsp : SpaceCaseless py)
    (hinv : Invokes py flt.flags ((pyOr me.username (some "")).getD "").data c.data W R)
    (htoks : Tokenized (R.drop 1) toks) (htext : pyOr msg.text msg.caption = some ⟨p.data ++ W⟩) :
    commandFunc py flt ⟨me⟩ (.message msg) =
      .ok (.bool true) (.message { msg with command := some (c :: toks.map Token.value) }) := by
  have hu := username_chars me hme
  obtain ⟨mt, hmt⟩ := Option.isSome_iff_exists.1 ((matchAt_commandNode_isSome W).2 ⟨R, hinv⟩)
  rw [commandFunc_one py flt c p me msg W mt ⟨R.drop 1⟩ hcmds hpres
    (invokes_ne_nil (fun h => hc0 (congrArg String.mk h)) hinv) htext
    ((reMatch_commandPattern_eq hu hc W).trans (congrArg _ hmt)) (reSub_commandStrip_eq hu hsp hc hinv),
    parseArgs_tokenized htoks]

/-- `command("start")` of `@hydro_bot` on `/start@hydro_bot hello "foo bar"  'x y' \"quoted\"` -/
theorem commandFunc_tokens_username :
    commandFunc asciiTables (command asciiTables (.str "start"))
        ⟨{ id := 1, username := some "hydro_bot" }⟩
        (.message { text := some "/start@hydro_bot hello \"foo bar\"  'x y' \\\"quoted\\\"" }) =
      .ok (.bool true) (.message
        { text := some "/start@hydro_bot hello \"foo bar\"  'x y' \\\"quoted\\\""
          command := some ["start", "hello", "foo bar", "x y", "\"quoted\""] }) := by
  have hline : Tokenized ((Token.bare "hello").text ++ ' ' :: ((Token.quoted '"' "foo bar").text ++
      ' ' :: ' ' :: ((Token.quoted '\'' "x y").text ++ ' ' :: ((Token.bare "\\\"quoted\\\"").text ++ []))))
      [.bare "hello", .quoted '"' "foo bar", .quoted '\'' "x y", .bare "\\\"quoted\\\""] :=
    .token (by decide) (by decide) <| .space rfl <| .token (by decide) (by decide) <| .space rfl <|
      .space rfl <| .token (by decide) (by decide) <| .space rfl <| .token (by decide) (by decide) .nil
  exact commandFunc_tokens asciiTables _ "start" "/" _ _ ("start@hydro_bot".data ++ ' ' :: _) (' ' :: _)
    _ (by rw [command_start]) (by rw [command_start]) (by decide) (by decide) (by decide)
    spaceCaseless_asciiTables
    ⟨"start".data, "@hydro_bot".data, rfl, by rw [command_start]; decide,
      .inr (.inr (by rw [command_start]; decide)), by rw [command_start]; decide⟩
    hline (by decide)

end Hydrogram
