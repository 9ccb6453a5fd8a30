/-
The command filter: `command(commands, prefixes="/", case_sensitive=False)` and the `func` it
binds.

`command` normalises its arguments into two sets, the commands (lower-cased unless case-sensitive)
and the prefixes (`{""}` when none are given). A Python set is iterated in an order that depends on
the string-hash seed; the model keeps each set as a list in some iteration order, and the results
below allow any permutation of it.

`commandFunc` is `func`: it resets `message.command`, then for each prefix the text starts with and
each command, tries `re.match(rf"^(?:{cmd}(?:@?{username})?)(?:\s|$)", ...)`; on the first match it
strips the command with `re.sub(rf"{cmd}(?:@?{username})?\s?", "", ..., count=1)`, splits the rest
with `command_re.finditer`, removes the backslash before escaped quotes, and stores the list. The
command name and the username are pasted into the patterns unescaped, as the source does.

Results:
- `command_dot_matches`, `command_plus_raises`: a command name is read as a regular expression:
  `command("a.c")` accepts `/abc`, and `command("+")` raises `re.error` on any text that starts with
  its prefix.
- `command_order_truth`: with the prefix and command lists in any two orders, evaluations that do not
  raise agree on the result; `command_order_annotation`: they can disagree on `message.command`.
- `commandFunc_annotation`: an evaluation that returns writes only `message.command`, and what it
  stores there is a command whose pattern matches after a prefix, followed by the arguments read in
  what that command's strip leaves.
-/
import Hydrogram.Types

namespace Hydrogram

open Re

/-! ## Construction -/

/-- an argument given as one string or a list of strings -/
inductive StrOrList where
  | str (s : String)
  | list (l : List String)
  deriving DecidableEq, Repr

/-- `x if isinstance(x, list) else [x]` -/
def StrOrList.toList : StrOrList → List String
  | .str s => [s]
  | .list l => l

/-- the parameters `create` binds on a command filter: the two sets, each in its iteration order -/
structure CommandFilter where
  commands : List String
  prefixes : List String
  caseSensitive : Bool
  deriving DecidableEq, Repr

/-- `command(commands, prefixes="/", case_sensitive=False)` -/
def command (py : PyUnicode) (commands : StrOrList) (prefixes : Option StrOrList := some (.str "/"))
    (caseSensitive : Bool := false) : CommandFilter :=
  let commands := (commands.toList.map fun c => if caseSensitive then c else py.lower c).dedup
  let prefixes := (prefixes.map StrOrList.toList).getD []
  { commands
    prefixes := if prefixes.isEmpty then [""] else prefixes.dedup
    caseSensitive }

/-! ## The patterns -/

/-- the source of `command_re` -/
def commandReSource : String := "([\"'])(.*?)(?<!\\\\)\\1|(\\S+)"

/-- `command_re`: a quoted span (group 2 its contents, the closing quote not after a backslash),
or a run of non-space characters (group 3) -/
def commandRe : Pattern where
  node :=
    .branch
      (.cat (.group 1 (.cat (.set false [.lit '"', .lit '\'']) .empty))
        (.cat (.group 2 (.cat (.rep 0 none false .any) .empty))
          (.cat (.assert true true (.cat (.lit '\\') .empty))
            (.cat (.groupref 1) .empty))))
      (.cat (.group 3 (.cat (.rep 1 none true (.set false [.cat .notSpace])) .empty)) .empty)
  groups := 3
  flags := {}

theorem compile_commandRe : compile commandReSource {} = .ok commandRe := rfl

/-- the source of the pattern that removes the escape before a quote -/
def unescapeSource : String := "\\\\([\"'])"

/-- `rf"^(?:{cmd}(?:@?{username})?)(?:\s|$)"` -/
def commandPattern (username cmd : String) : String :=
  "^(?:" ++ cmd ++ "(?:@?" ++ username ++ ")?)(?:\\s|$)"

/-- `rf"{cmd}(?:@?{username})?\s?"` -/
def commandStrip (username cmd : String) : String :=
  cmd ++ "(?:@?" ++ username ++ ")?\\s?"

/-! ## `func` -/

/-- `s.startswith(p)` -/
def startswith (s p : String) : Bool := p.data.isPrefixOf s.data

/-- `s[len(p):]` -/
def dropChars (s : String) (n : Nat) : String := ⟨s.data.drop n⟩

/-- `m.group(2) or m.group(3) or ""` -/
def argText (mt : Match) : String := ⟨(pyOr (pyOr (mt.group 2) (mt.group 3)) (some [])).getD []⟩

section Func

variable (py : PyUnicode) (flags : Flags) (username : String)

/-- the arguments: each match of `command_re`, with `\"` and `\'` unescaped -/
def parseArgs (withoutCommand : String) : Except PyError (List String) :=
  (finditer py commandRe withoutCommand.data).mapM fun mt =>
    reSub py unescapeSource "\\1" (argText mt) 0 {}

/-- the inner loop, over the commands, for one prefix -/
def matchCommands (withoutPrefix : String) : List String → Except PyError (Option (List String))
  | [] => .ok none
  | cmd :: cmds => do
    match ← reMatch py (commandPattern username cmd) withoutPrefix flags with
    | none => matchCommands withoutPrefix cmds
    | some _ =>
      let withoutCommand ← reSub py (commandStrip username cmd) "" withoutPrefix 1 flags
      let args ← parseArgs py withoutCommand
      return some (cmd :: args)

/-- the outer loop, over the prefixes -/
def matchPrefixes (text : String) (cmds : List String) : List String →
    Except PyError (Option (List String))
  | [] => .ok none
  | pre :: pres =>
    if startswith text pre then do
      match ← matchCommands py flags username (dropChars text pre.length) cmds with
      | some r => return some r
      | none => matchPrefixes text cmds pres
    else matchPrefixes text cmds pres

end Func

/-- the flags of the two command patterns -/
def CommandFilter.flags (flt : CommandFilter) : Flags := { ignoreCase := !flt.caseSensitive }

/-- `func(flt, client, message)` -/
def commandFunc (py : PyUnicode) (flt : CommandFilter) (client : Client) :
    EStateM PyError Update PyVal := fun u =>
  let username := (pyOr client.me.username (some "")).getD ""
  match u.asMessage "text" with
  | .error e => .error e u
  | .ok message =>
    let text := pyOr message.text message.caption
    let u := u.setCommand none
    if !truthy text then .ok (.bool false) u
    else
      match matchPrefixes py flt.flags username (text.getD "") flt.commands flt.prefixes with
      | .error e => .error e u
      | .ok none => .ok (.bool false) u
      | .ok (some c) => .ok (.bool true) (u.setCommand (some c))

/-! ## Command names are patterns -/

/-- `command("a.c", case_sensitive=True)` accepts `/abc`: the `.` of the name matches `b`. -/
theorem command_dot_matches (py : PyUnicode) :
    commandFunc py (command py (.str "a.c") (some (.str "/")) true) ⟨{ id := 1 }⟩
      (.message { text := some "/abc" }) =
      .ok (.bool true) (.message { text := some "/abc", command := some ["a.c"] }) := rfl

/-- `command("+")` raises `re.error` on a text that starts with its prefix. -/
theorem command_plus_raises (py : PyUnicode) :
    commandFunc py (command py (.str "+") (some (.str "/")) true) ⟨{ id := 1 }⟩
      (.message { text := some "/x" }) =
      .error (.reError "nothing to repeat") (.message { text := some "/x" }) := rfl

/-! ## Iteration order -/

section Order

variable (py : PyUnicode) (flags : Flags) (username : String)

/-- the pair (`pre`, `cmd`) is one `func` accepts the text with -/
def PairMatches (text pre cmd : String) : Prop :=
  startswith text pre = true ∧
    ∃ mt, reMatch py (commandPattern username cmd) (dropChars text pre.length) flags = .ok (some mt)

/-- the accepting branch of the inner loop returns the command followed by the arguments -/
theorem accept_ok {x : Except PyError String} {f : String → Except PyError (List String)}
    {cmd : String} {o : Option (List String)}
    (h : (do let w ← x; let args ← f w; return some (cmd :: args)) = .ok o) :
    ∃ w args, x = .ok w ∧ f w = .ok args ∧ o = some (cmd :: args) := by
  cases x with
  | error e => cases h
  | ok w =>
    cases hf : f w with
    | error e => simp [bind, Except.bind, hf] at h
    | ok args =>
      simp only [bind, Except.bind, hf, pure, Except.pure, Except.ok.injEq] at h
      exact ⟨w, args, rfl, hf, h.symm⟩

theorem matchCommands_cons (w cmd : String) (cmds : List String) :
    matchCommands py flags username w (cmd :: cmds) =
      match reMatch py (commandPattern username cmd) w flags with
      | .error e => .error e
      | .ok none => matchCommands py flags username w cmds
      | .ok (some _) => do
        let wc ← reSub py (commandStrip username cmd) "" w 1 flags
        let args ← parseArgs py wc
        return some (cmd :: args) := by
  simp only [matchCommands, bind, Except.bind]
  rcases reMatch py (commandPattern username cmd) w flags with _ | _ | _ <;> rfl

theorem matchCommands_none {w : String} {cmds : List String}
    (h : matchCommands py flags username w cmds = .ok none) :
    ∀ cmd ∈ cmds, reMatch py (commandPattern username cmd) w flags = .ok none := by
  induction cmds with
  | nil => simp
  | cons cmd cmds ih =>
    rw [matchCommands_cons] at h
    intro c hc
    rcases hm : reMatch py (commandPattern username cmd) w flags with e | _ | mt <;> rw [hm] at h
    · cases h
    · rcases List.mem_cons.mp hc with rfl | hc
      · exact hm
      · exact ih h c hc
    · obtain ⟨_, _, _, _, h⟩ := accept_ok h
      cases h

/-- the inner loop accepts with a command whose pattern matches, and returns it followed by the
arguments of what that command's strip leaves -/
theorem matchCommands_accept {w : String} {cmds : List String} {r : List String}
    (h : matchCommands py flags username w cmds = .ok (some r)) :
    ∃ cmd ∈ cmds, (∃ mt, reMatch py (commandPattern username cmd) w flags = .ok (some mt)) ∧
      ∃ wc args, reSub py (commandStrip username cmd) "" w 1 flags = .ok wc ∧
        parseArgs py wc = .ok args ∧ r = cmd :: args := by
  induction cmds with
  | nil => simp [matchCommands] at h
  | cons cmd cmds ih =>
    rw [matchCommands_cons] at h
    rcases hm : reMatch py (commandPattern username cmd) w flags with e | _ | mt <;> rw [hm] at h
    · cases h
    · obtain ⟨c, hc, hc'⟩ := ih h
      exact ⟨c, List.mem_cons_of_mem _ hc, hc'⟩
    · obtain ⟨wc, args, hs, ha, hr⟩ := accept_ok h
      exact ⟨cmd, List.mem_cons_self _ _, ⟨mt, hm⟩, wc, args, hs, ha, Option.some.inj hr⟩

/-- the inner loop returns when every command's two patterns compile -/
theorem matchCommands_ok {w : String} {cmds : List String}
    (hm : ∀ cmd ∈ cmds, ∃ o, reMatch py (commandPattern username cmd) w flags = .ok o)
    (hs : ∀ cmd ∈ cmds, ∃ wc, reSub py (commandStrip username cmd) "" w 1 flags = .ok wc)
    (hp : ∀ wc, ∃ args, parseArgs py wc = .ok args) :
    ∃ o, matchCommands py flags username w cmds = .ok o := by
  induction cmds with
  | nil => exact ⟨none, rfl⟩
  | cons cmd cmds ih =>
    rw [matchCommands_cons]
    obtain ⟨o, ho⟩ := hm cmd (List.mem_cons_self _ _)
    rw [ho]
    cases o with
    | none =>
      exact ih (fun c hc => hm c (List.mem_cons_of_mem _ hc)) fun c hc => hs c (List.mem_cons_of_mem _ hc)
    | some _ =>
      obtain ⟨wc, hwc⟩ := hs cmd (List.mem_cons_self _ _)
      obtain ⟨args, ha⟩ := hp wc
      exact ⟨some (cmd :: args), by simp only [hwc, ha, bind, Except.bind, pure, Except.pure]⟩

theorem matchPrefixes_cons (text pre : String) (cmds pres : List String) :
    matchPrefixes py flags username text cmds (pre :: pres) =
      if startswith text pre then
        match matchCommands py flags username (dropChars text pre.length) cmds with
        | .error e => .error e
        | .ok (some r) => .ok (some r)
        | .ok none => matchPrefixes py flags username text cmds pres
      else matchPrefixes py flags username text cmds pres := by
  simp only [matchPrefixes, bind, Except.bind]
  split
  · rcases matchCommands py flags username (dropChars text pre.length) cmds with _ | _ | _ <;> rfl
  · rfl

/-- a text that starts with none of the prefixes is tried with no command pattern -/
theorem matchPrefixes_unprefixed {text : String} {cmds pres : List String}
    (h : ∀ pre ∈ pres, startswith text pre = false) :
    matchPrefixes py flags username text cmds pres = .ok none := by
  induction pres with
  | nil => rfl
  | cons pre pres ih =>
    rw [matchPrefixes_cons, if_neg (by simp [h pre (List.mem_cons_self _ _)])]
    exact ih fun p hp => h p (List.mem_cons_of_mem _ hp)

theorem matchPrefixes_none {text : String} {cmds pres : List String}
    (h : matchPrefixes py flags username text cmds pres = .ok none) :
    ∀ pre ∈ pres, ∀ cmd ∈ cmds, ¬ PairMatches py flags username text pre cmd := by
  induction pres with
  | nil => simp
  | cons pre pres ih =>
    rw [matchPrefixes_cons] at h
    intro p hp c hc hpc
    rcases List.mem_cons.mp hp with rfl | hp
    · obtain ⟨hs, mt, hmt⟩ := hpc
      rw [if_pos hs] at h
      rcases hm : matchCommands py flags username (dropChars text p.length) cmds with
        e | _ | r <;> rw [hm] at h
      · cases h
      · simp [matchCommands_none py flags username hm c hc] at hmt
      · cases h
    · split at h
      · rcases hm : matchCommands py flags username (dropChars text pre.length) cmds with
          e | _ | r <;> rw [hm] at h
        · cases h
        · exact ih h p hp c hc hpc
        · cases h
      · exact ih h p hp c hc hpc

/-- the outer loop accepts with a prefix the text starts with and a command of the inner loop's
kind for what follows the prefix -/
theorem matchPrefixes_accept {text : String} {cmds pres : List String} {r : List String}
    (h : matchPrefixes py flags username text cmds pres = .ok (some r)) :
    ∃ pre ∈ pres, startswith text pre = true ∧
      matchCommands py flags username (dropChars text pre.length) cmds = .ok (some r) := by
  induction pres with
  | nil => simp [matchPrefixes] at h
  | cons pre pres ih =>
    rw [matchPrefixes_cons] at h
    have tail : matchPrefixes py flags username text cmds pres = .ok (some r) →
        ∃ p ∈ pre :: pres, startswith text p = true ∧
          matchCommands py flags username (dropChars text p.length) cmds = .ok (some r) := fun h' => by
      obtain ⟨p, hp, hpc⟩ := ih h'
      exact ⟨p, List.mem_cons_of_mem _ hp, hpc⟩
    split at h
    · rcases hm : matchCommands py flags username (dropChars text pre.length) cmds with
        e | _ | r' <;> rw [hm] at h
      · cases h
      · exact tail h
      · cases h
        exact ⟨pre, List.mem_cons_self _ _, ‹_›, hm⟩
    · exact tail h

/-- the outer loop accepts with a prefix and a command that match, and returns the command
followed by the arguments of what the command's strip leaves after the prefix -/
theorem matchPrefixes_some {text : String} {cmds pres : List String} {r : List String}
    (h : matchPrefixes py flags username text cmds pres = .ok (some r)) :
    ∃ pre ∈ pres, ∃ cmd ∈ cmds, PairMatches py flags username text pre cmd ∧
      ∃ wc args, reSub py (commandStrip username cmd) "" (dropChars text pre.length) 1 flags = .ok wc ∧
        parseArgs py wc = .ok args ∧ r = cmd :: args := by
  obtain ⟨pre, hp, hs, hm⟩ := matchPrefixes_accept py flags username h
  obtain ⟨c, hc, hmt, hargs⟩ := matchCommands_accept py flags username hm
  exact ⟨pre, hp, c, hc, ⟨hs, hmt⟩, hargs⟩

/-- the outer loop returns when every command's two patterns compile -/
theorem matchPrefixes_ok {text : String} {cmds pres : List String}
    (hm : ∀ cmd ∈ cmds, ∀ w, ∃ o, reMatch py (commandPattern username cmd) w flags = .ok o)
    (hs : ∀ cmd ∈ cmds, ∀ w, ∃ wc, reSub py (commandStrip username cmd) "" w 1 flags = .ok wc)
    (hp : ∀ wc, ∃ args, parseArgs py wc = .ok args) :
    ∃ o, matchPrefixes py flags username text cmds pres = .ok o := by
  induction pres with
  | nil => exact ⟨none, rfl⟩
  | cons pre pres ih =>
    rw [matchPrefixes_cons]
    split
    · obtain ⟨o, ho⟩ := @matchCommands_ok py flags username (dropChars text pre.length) cmds
        (fun c hc => hm c hc _) (fun c hc => hs c hc _) hp
      rw [ho]
      cases o with
      | none => exact ih
      | some r => exact ⟨_, rfl⟩
    · exact ih

/-- Two iteration orders that both return agree on whether some pair matched. -/
theorem matchPrefixes_perm {text : String} {cmds cmds' pres pres' : List String}
    (hc : cmds'.Perm cmds) (hp : pres'.Perm pres) {r r' : Option (List String)}
    (h : matchPrefixes py flags username text cmds pres = .ok r)
    (h' : matchPrefixes py flags username text cmds' pres' = .ok r') : r.isSome = r'.isSome := by
  rcases r with _ | r <;> rcases r' with _ | r'
  · rfl
  · obtain ⟨p, hpm, c, hcm, hpc, -⟩ := matchPrefixes_some py flags username h'
    exact absurd hpc (matchPrefixes_none py flags username h p (hp.subset hpm) c (hc.subset hcm))
  · obtain ⟨p, hpm, c, hcm, hpc, -⟩ := matchPrefixes_some py flags username h
    exact absurd hpc (matchPrefixes_none py flags username h' p (hp.symm.subset hpm) c
      (hc.symm.subset hcm))
  · rfl

end Order

/-- `func` on a message: the reset, then the loops when the text is not empty -/
theorem commandFunc_message (py : PyUnicode) (flt : CommandFilter) (client : Client) (m : Message) :
    commandFunc py flt client (.message m) =
      if truthy (pyOr m.text m.caption) then
        match matchPrefixes py flt.flags ((pyOr client.me.username (some "")).getD "")
            ((pyOr m.text m.caption).getD "") flt.commands flt.prefixes with
        | .error e => .error e (.message { m with command := none })
        | .ok none => .ok (.bool false) (.message { m with command := none })
        | .ok (some c) => .ok (.bool true) (.message { m with command := some c })
      else .ok (.bool false) (.message { m with command := none }) := by
  simp only [commandFunc, Update.asMessage, Update.setCommand]
  cases truthy (pyOr m.text m.caption) <;> simp only [Bool.not_true, Bool.not_false] <;> rfl

/-- **Iteration order.** Evaluating the command filter with its prefix and command sets iterated in
any two orders gives results of the same truth value whenever neither evaluation raises, and when
that value is false `message.command` is `None` after both. -/
theorem command_order_truth (py : PyUnicode) (flt : CommandFilter) (cmds pres : List String)
    (hc : cmds.Perm flt.commands) (hp : pres.Perm flt.prefixes) (client : Client) (u : Update)
    (r r' : PyVal) (u₁ u₂ : Update) (h : commandFunc py flt client u = .ok r u₁)
    (h' : commandFunc py { flt with commands := cmds, prefixes := pres } client u = .ok r' u₂) :
    truthy r = truthy r' ∧ (truthy r = false → u₁.command = none ∧ u₂.command = none) := by
  cases u with
  | message m =>
    rw [commandFunc_message] at h h'
    simp only [CommandFilter.flags] at h h'
    generalize hres : matchPrefixes py _ _ _ flt.commands flt.prefixes = res at h
    generalize hres' : matchPrefixes py _ _ _ cmds pres = res' at h'
    by_cases ht : truthy (pyOr m.text m.caption)
    · simp only [ht, if_true] at h h'
      rcases res with e | o
      · cases h
      rcases res' with e' | o'
      · cases h'
      have := matchPrefixes_perm py _ _ hc hp hres hres'
      rcases o with _ | c <;> rcases o' with _ | c' <;> cases h <;> cases h' <;>
        simp_all [Update.command]
    · simp only [ht] at h h'
      cases h; cases h'
      simp [Update.command]
  | _ => simp [commandFunc, Update.asMessage] at h

/-- `command(["a", "b"])` on `/b x`, with the command set iterated as `["b", "a"]`. -/
theorem command_order_truth_swap : ∃ (flt : CommandFilter) (cmds pres : List String) (r r' : PyVal)
    (u₁ u₂ : Update), cmds.Perm flt.commands ∧ pres.Perm flt.prefixes ∧
    commandFunc asciiTables flt ⟨{ id := 1 }⟩ (.message { text := some "/b x" }) = .ok r u₁ ∧
    commandFunc asciiTables { flt with commands := cmds, prefixes := pres } ⟨{ id := 1 }⟩
      (.message { text := some "/b x" }) = .ok r' u₂ ∧
    (truthy r = truthy r' ∧ (truthy r = false → u₁.command = none ∧ u₂.command = none)) :=
  ⟨command asciiTables (.list ["a", "b"]), ["b", "a"], ["/"], .bool true, .bool true,
    .message { text := some "/b x", command := some ["b", "x"] },
    .message { text := some "/b x", command := some ["b", "x"] }, List.Perm.swap _ _ _,
    List.Perm.refl _, rfl, rfl,
    command_order_truth asciiTables (command asciiTables (.list ["a", "b"])) ["b", "a"] ["/"]
      (List.Perm.swap _ _ _) (List.Perm.refl _) ⟨{ id := 1 }⟩ (.message { text := some "/b x" })
      _ _ _ _ rfl rfl⟩

/-- With commands `["a", "a b"]`, case-sensitive, the two iteration orders of the command set give
different annotations to `/a b`. -/
theorem command_order_annotation : ¬ ∃ py : PyUnicode,
    ∀ cmds, cmds.Perm (command py (.list ["a", "a b"]) (some (.str "/")) true).commands →
      commandFunc py { command py (.list ["a", "a b"]) (some (.str "/")) true with commands := cmds }
          ⟨{ id := 1 }⟩ (.message { text := some "/a b" }) =
        commandFunc py (command py (.list ["a", "a b"]) (some (.str "/")) true) ⟨{ id := 1 }⟩
          (.message { text := some "/a b" }) := by
  rintro ⟨py, h⟩
  have e1 : commandFunc py { command py (.list ["a", "a b"]) (some (.str "/")) true with
      commands := ["a b", "a"] } ⟨{ id := 1 }⟩ (.message { text := some "/a b" }) =
      .ok (.bool true) (.message { text := some "/a b", command := some ["a b"] }) := rfl
  have e2 : commandFunc py (command py (.list ["a", "a b"]) (some (.str "/")) true) ⟨{ id := 1 }⟩
      (.message { text := some "/a b" }) =
      .ok (.bool true) (.message { text := some "/a b", command := some ["a", "b"] }) := rfl
  have := h ["a b", "a"] (List.Perm.swap _ _ _)
  rw [e1, e2] at this
  simp at this

/-! ## What the annotation holds -/

/-- **The annotation.** An evaluation of the command filter that returns changes nothing but
`message.command`; it returns `True` exactly when it stores a list there, and that list is one of
the filter's commands followed by the arguments: for a prefix the text starts with and a command
whose pattern matches the text after it, the arguments `parseArgs` reads in what the command's
strip leaves of that text. -/
theorem commandFunc_annotation (py : PyUnicode) (flt : CommandFilter) (client : Client)
    {u u' : Update} {r : PyVal} (h : commandFunc py flt client u = .ok r u') :
    u' = u.setCommand u'.command ∧ truthy r = u'.command.isSome ∧
      ∀ c, u'.command = some c → ∃ m : Message, u = .message m ∧
        ∃ pre ∈ flt.prefixes, ∃ cmd ∈ flt.commands,
          PairMatches py flt.flags ((pyOr client.me.username (some "")).getD "")
            ((pyOr m.text m.caption).getD "") pre cmd ∧
          ∃ wc args, reSub py (commandStrip ((pyOr client.me.username (some "")).getD "") cmd) ""
              (dropChars ((pyOr m.text m.caption).getD "") pre.length) 1 flt.flags = .ok wc ∧
            parseArgs py wc = .ok args ∧ c = cmd :: args := by
  cases u with
  | message m =>
    rw [commandFunc_message] at h
    split at h
    · rcases hp : matchPrefixes py flt.flags _ _ flt.commands flt.prefixes with e | _ | c <;>
        rw [hp] at h <;> cases h
      · exact ⟨rfl, rfl, fun _ h => by cases h⟩
      · exact ⟨rfl, rfl, fun _ hc => by cases hc; exact ⟨m, rfl, matchPrefixes_some py _ _ hp⟩⟩
    · cases h
      exact ⟨rfl, rfl, fun _ h => by cases h⟩
  | _ => simp [commandFunc, Update.asMessage] at h

/-- `command(["a", "b"])` on `/b x` -/
theorem commandFunc_annotation_b : ∃ (r : PyVal) (u' : Update),
    commandFunc asciiTables (command asciiTables (.list ["a", "b"])) ⟨{ id := 1 }⟩
      (.message { text := some "/b x" }) = .ok r u' ∧
    u' = (Update.message { text := some "/b x" }).setCommand u'.command ∧
      truthy r = u'.command.isSome ∧
      ∀ c, u'.command = some c → ∃ m : Message, Update.message { text := some "/b x" } = .message m ∧
        ∃ pre ∈ (command asciiTables (.list ["a", "b"])).prefixes,
          ∃ cmd ∈ (command asciiTables (.list ["a", "b"])).commands,
            PairMatches asciiTables (command asciiTables (.list ["a", "b"])).flags
              ((pyOr (User.username { id := 1 }) (some "")).getD "")
              ((pyOr m.text m.caption).getD "") pre cmd ∧
            ∃ wc args, reSub asciiTables
                (commandStrip ((pyOr (User.username { id := 1 }) (some "")).getD "") cmd) ""
                (dropChars ((pyOr m.text m.caption).getD "") pre.length) 1
                (command asciiTables (.list ["a", "b"])).flags = .ok wc ∧
              parseArgs asciiTables wc = .ok args ∧ c = cmd :: args :=
  ⟨_, _, rfl, commandFunc_annotation asciiTables _ _ rfl⟩

/-- **No prefix, no command.** On a message whose text (or caption) starts with none of the
filter's prefixes, the filter returns `False` and leaves `message.command` at `None`. -/
theorem command_without_prefix (py : PyUnicode) (flt : CommandFilter) (client : Client)
    (m : Message) (h : ∀ pre ∈ flt.prefixes, startswith ((pyOr m.text m.caption).getD "") pre = false) :
    commandFunc py flt client (.message m) =
      .ok (.bool false) (.message { m with command := none }) := by
  rw [commandFunc_message, matchPrefixes_unprefixed py _ _ h]
  split <;> rfl

/-- `command("go", prefixes="!")` on `/go` -/
theorem command_without_prefix_go :
    (∀ pre ∈ (command asciiTables (.str "go") (some (.str "!"))).prefixes,
      startswith ((pyOr (some "/go") none).getD "") pre = false) ∧
    commandFunc asciiTables (command asciiTables (.str "go") (some (.str "!"))) ⟨{ id := 1 }⟩
        (.message { text := some "/go" }) =
      .ok (.bool false) (.message { text := some "/go", command := none }) :=
  have h : ∀ pre ∈ (command asciiTables (.str "go") (some (.str "!"))).prefixes,
      startswith ((pyOr (some "/go") none).getD "") pre = false := by decide
  ⟨h, command_without_prefix asciiTables _ _ { text := some "/go" } h⟩

end Hydrogram
