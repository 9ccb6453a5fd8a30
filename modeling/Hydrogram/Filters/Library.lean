/-
Trees of the library's own filters, and what evaluating one does to the update.

`LibFilter` is a leaf of such a tree: one of the filters `filters.py` creates as module attributes,
a `command`, a `regex`, a `user` or a `chat` filter. `evalLib` is the combinators' `call` over their
own `__call__`. Two annotations are written: `command` by the command filter, which resets it first,
and `matches` by the regex filter, when its text is not empty. No filter reads `command`, and only
the regex filter reads `matches`, when its text is empty and it therefore writes nothing.

So a leaf is a function of the update with those annotations erased (`erase`): its result, and the
annotations it writes (`Write`). `LibFilter.den` is that function, `run_den` says the leaf is it.
A whole tree is then a function of the erased update too (`evalLib_den`), in the state monad over
writes: the writes of the leaves it invokes, in order, the later one winning. A tree without
`command` and `regex` leaves writes nothing at all (`evalLib_reading`).

Results:
- `evalLib_erase`: evaluating a tree changes nothing but the two annotations.
- `evalLib_twice`: evaluating a tree on the update its first evaluation left gives the same result
  and leaves the same update: equal values, the same exception, the same annotations.
- `tree_wipes_command`: `command("a") & ~command("b")` accepts `/a` and leaves `command` at `None`.
- `annotation_last_invoked`: after an evaluation that returns, `command` and `matches` hold what
  the command, resp. regex, occurrence invoked last writes, or their prior values when none was.
-/
import Hydrogram.Filters.Combinators
import Hydrogram.Filters.Attribute
import Hydrogram.Filters.Command
import Hydrogram.Filters.Regex
import Hydrogram.Filters.Membership

namespace Hydrogram

open Re (Match)

/-! ## The library's filters -/

/-- the filters `filters.py` creates once, as module attributes -/
inductive Attr where
  | all | me | bot | incoming | outgoing | text | reply | forwarded | caption | audio | document
  | photo | sticker | animation | game | video | mediaGroup | voice | videoNote | contact
  | location | venue | webPage | poll | dice | mediaSpoiler | «private» | group | channel
  | newChatMembers | leftChatMember | newChatTitle | newChatPhoto | deleteChatPhoto
  | groupChatCreated | supergroupChatCreated | channelChatCreated | migrateToChatId
  | migrateFromChatId | pinnedMessage | gameHighScore | replyKeyboard | inlineKeyboard
  | mentioned | viaBot | videoChatStarted | videoChatEnded | videoChatMembersInvited | service
  | media | scheduled | fromScheduled | linkedChannel
  deriving DecidableEq, Repr

/-- the function each one is created from -/
def Attr.func : Attr → Update → Except PyError Bool
  | .all => allFilter
  | .me => meFilter
  | .bot => botFilter
  | .incoming => incomingFilter
  | .outgoing => outgoingFilter
  | .text => textFilter
  | .reply => replyFilter
  | .forwarded => forwardedFilter
  | .caption => captionFilter
  | .audio => audioFilter
  | .document => documentFilter
  | .photo => photoFilter
  | .sticker => stickerFilter
  | .animation => animationFilter
  | .game => gameFilter
  | .video => videoFilter
  | .mediaGroup => mediaGroupFilter
  | .voice => voiceFilter
  | .videoNote => videoNoteFilter
  | .contact => contactFilter
  | .location => locationFilter
  | .venue => venueFilter
  | .webPage => webPageFilter
  | .poll => pollFilter
  | .dice => diceFilter
  | .mediaSpoiler => mediaSpoilerFilter
  | .«private» => privateFilter
  | .group => groupFilter
  | .channel => channelFilter
  | .newChatMembers => newChatMembersFilter
  | .leftChatMember => leftChatMemberFilter
  | .newChatTitle => newChatTitleFilter
  | .newChatPhoto => newChatPhotoFilter
  | .deleteChatPhoto => deleteChatPhotoFilter
  | .groupChatCreated => groupChatCreatedFilter
  | .supergroupChatCreated => supergroupChatCreatedFilter
  | .channelChatCreated => channelChatCreatedFilter
  | .migrateToChatId => migrateToChatIdFilter
  | .migrateFromChatId => migrateFromChatIdFilter
  | .pinnedMessage => pinnedMessageFilter
  | .gameHighScore => gameHighScoreFilter
  | .replyKeyboard => replyKeyboardFilter
  | .inlineKeyboard => inlineKeyboardFilter
  | .mentioned => mentionedFilter
  | .viaBot => viaBotFilter
  | .videoChatStarted => videoChatStartedFilter
  | .videoChatEnded => videoChatEndedFilter
  | .videoChatMembersInvited => videoChatMembersInvitedFilter
  | .service => serviceFilter
  | .media => mediaFilter
  | .scheduled => scheduledFilter
  | .fromScheduled => fromScheduledFilter
  | .linkedChannel => linkedChannelFilter

theorem Attr.func_setCommand (a : Attr) (u : Update) (c : Option (List String)) :
    a.func (u.setCommand c) = a.func u := by
  cases a <;> cases u <;> rfl

theorem Attr.func_setMatches (a : Attr) (u : Update) (v : Option (List Match)) :
    a.func (u.setMatches v) = a.func u := by
  cases a <;> cases u <;> rfl

/-- a leaf of a tree of library filters -/
inductive LibFilter where
  | attr (a : Attr)
  | command (flt : CommandFilter)
  | regex (flt : RegexFilter)
  | user (s : List Ident)
  | chat (s : List Ident)

/-- `user` and `chat` define `async def __call__`; the others are created from plain functions -/
def LibFilter.mode : LibFilter → Mode
  | .user _ | .chat _ => .async
  | _ => .sync

/-- a filter that only reads the update -/
def reading (f : Update → Except PyError PyVal) : EStateM PyError Update PyVal := fun u =>
  match f u with
  | .ok v => .ok v u
  | .error e => .error e u

/-- a leaf's `__call__` -/
def LibFilter.run (py : PyUnicode) (client : Client) : LibFilter → EStateM PyError Update PyVal
  | .attr a => reading fun u => (a.func u).map .bool
  | .command flt => commandFunc py flt client
  | .regex flt => regexFunc py flt
  | .user s => reading (userCall py s)
  | .chat s => reading (chatCall py s)

/-- `__call__` of a tree of library filters -/
def evalLib (py : PyUnicode) (client : Client) : Filter LibFilter → EStateM PyError Update PyVal :=
  call LibFilter.mode (LibFilter.run py client)

/-! ## Erased updates and writes -/

/-- the update as the decisions see it: `command` is never read, `matches` only when the regex
filter's text is empty -/
def erase (u : Update) : Update :=
  if u.selects then (u.setCommand none).setMatches none else u.setCommand none

/-- the annotations a run writes: `some v` for a field set to `v` -/
structure Write where
  command : Option (Option (List String)) := none
  «matches» : Option (Option (List Match)) := none

/-- write the annotations; `matches` only where the regex filter would -/
def Write.apply (w : Write) (u : Update) : Update :=
  let u := match w.command with
    | some c => u.setCommand c
    | none => u
  match w.«matches» with
  | some v => if u.selects then u.setMatches v else u
  | none => u

/-- `w` then `w'`: a field `w'` writes takes its value -/
def Write.then (w w' : Write) : Write := ⟨w'.command.or w.command, w'.«matches».or w.«matches»⟩

@[simp] theorem Write.selects_apply (w : Write) (u : Update) : (w.apply u).selects = u.selects := by
  rcases w with ⟨_ | c, _ | v⟩ <;> by_cases hs : u.selects <;> simp [Write.apply, hs]

@[simp] theorem erase_apply (w : Write) (u : Update) : erase (w.apply u) = erase u := by
  unfold erase Write.apply
  rcases w with ⟨_ | c, _ | v⟩ <;> by_cases hs : u.selects <;>
    simp [hs, Update.setCommand_setMatches]

@[simp] theorem Write.apply_empty (u : Update) : ({} : Write).apply u = u := rfl

theorem Write.apply_then (w w' : Write) (u : Update) :
    (w.then w').apply u = w'.apply (w.apply u) := by
  unfold Write.apply Write.then
  rcases w with ⟨_ | c, _ | v⟩ <;> rcases w' with ⟨_ | c', _ | v'⟩ <;> by_cases hs : u.selects <;>
    simp [hs, Update.setCommand_setMatches]

@[simp] theorem Write.apply_apply (w : Write) (u : Update) : w.apply (w.apply u) = w.apply u := by
  rw [← apply_then]
  rcases w with ⟨_ | c, _ | v⟩ <;> rfl

/-! ## Leaves are functions of the erased update -/

/-- an outcome over writes, realized on an update -/
def realize {β : Type} : EStateM.Result PyError Write β → Update → EStateM.Result PyError Update β
  | .ok b w, u => .ok b (w.apply u)
  | .error e w, u => .error e (w.apply u)

/-- the state an evaluation leaves -/
def stateOf {σ β : Type} : EStateM.Result PyError σ β → σ
  | .ok _ s | .error _ s => s

/-- the annotation a leaf is responsible for, as it left it -/
def LibFilter.written : LibFilter → Update → Write
  | .command _, v => { command := some v.command }
  | .regex _, v => { «matches» := some v.«matches» }
  | _, _ => {}

/-- a leaf's outcome, as a result and the annotation it writes -/
def LibFilter.den (py : PyUnicode) (client : Client) (l : LibFilter) (v : Update) :
    EStateM.Result PyError Write PyVal :=
  match l.run py client v with
  | .ok x v' => .ok x (l.written v')
  | .error e v' => .error e (l.written v')

theorem reading_erase (f : Update → Except PyError PyVal) (u : Update)
    (hc : ∀ u c, f (u.setCommand c) = f u) (hm : ∀ u v, f (u.setMatches v) = f u) :
    reading f u = match reading f (erase u) with
      | .ok x _ => .ok x u
      | .error e _ => .error e u := by
  have : f (erase u) = f u := by unfold erase; split <;> simp [hc, hm]
  simp only [reading, this]
  split <;> rfl

theorem erase_message (m : Message) : ∃ v, erase (.message m) =
    .message { m with command := none, «matches» := v } := by
  unfold erase
  split
  · exact ⟨none, rfl⟩
  · exact ⟨m.«matches», rfl⟩

theorem commandFunc_den (py : PyUnicode) (flt : CommandFilter) (client : Client) (u : Update) :
    commandFunc py flt client u = realize ((LibFilter.command flt).den py client (erase u)) u := by
  cases u with
  | message m =>
    obtain ⟨v, hv⟩ := erase_message m
    simp only [LibFilter.den, LibFilter.run, hv, commandFunc_message]
    split
    · split <;> rfl
    · rfl
  | _ => unfold erase; split <;> rfl

theorem regexFunc_den (py : PyUnicode) (client : Client) (flt : RegexFilter) (u : Update) :
    regexFunc py flt u = realize ((LibFilter.regex flt).den py client (erase u)) u := by
  have hv : regexValue (erase u) = regexValue u := by unfold erase; split <;> simp
  simp only [LibFilter.den, LibFilter.run]
  unfold regexFunc
  rw [hv]
  rcases h : regexValue u with e | value
  · simp [realize, LibFilter.written, Write.apply, Update.selects, h]
  · have hu := regexValue_ok h
    by_cases ht : truthy value
    · have he : erase u = (u.setCommand none).setMatches none := by
        simp [erase, Update.selects, h, ht]
      cases u <;> simp_all [realize, LibFilter.written, Write.apply, Update.selects,
        Update.setMatches, Update.setCommand, Update.«matches»]
    · have he : erase u = u.setCommand none := by simp [erase, Update.selects, h, ht]
      cases u <;> simp_all [realize, LibFilter.written, Write.apply, Update.selects,
        Update.setMatches, Update.setCommand, Update.«matches»]

theorem userCall_setCommand (py : PyUnicode) (s : List Ident) (u : Update) (c : Option (List String)) :
    userCall py s (u.setCommand c) = userCall py s u := by
  cases u <;> rfl

theorem userCall_setMatches (py : PyUnicode) (s : List Ident) (u : Update) (v : Option (List Match)) :
    userCall py s (u.setMatches v) = userCall py s u := by
  cases u <;> rfl

theorem chatCall_setCommand (py : PyUnicode) (s : List Ident) (u : Update) (c : Option (List String)) :
    chatCall py s (u.setCommand c) = chatCall py s u := by
  cases u <;> rfl

theorem chatCall_setMatches (py : PyUnicode) (s : List Ident) (u : Update) (v : Option (List Match)) :
    chatCall py s (u.setMatches v) = chatCall py s u := by
  cases u <;> rfl

theorem reading_den (py : PyUnicode) (client : Client) (l : LibFilter) (f : Update → Except PyError PyVal)
    (hl : l.run py client = reading f) (hw : ∀ v, l.written v = {})
    (hc : ∀ u c, f (u.setCommand c) = f u) (hm : ∀ u v, f (u.setMatches v) = f u) (u : Update) :
    l.run py client u = realize (l.den py client (erase u)) u := by
  simp only [LibFilter.den, hl, reading_erase f u hc hm]
  split <;> simp [realize, hw]

/-- **Leaves read the erased update.** A library filter's result is its result on the erased
update, and the update it leaves is the annotation it writes there, written on the update. -/
theorem run_den (py : PyUnicode) (client : Client) (l : LibFilter) (u : Update) :
    l.run py client u = realize (l.den py client (erase u)) u := by
  cases l with
  | attr a =>
    exact reading_den py client (.attr a) _ rfl (fun _ => rfl)
      (fun u c => congrArg (Except.map _) (a.func_setCommand u c))
      (fun u v => congrArg (Except.map _) (a.func_setMatches u v)) u
  | command flt => exact commandFunc_den py flt client u
  | regex flt => exact regexFunc_den py client flt u
  | user s =>
    exact reading_den py client (.user s) _ rfl (fun _ => rfl) (userCall_setCommand py s)
      (userCall_setMatches py s) u
  | chat s =>
    exact reading_den py client (.chat s) _ rfl (fun _ => rfl) (chatCall_setCommand py s)
      (chatCall_setMatches py s) u

/-! ## Trees read the erased update -/

/-- an outcome over writes, run after the writes `w` -/
def after {β : Type} : EStateM.Result PyError Write β → Write → EStateM.Result PyError Write β
  | .ok b w', w => .ok b (w.then w')
  | .error e w', w => .error e (w.then w')

theorem realize_after {β : Type} (r : EStateM.Result PyError Write β) (w : Write) (u : Update) :
    realize (after r w) u = realize r (w.apply u) := by
  cases r <;> simp [after, realize, Write.apply_then]

section Sim

variable (u : Update) {β γ : Type}

/-- `f`, run on the update `w` writes on `u`, is `g` run from the writes `w` -/
def Sim (f : EStateM PyError Update β) (g : EStateM PyError Write β) : Prop :=
  ∀ w, f (w.apply u) = realize (g w) u

theorem sim_pure (b : β) : Sim u (pure b) (pure b) := fun _ => rfl

theorem sim_bind {x : EStateM PyError Update β} {g : EStateM PyError Write β}
    {k : β → EStateM PyError Update γ} {h : β → EStateM PyError Write γ}
    (hx : Sim u x g) (hk : ∀ b, Sim u (k b) (h b)) : Sim u (x >>= k) (g >>= h) := by
  intro w
  show EStateM.bind x k (w.apply u) = realize (EStateM.bind g h w) u
  simp only [EStateM.bind, hx w]
  cases g w with
  | ok b w' => exact hk b w'
  | error e w' => rfl

theorem sim_ite (c : Bool) {f f' : EStateM PyError Update β} {g g' : EStateM PyError Write β}
    (h : Sim u f g) (h' : Sim u f' g') :
    Sim u (if c then f else f') (if c then g else g') := by
  cases c <;> simpa

theorem sim_call {α : Type} (mode : α → Mode) (run : α → EStateM PyError Update PyVal)
    (den : α → EStateM PyError Write PyVal) (h : ∀ l, Sim u (run l) (den l)) (t : Filter α) :
    Sim u (call mode run t) (call mode den t) := by
  induction t with
  | leaf l => exact h l
  | invert base ih =>
    simp only [call, dispatch_eq]
    exact sim_bind u ih fun _ => sim_pure u _
  | and base other ihb iho =>
    simp only [call, dispatch_eq]
    exact sim_bind u ihb fun _ => sim_ite u _ (sim_pure u _)
      (sim_bind u (sim_pure u _) fun _ => sim_bind u iho fun _ => sim_pure u _)
  | or base other ihb iho =>
    simp only [call, dispatch_eq]
    exact sim_bind u ihb fun _ => sim_ite u _ (sim_pure u _)
      (sim_bind u (sim_pure u _) fun _ => sim_bind u iho fun _ => sim_pure u _)

end Sim

/-- leaves of fixed outcomes, each run after the writes before it -/
def fixedLeaves {α : Type} (r : α → EStateM.Result PyError Write PyVal) (l : α) :
    EStateM PyError Write PyVal :=
  after (r l)

/-- a tree's outcome over the writes of the leaves it invokes, each read off the erased update -/
def denTree (py : PyUnicode) (client : Client) (v : Update) :
    Filter LibFilter → EStateM PyError Write PyVal :=
  call LibFilter.mode (fixedLeaves fun l => l.den py client v)

theorem evalLib_den (py : PyUnicode) (client : Client) (t : Filter LibFilter) (u : Update)
    (w : Write) : evalLib py client t (w.apply u) = realize (denTree py client (erase u) t w) u :=
  sim_call u _ _ _ (fun l w => by rw [run_den, erase_apply, fixedLeaves, realize_after]) t w

theorem evalLib_eq (py : PyUnicode) (client : Client) (t : Filter LibFilter) (u : Update) :
    evalLib py client t u = realize (denTree py client (erase u) t {}) u :=
  evalLib_den py client t u {}

/-- **Evaluating twice.** Evaluating a tree of library filters on the update its first
evaluation left gives the same result and leaves the same update: the same value or the same
exception, and the same `command` and `matches`. -/
theorem evalLib_twice (py : PyUnicode) (client : Client) (t : Filter LibFilter) (u : Update) :
    evalLib py client t (stateOf (evalLib py client t u)) = evalLib py client t u := by
  rw [evalLib_eq py client t u]
  rcases hd : denTree py client (erase u) t {} with ⟨b, w⟩ | ⟨e, w⟩ <;>
    simp [realize, stateOf, evalLib_eq py client t (w.apply u), hd]

/-! ## What a tree changes -/

theorem stateOf_bind {σ β γ : Type} {x : EStateM PyError σ β} {f : β → EStateM PyError σ γ}
    (hx : ∀ s, stateOf (x s) = s) (hf : ∀ b s, stateOf (f b s) = s) (s : σ) :
    stateOf ((x >>= f) s) = s := by
  show stateOf (EStateM.bind x f s) = s
  have := hx s
  unfold EStateM.bind
  cases h : x s with
  | ok b s' => rw [h] at this; cases this; exact hf b _
  | error e s' => rw [h] at this; exact this

/-- a tree whose leaves leave the state as it is does too, whether it returns or raises -/
theorem call_keeps {σ α V : Type} [PyValue V] (mode : α → Mode) (run : α → EStateM PyError σ V)
    (t : Filter α) (h : ∀ l ∈ t.leaves, ∀ s, stateOf (run l s) = s) (s : σ) :
    stateOf (call mode run t s) = s := by
  induction t generalizing s with
  | leaf l => exact h l (List.mem_singleton_self l) s
  | invert base ih =>
    simp only [call, dispatch_eq]
    exact stateOf_bind (ih h) (fun _ _ => by rfl) s
  | and base other ihb iho | or base other ihb iho =>
    have h₂ := iho fun l hl => h l (List.mem_append_right _ hl)
    simp only [call, dispatch_eq]
    refine stateOf_bind (ihb fun l hl => h l (List.mem_append_left _ hl)) (fun x s => ?_) s
    split
    · rfl
    · exact stateOf_bind h₂ (fun _ _ => by rfl) s

/-- a tree with no `command` and no `regex` leaf leaves the update exactly as it was, whether it
returns or raises: the attribute and membership filters only read -/
theorem evalLib_reading (py : PyUnicode) (client : Client) (t : Filter LibFilter)
    (hc : ∀ flt, .command flt ∉ t.leaves) (hr : ∀ flt, .regex flt ∉ t.leaves) (u : Update) :
    stateOf (evalLib py client t u) = u := by
  refine call_keeps _ _ t (fun l hl v => ?_) u
  cases l with
  | command flt => exact absurd hl (hc flt)
  | regex flt => exact absurd hl (hr flt)
  | attr a => simp only [LibFilter.run, reading]; split <;> rfl
  | user s => simp only [LibFilter.run, reading]; split <;> rfl
  | chat s => simp only [LibFilter.run, reading]; split <;> rfl

/-- **Only the annotations change.** Evaluating any tree changes nothing of the update but
`command`, and `matches` when the regex filter's text is not empty: the update it leaves, erased,
is the update it was given, erased. -/
theorem evalLib_erase (py : PyUnicode) (client : Client) (t : Filter LibFilter) (u : Update) :
    erase (stateOf (evalLib py client t u)) = erase u := by
  rw [evalLib_eq]
  cases denTree py client (erase u) t {} <;> simp [realize, stateOf]

/-! ## Which annotation survives -/

/-- `command("a", case_sensitive=True) & ~command("b", case_sensitive=True)` on `/a`: the first
occurrence matches and writes `["a"]`, the second resets `command` and does not match, so the tree
is true and `command` is `None`. -/
theorem tree_wipes_command : ¬ ∃ py : PyUnicode, ∀ v u',
    evalLib py ⟨{ id := 1 }⟩
        (.and (.leaf (.command (command py (.str "a") (some (.str "/")) true)))
          (.invert (.leaf (.command (command py (.str "b") (some (.str "/")) true)))))
        (.message { text := some "/a" }) = .ok v u' → truthy v = true →
    (∃ u₁, commandFunc py (command py (.str "a") (some (.str "/")) true) ⟨{ id := 1 }⟩
        (.message { text := some "/a" }) = .ok (.bool true) u₁) →
    u'.command ≠ none := by
  rintro ⟨py, h⟩
  exact h (.bool true) (.message { text := some "/a" }) rfl rfl ⟨_, rfl⟩ rfl

theorem bind_eq_ok {ε σ α β : Type} {x : EStateM ε σ α} {f : α → EStateM ε σ β} {s s' : σ}
    {b : β} (h : (x >>= f) s = .ok b s') : ∃ a s₁, x s = .ok a s₁ ∧ f a s₁ = .ok b s' := by
  change EStateM.bind x f s = _ at h
  unfold EStateM.bind at h
  cases hx : x s with
  | ok a s₁ => rw [hx] at h; exact ⟨a, s₁, rfl, h⟩
  | error e s₁ => rw [hx] at h; cases h

/-- the truth value of an outcome, false for an exception -/
def okTruth {σ : Type} : EStateM.Result PyError σ PyVal → Bool
  | .ok x _ => truthy x
  | .error _ _ => false

/-- A tree over leaves with fixed outcomes that returns has invoked the leaves `visited` lists,
in that order, and its writes are theirs, in that order. -/
theorem call_after_ok {α : Type} (mode : α → Mode) (r : α → EStateM.Result PyError Write PyVal)
    (t : Filter α) {w w' : Write} {b : PyVal}
    (h : call mode (fixedLeaves r) t w = .ok b w') :
    truthy b = (visited (fun l => okTruth (r l)) t).2 ∧
      w' = (visited (fun l => okTruth (r l)) t).1.foldl (fun w l => w.then (stateOf (r l))) w := by
  induction t generalizing w w' b with
  | leaf l =>
    simp only [call, fixedLeaves] at h
    cases hr : r l <;> rw [hr] at h <;> cases h
    exact ⟨by simp [visited, okTruth, hr], by simp [visited, stateOf, hr]⟩
  | invert base ih =>
    simp only [call, dispatch_eq] at h
    obtain ⟨x, w₁, hb, hk⟩ := bind_eq_ok h
    cases hk
    obtain ⟨hx, rfl⟩ := ih hb
    simp [visited, hx]
  | and base other ihb iho =>
    simp only [call, dispatch_eq] at h
    obtain ⟨x, w₁, hb, hk⟩ := bind_eq_ok h
    obtain ⟨hx, rfl⟩ := ihb hb
    cases htx : truthy x
    · simp only [htx, Bool.not_false, if_true] at hk
      cases hk
      simp [visited, ← hx, htx]
    · simp only [htx, Bool.not_true, Bool.false_eq_true, if_false, pure_bind] at hk
      obtain ⟨y, w₂, ho, hk⟩ := bind_eq_ok hk
      cases hk
      obtain ⟨hy, rfl⟩ := iho ho
      simp [visited, ← hx, htx, hy]
  | or base other ihb iho =>
    simp only [call, dispatch_eq] at h
    obtain ⟨x, w₁, hb, hk⟩ := bind_eq_ok h
    obtain ⟨hx, rfl⟩ := ihb hb
    cases htx : truthy x
    · simp only [htx, Bool.false_eq_true, if_false, pure_bind] at hk
      obtain ⟨y, w₂, ho, hk⟩ := bind_eq_ok hk
      cases hk
      obtain ⟨hy, rfl⟩ := iho ho
      simp [visited, ← hx, htx, hy]
    · simp only [htx, if_true] at hk
      cases hk
      simp [visited, ← hx, htx]

/-- a field of the writes of a sequence is the last write to it -/
theorem foldl_then_last {α β : Type} (p : Write → Option β)
    (hp : ∀ w w', p (w.then w') = (p w').or (p w)) (f : α → Write) (ls : List α) (w : Write) :
    p (ls.foldl (fun w l => w.then (f l)) w) = ((ls.filterMap fun l => p (f l)).getLast?).or (p w) := by
  induction ls generalizing w with
  | nil => simp
  | cons a as ih =>
    rw [List.foldl_cons, ih, hp]
    cases hf : p (f a) with
    | none => simp [hf]
    | some c =>
      simp only [List.filterMap_cons, hf, List.getLast?_cons, Option.or_some]
      cases (as.filterMap fun l => p (f l)).getLast? <;> rfl

theorem Write.command_apply (w : Write) (u : Update) :
    (w.apply u).command = (w.command.map fun c => (u.setCommand c).command).getD u.command := by
  rcases w with ⟨_ | c, _ | v⟩ <;> by_cases hs : u.selects <;> simp [Write.apply, hs]

theorem Write.matches_apply (w : Write) (u : Update) :
    (w.apply u).«matches» =
      (w.«matches».map fun v => (({ «matches» := some v } : Write).apply u).«matches»).getD
        u.«matches» := by
  rcases w with ⟨_ | c, _ | v⟩ <;> by_cases hs : u.selects <;>
    simp [Write.apply, hs, ← Update.setCommand_setMatches]

/-- what `command` is after a leaf runs alone on `u`: `some` for a command filter -/
def LibFilter.commandLeft (py : PyUnicode) (client : Client) (u : Update) :
    LibFilter → Option (Option (List String))
  | .command flt => some (stateOf (commandFunc py flt client u)).command
  | _ => none

/-- what `matches` is after a leaf runs alone on `u`: `some` for a regex filter -/
def LibFilter.matchesLeft (py : PyUnicode) (u : Update) : LibFilter → Option (Option (List Match))
  | .regex flt => some (stateOf (regexFunc py flt u)).«matches»
  | _ => none

/-- the truth value a leaf returns on `u`, false when it raises -/
def LibFilter.truth (py : PyUnicode) (client : Client) (u : Update) (l : LibFilter) : Bool :=
  okTruth (l.run py client u)

theorem stateOf_realize {β : Type} (r : EStateM.Result PyError Write β) (u : Update) :
    stateOf (realize r u) = (stateOf r).apply u := by
  cases r <;> rfl

theorem okTruth_realize (r : EStateM.Result PyError Write PyVal) (u : Update) :
    okTruth (realize r u) = okTruth r := by
  cases r <;> rfl

theorem stateOf_den (py : PyUnicode) (client : Client) (l : LibFilter) (v : Update) :
    stateOf (l.den py client v) = l.written (stateOf (l.run py client v)) := by
  cases h : l.run py client v <;> simp [LibFilter.den, h, stateOf]

/-- the command annotation a leaf writes, on `u`, is the one it leaves when run alone on `u` -/
theorem commandLeft_den (py : PyUnicode) (client : Client) (u : Update) (l : LibFilter) :
    (stateOf (l.den py client (erase u))).command.map (fun c => (u.setCommand c).command) =
      l.commandLeft py client u := by
  cases l with
  | command flt =>
    simp [LibFilter.commandLeft, commandFunc_den py flt client u, stateOf_realize, stateOf_den,
      LibFilter.written, Write.apply]
  | _ => simp [LibFilter.commandLeft, stateOf_den, LibFilter.written]

theorem matchesLeft_den (py : PyUnicode) (client : Client) (u : Update) (l : LibFilter) :
    (stateOf (l.den py client (erase u))).«matches».map
        (fun v => (({ «matches» := some v } : Write).apply u).«matches») =
      l.matchesLeft py u := by
  cases l with
  | regex flt =>
    simp [LibFilter.matchesLeft, regexFunc_den py client flt u, stateOf_realize, stateOf_den,
      LibFilter.written, Write.apply]
  | _ => simp [LibFilter.matchesLeft, stateOf_den, LibFilter.written]

/-- **The last writer wins.** After an evaluation of a tree that returns, `command` is what the
command occurrence invoked last leaves when run alone on the update (a list when it matched, `None`
when it did not), or its prior value when no command occurrence was invoked; `matches` is what the
regex occurrence invoked last leaves, or its prior value. The occurrences invoked are those
`visited` lists for the truth values the leaves return on the update. -/
theorem annotation_last_invoked (py : PyUnicode) (client : Client) (t : Filter LibFilter)
    (u u' : Update) (v : PyVal) (h : evalLib py client t u = .ok v u') :
    u'.command = (((visited (LibFilter.truth py client u) t).1.filterMap
        (LibFilter.commandLeft py client u)).getLast?).getD u.command ∧
      u'.«matches» = (((visited (LibFilter.truth py client u) t).1.filterMap
        (LibFilter.matchesLeft py u)).getLast?).getD u.«matches» := by
  have htruth : LibFilter.truth py client u = fun l => okTruth (l.den py client (erase u)) := by
    funext l; rw [LibFilter.truth, run_den, okTruth_realize]
  rw [evalLib_eq] at h
  rcases hd : denTree py client (erase u) t {} with ⟨b, W⟩ | ⟨e, W⟩ <;> rw [hd] at h <;>
    cases h
  obtain ⟨-, hW⟩ := call_after_ok LibFilter.mode _ t hd
  rw [htruth, Write.command_apply, Write.matches_apply, hW,
    foldl_then_last Write.command (fun _ _ => rfl), foldl_then_last Write.«matches» (fun _ _ => rfl)]
  simp only [Option.or_none, ← List.getLast?_map, List.map_filterMap, commandLeft_den,
    matchesLeft_den, and_self]

/-- `command("a") & ~command("b")` on `/a`: the occurrence invoked last is `command("b")`, which
leaves `None`. -/
theorem annotation_last_invoked_wiped :
    ∃ v u', evalLib asciiTables ⟨{ id := 1 }⟩
        (.and (.leaf (.command (command asciiTables (.str "a"))))
          (.invert (.leaf (.command (command asciiTables (.str "b")))))) (.message { text := some "/a" }) =
        .ok v u' ∧
      (u'.command = (((visited (LibFilter.truth asciiTables ⟨{ id := 1 }⟩ (.message { text := some "/a" }))
          (.and (.leaf (.command (command asciiTables (.str "a"))))
            (.invert (.leaf (.command (command asciiTables (.str "b"))))))).1.filterMap
          (LibFilter.commandLeft asciiTables ⟨{ id := 1 }⟩ (.message { text := some "/a" }))).getLast?).getD
          none ∧
        u'.«matches» = (((visited (LibFilter.truth asciiTables ⟨{ id := 1 }⟩ (.message { text := some "/a" }))
          (.and (.leaf (.command (command asciiTables (.str "a"))))
            (.invert (.leaf (.command (command asciiTables (.str "b"))))))).1.filterMap
          (LibFilter.matchesLeft asciiTables (.message { text := some "/a" }))).getLast?).getD none) :=
  ⟨_, _, rfl, annotation_last_invoked asciiTables ⟨{ id := 1 }⟩ _ _ _ _ rfl⟩

end Hydrogram
