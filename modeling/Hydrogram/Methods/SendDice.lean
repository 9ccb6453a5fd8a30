/-
`send_dice`: one `SendMedia` request, and the message found in its reply.

`send_dice` fills a `messages.SendMedia` request with an `InputMediaDice` of the emoji, sends it
with `invoke`, and returns the first message the reply announces: the first update that is an
`UpdateNewMessage`, an `UpdateNewChannelMessage` or an `UpdateNewScheduledMessage`, parsed by
`Message._parse` with the reply's users and chats by id, `is_scheduled` set for the last kind;
`None` when no update is one of those. What it calls outside this repository (`resolve_peer`,
`rnd_id`, `utils.get_reply_head_fm`, `utils.datetime_to_timestamp`, the markup's `write`,
`Message._parse`, and the server behind `invoke`) is a parameter.

Results:
- `sendDice_silent`: the request's `silent` is `True` when `disable_notification` is, and `None`
  otherwise: never `False`.
- `dictOf_eq_find`: `{i.id: i for i in xs}` maps an id to the last element of `xs` with that id.
- `sendDice_result`: for every server, `send_dice` returns the parse of the first update of the
  reply that announces a message, with each id mapped to the reply's last user and chat of that
  id, or `None` when no update announces one.
-/
import Hydrogram.Python

namespace Hydrogram

/-! ## The request -/

/-- `chat_id`: an id, or a username or phone number -/
inductive ChatRef where
  | id (n : Int)
  | name (s : String)
  deriving DecidableEq, Repr

/-- the arguments of `send_dice`, with their defaults -/
structure SendDiceArgs (Date Markup : Type) where
  chatId : ChatRef
  emoji : String := "🎲"
  messageThreadId : Option Int := none
  disableNotification : Option Bool := none
  replyToMessageId : Option Int := none
  scheduleDate : Option Date := none
  protectContent : Option Bool := none
  replyMarkup : Option Markup := none

/-- `raw.functions.messages.SendMedia` as `send_dice` fills it -/
structure SendMedia (Peer Reply Written : Type) where
  peer : Peer
  /-- the emoticon of `raw.types.InputMediaDice` -/
  emoticon : String
  silent : Option Bool
  replyTo : Reply
  randomId : Int
  scheduleDate : Option Int
  noforwards : Option Bool
  replyMarkup : Option Written
  message : String

/-- the client's methods and the helpers of `utils` that the request is built with -/
structure RequestEnv (Date Markup Peer Reply Written : Type) where
  resolvePeer : ChatRef → Peer
  rndId : Int
  getReplyHeadFm : Option Int → Option Int → Reply
  datetimeToTimestamp : Option Date → Option Int
  write : Markup → Written

section Request

variable {Date Markup Peer Reply Written : Type} [Truthy Markup]

/-- the request `send_dice` sends -/
def sendDiceRequest (env : RequestEnv Date Markup Peer Reply Written) (args : SendDiceArgs Date Markup) :
    SendMedia Peer Reply Written :=
  let replyTo := env.getReplyHeadFm args.messageThreadId args.replyToMessageId
  { peer := env.resolvePeer args.chatId
    emoticon := args.emoji
    silent := pyOr args.disableNotification none
    replyTo := replyTo
    randomId := env.rndId
    scheduleDate := env.datetimeToTimestamp args.scheduleDate
    noforwards := args.protectContent
    replyMarkup := (args.replyMarkup.filter truthy).map env.write
    message := "" }

/-- `disable_notification or None` is `True` or `None` -/
theorem sendDice_silent (env : RequestEnv Date Markup Peer Reply Written) (args : SendDiceArgs Date Markup) :
    (sendDiceRequest env args).silent = if args.disableNotification = some true then some true else none := by
  rcases h : args.disableNotification with _ | _ | _ <;> simp [sendDiceRequest, pyOr, h]

end Request

/-! ## The reply -/

/-- an update of the reply, as `send_dice` tells them apart -/
inductive RawUpdate (Msg : Type) where
  | newMessage (message : Msg)
  | newChannelMessage (message : Msg)
  | newScheduledMessage (message : Msg)
  | other

/-- `raw.types.Updates`, the reply to the request -/
structure Updates (Msg User Chat : Type) where
  updates : List (RawUpdate Msg)
  users : List User
  chats : List Chat

/-- the ids of raw users and chats, and `types.Message._parse` -/
structure ReplyEnv (Msg User Chat Parsed : Type) where
  userId : User → Int
  chatId : Chat → Int
  parse : Msg → (Int → Option User) → (Int → Option Chat) → Bool → Parsed

section Reply

variable {Msg User Chat Parsed : Type}

/-- `{key(i): i for i in xs}`, looked up: a later element overwrites an earlier one of its key -/
def dictOf {β : Type} (key : β → Int) (xs : List β) : Int → Option β :=
  xs.foldl (fun d x => Function.update d (key x) (some x)) fun _ => none

/-- the `for` loop over `r.updates`: the message of the first update that is a new message, and
`isinstance(i, raw.types.UpdateNewScheduledMessage)` -/
def firstMessage : List (RawUpdate Msg) → Option (Msg × Bool)
  | [] => none
  | .newMessage m :: _ => some (m, false)
  | .newChannelMessage m :: _ => some (m, false)
  | .newScheduledMessage m :: _ => some (m, true)
  | .other :: us => firstMessage us

/-- what `send_dice` returns for the reply `r` -/
def sendDiceReply (env : ReplyEnv Msg User Chat Parsed) (r : Updates Msg User Chat) : Option Parsed :=
  (firstMessage r.updates).map fun (m, scheduled) =>
    env.parse m (dictOf env.userId r.users) (dictOf env.chatId r.chats) scheduled

/-- `send_dice`: the request, sent with `invoke`, and what it returns for the reply -/
def sendDice {Date Markup Peer Reply Written : Type} [Truthy Markup]
    (req : RequestEnv Date Markup Peer Reply Written) (env : ReplyEnv Msg User Chat Parsed)
    (invoke : SendMedia Peer Reply Written → Updates Msg User Chat) (args : SendDiceArgs Date Markup) :
    Option Parsed :=
  sendDiceReply env (invoke (sendDiceRequest req args))

/-- the message an update announces, and whether it is a scheduled one -/
def RawUpdate.announced : RawUpdate Msg → Option (Msg × Bool)
  | .newMessage m | .newChannelMessage m => some (m, false)
  | .newScheduledMessage m => some (m, true)
  | .other => none

theorem firstMessage_eq_findSome (us : List (RawUpdate Msg)) :
    firstMessage us = us.findSome? RawUpdate.announced := by
  induction us with
  | nil => rfl
  | cons u us ih => cases u <;> simp [firstMessage, RawUpdate.announced, ih]

theorem foldl_update_eq_find {β : Type} (key : β → Int) (xs : List β) (d : Int → Option β) (k : Int) :
    xs.foldl (fun d x => Function.update d (key x) (some x)) d k = (xs.reverse.find? (key · = k)).or (d k) := by
  induction xs generalizing d with
  | nil => rfl
  | cons x xs ih =>
    rw [List.foldl_cons, ih, List.reverse_cons, List.find?_append, Option.or_assoc]
    by_cases h : key x = k
    · subst h; simp
    · simp [h, Function.update_noteq (Ne.symm h)]

/-- a dict built by a comprehension maps a key to the last element with that key -/
theorem dictOf_eq_find {β : Type} (key : β → Int) (xs : List β) (k : Int) :
    dictOf key xs k = xs.reverse.find? (key · = k) := by
  rw [dictOf, foldl_update_eq_find, Option.or_none]

/-- **What `send_dice` returns.** For every server behind `invoke` and all arguments: the result is
`Message._parse` of the first update of the reply that announces a message, with
`is_scheduled` exactly for an `UpdateNewScheduledMessage` and each id mapped to the last user and
the last chat of the reply with that id; `None` when no update of the reply announces a message. -/
theorem sendDice_result {Date Markup Peer Reply Written : Type} [Truthy Markup]
    (req : RequestEnv Date Markup Peer Reply Written) (env : ReplyEnv Msg User Chat Parsed)
    (invoke : SendMedia Peer Reply Written → Updates Msg User Chat) (args : SendDiceArgs Date Markup) :
    sendDice req env invoke args =
      ((invoke (sendDiceRequest req args)).updates.findSome? RawUpdate.announced).map fun (m, scheduled) =>
        env.parse m (fun k => (invoke (sendDiceRequest req args)).users.reverse.find? (env.userId · = k))
          (fun k => (invoke (sendDiceRequest req args)).chats.reverse.find? (env.chatId · = k)) scheduled := by
  simp only [sendDice, sendDiceReply, firstMessage_eq_findSome]
  congr 1; funext ⟨m, scheduled⟩
  congr 1 <;> funext k <;> exact dictOf_eq_find _ _ k

end Reply

end Hydrogram
