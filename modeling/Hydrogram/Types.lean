/-
The parsed objects the filters read (`hydrogram.types`), as far as `filters.py` reads them, and
the client handle.

An update is a `Message`, a `CallbackQuery`, an `InlineQuery`, or an object of another update
class (`ChatMemberUpdated`, `ChatJoinRequest`, `ChosenInlineResult`, ...), which the model gives
its `from_user` and `chat` where the class has them. The filters are duck-typed, so a field read on
an update of the wrong shape raises `AttributeError` (`Update.asMessage`, `readAttr`). Fields whose
contents no filter reads (an `Audio`, a `datetime`, an enum member) are kept only as present or
absent (`Obj`). The two annotation fields the filters write, `command` and `matches`, are part of
the objects, as in Python. A `ValueError` names the update's class as an f-string shows it,
`<class 'module.Name'>` (`Update.typeRepr`).

Left out: every field no filter reads, and the fields of the other update classes beyond
`from_user` and `chat`.
-/
import Hydrogram.Re.Engine

namespace Hydrogram

open Re (Match)

/-- a parsed object whose fields no filter reads; it is always true -/
abbrev Obj := Unit

/-- `types.User` -/
structure User where
  id : Int
  isSelf : Bool := false
  isBot : Bool := false
  username : Option String := none
  deriving DecidableEq, Repr

/-- `enums.ChatType` -/
inductive ChatType where
  | «private» | bot | group | supergroup | channel
  deriving DecidableEq, Repr

/-- `types.Chat` -/
structure Chat where
  id : Int
  type : ChatType
  username : Option String := none
  deriving DecidableEq, Repr

/-- the classes a `reply_markup` can be -/
inductive ReplyMarkup where
  | inlineKeyboard | replyKeyboard | replyKeyboardRemove | forceReply
  deriving DecidableEq, Repr

instance : Truthy User := ⟨fun _ => true⟩
instance : Truthy Chat := ⟨fun _ => true⟩

/-- `types.Message` -/
structure Message where
  fromUser : Option User := none
  chat : Option Chat := none
  outgoing : Bool := false
  text : Option String := none
  caption : Option String := none
  replyToMessageId : Option Int := none
  forwardDate : Option Obj := none
  forwardFromChat : Option Chat := none
  mediaGroupId : Option String := none
  audio : Option Obj := none
  document : Option Obj := none
  photo : Option Obj := none
  sticker : Option Obj := none
  animation : Option Obj := none
  game : Option Obj := none
  video : Option Obj := none
  voice : Option Obj := none
  videoNote : Option Obj := none
  contact : Option Obj := none
  location : Option Obj := none
  venue : Option Obj := none
  webPage : Option Obj := none
  poll : Option Obj := none
  dice : Option Obj := none
  hasMediaSpoiler : Option Bool := none
  newChatMembers : Option (List User) := none
  leftChatMember : Option User := none
  newChatTitle : Option String := none
  newChatPhoto : Option Obj := none
  deleteChatPhoto : Option Bool := none
  groupChatCreated : Option Bool := none
  supergroupChatCreated : Option Bool := none
  channelChatCreated : Option Bool := none
  migrateToChatId : Option Int := none
  migrateFromChatId : Option Int := none
  pinnedMessage : Option Obj := none
  gameHighScore : Option Obj := none
  replyMarkup : Option ReplyMarkup := none
  mentioned : Option Bool := none
  viaBot : Option User := none
  videoChatStarted : Option Obj := none
  videoChatEnded : Option Obj := none
  videoChatMembersInvited : Option Obj := none
  /-- the service kind (`enums.MessageServiceType`), set on service messages -/
  service : Option Obj := none
  /-- the media kind (`enums.MessageMediaType`), set on media messages -/
  media : Option Obj := none
  scheduled : Option Bool := none
  fromScheduled : Option Bool := none
  /-- written by the command filter -/
  command : Option (List String) := none
  /-- written by the regex filter -/
  «matches» : Option (List Match) := none

/-- `types.CallbackQuery` -/
structure CallbackQuery where
  fromUser : User
  message : Option Message := none
  data : Option String := none
  «matches» : Option (List Match) := none

/-- `types.InlineQuery` -/
structure InlineQuery where
  fromUser : User
  query : String
  «matches» : Option (List Match) := none

/-- an object of another update class: the module that defines the class, its name, and its
`from_user` and `chat`, each `none` when the class has no such attribute -/
structure OtherUpdate where
  module : String
  name : String
  fromUser : Option (Option User) := none
  chat : Option (Option Chat) := none
  deriving DecidableEq

/-- the update a handler's filter receives -/
inductive Update where
  | message (m : Message)
  | callbackQuery (q : CallbackQuery)
  | inlineQuery (q : InlineQuery)
  | other (o : OtherUpdate)

/-- `type(update).__name__`, as an `AttributeError` names it -/
def Update.typeName : Update → String
  | .message _ => "Message"
  | .callbackQuery _ => "CallbackQuery"
  | .inlineQuery _ => "InlineQuery"
  | .other o => o.name

/-- `type(update).__module__`: the submodule of `hydrogram.types` that defines the class -/
def Update.typeModule : Update → String
  | .message _ => "hydrogram.types.messages_and_media.message"
  | .callbackQuery _ => "hydrogram.types.bots_and_keyboards.callback_query"
  | .inlineQuery _ => "hydrogram.types.inline_mode.inline_query"
  | .other o => o.module

/-- `type(update)` in an f-string -/
def Update.typeRepr (u : Update) : String := "<class '" ++ u.typeModule ++ "." ++ u.typeName ++ "'>"

/-- reading attribute `attr` of an object of class `type` that may lack it -/
def readAttr {β : Type} (type attr : String) : Option β → Except PyError β
  | some v => .ok v
  | none => .error (.attributeError type attr)

/-- reading the message field `attr`: only a `Message` has it -/
def Update.asMessage (u : Update) (attr : String) : Except PyError Message :=
  match u with
  | .message m => .ok m
  | _ => .error (.attributeError u.typeName attr)

/-- `update.from_user` -/
def Update.fromUser : Update → Except PyError (Option User)
  | .message m => .ok m.fromUser
  | .callbackQuery q => .ok (some q.fromUser)
  | .inlineQuery q => .ok (some q.fromUser)
  | .other o => readAttr o.name "from_user" o.fromUser

/-- `update.chat`: a callback query and an inline query have none -/
def Update.chat : Update → Except PyError (Option Chat)
  | .message m => .ok m.chat
  | .other o => readAttr o.name "chat" o.chat
  | u => .error (.attributeError u.typeName "chat")

/-- `update.outgoing`: only a `Message` has it -/
def Update.outgoing (u : Update) : Except PyError Bool := (u.asMessage "outgoing").map (·.outgoing)

/-- `update.matches` of the three shapes the regex filter accepts -/
def Update.«matches» : Update → Option (List Match)
  | .message m => m.«matches»
  | .callbackQuery q => q.«matches»
  | .inlineQuery q => q.«matches»
  | .other _ => none

/-- `update.matches = v` -/
def Update.setMatches (u : Update) (v : Option (List Match)) : Update :=
  match u with
  | .message m => .message { m with «matches» := v }
  | .callbackQuery q => .callbackQuery { q with «matches» := v }
  | .inlineQuery q => .inlineQuery { q with «matches» := v }
  | .other o => .other o

/-- `message.command`, for a message -/
def Update.command : Update → Option (List String)
  | .message m => m.command
  | _ => none

/-- `message.command = v` -/
def Update.setCommand (u : Update) (v : Option (List String)) : Update :=
  match u with
  | .message m => .message { m with command := v }
  | u => u

@[simp] theorem Update.matches_setMatches (u : Update) (v : Option (List Match))
    (h : ∀ t, u ≠ .other t) : (u.setMatches v).«matches» = v := by
  cases u <;> simp_all [setMatches, Update.«matches»]

@[simp] theorem Update.command_setMatches (u : Update) (v : Option (List Match)) :
    (u.setMatches v).command = u.command := by
  cases u <;> rfl

@[simp] theorem Update.matches_setCommand (u : Update) (v : Option (List String)) :
    (u.setCommand v).«matches» = u.«matches» := by
  cases u <;> rfl

@[simp] theorem Update.setCommand_setCommand (u : Update) (c c' : Option (List String)) :
    (u.setCommand c).setCommand c' = u.setCommand c' := by
  cases u <;> rfl

@[simp] theorem Update.setMatches_setMatches (u : Update) (v v' : Option (List Match)) :
    (u.setMatches v).setMatches v' = u.setMatches v' := by
  cases u <;> rfl

theorem Update.setCommand_setMatches (u : Update) (c : Option (List String))
    (v : Option (List Match)) : (u.setMatches v).setCommand c = (u.setCommand c).setMatches v := by
  cases u <;> rfl

/-- the acting client: `client.me` -/
structure Client where
  me : User

end Hydrogram
