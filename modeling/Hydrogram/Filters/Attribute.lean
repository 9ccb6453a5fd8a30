/-
The stateless filters of `filters.py`: predicates over the fields of an update that write nothing.

Forty-one of them have one body, `bool(m.<field>)`: `fieldFilter` with the field and its Python
name, each member defined under the source's name from its own field. The three chat-scope
filters share another, `chatScopeFilter`: the chat of a message or of a callback query's message,
a `ValueError` for any other update, then a test of the chat's type. The rest keep their own
bodies: `all`, `me`, `bot`, `incoming`, `outgoing`, `reply_keyboard`, `inline_keyboard`,
`linked_channel`.

All of them only read: `fieldFilter_eq` and `chatScopeFilter_eq` say what the two shapes compute,
and `Library` lifts them as filters that leave the update unchanged.
-/
import Hydrogram.Types

namespace Hydrogram

/-! ## `bool(m.<field>)` -/

/-- the body of the one-field filters: read field `attr` of a message and test it -/
def fieldFilter {β : Type} [Truthy β] (attr : String) (field : Message → β) (u : Update) :
    Except PyError Bool :=
  (u.asMessage attr).map fun m => truthy (field m)

theorem fieldFilter_eq {β : Type} [Truthy β] (attr : String) (field : Message → β) (u : Update) :
    fieldFilter attr field u =
      match u with
      | .message m => .ok (truthy (field m))
      | u => .error (.attributeError u.typeName attr) := by
  cases u <;> rfl

def textFilter := fieldFilter "text" Message.text
def replyFilter := fieldFilter "reply_to_message_id" Message.replyToMessageId
def forwardedFilter := fieldFilter "forward_date" Message.forwardDate
def captionFilter := fieldFilter "caption" Message.caption
def audioFilter := fieldFilter "audio" Message.audio
def documentFilter := fieldFilter "document" Message.document
def photoFilter := fieldFilter "photo" Message.photo
def stickerFilter := fieldFilter "sticker" Message.sticker
def animationFilter := fieldFilter "animation" Message.animation
def gameFilter := fieldFilter "game" Message.game
def videoFilter := fieldFilter "video" Message.video
def mediaGroupFilter := fieldFilter "media_group_id" Message.mediaGroupId
def voiceFilter := fieldFilter "voice" Message.voice
def videoNoteFilter := fieldFilter "video_note" Message.videoNote
def contactFilter := fieldFilter "contact" Message.contact
def locationFilter := fieldFilter "location" Message.location
def venueFilter := fieldFilter "venue" Message.venue
def webPageFilter := fieldFilter "web_page" Message.webPage
def pollFilter := fieldFilter "poll" Message.poll
def diceFilter := fieldFilter "dice" Message.dice
def mediaSpoilerFilter := fieldFilter "has_media_spoiler" Message.hasMediaSpoiler
def newChatMembersFilter := fieldFilter "new_chat_members" Message.newChatMembers
def leftChatMemberFilter := fieldFilter "left_chat_member" Message.leftChatMember
def newChatTitleFilter := fieldFilter "new_chat_title" Message.newChatTitle
def newChatPhotoFilter := fieldFilter "new_chat_photo" Message.newChatPhoto
def deleteChatPhotoFilter := fieldFilter "delete_chat_photo" Message.deleteChatPhoto
def groupChatCreatedFilter := fieldFilter "group_chat_created" Message.groupChatCreated
def supergroupChatCreatedFilter :=
  fieldFilter "supergroup_chat_created" Message.supergroupChatCreated
def channelChatCreatedFilter := fieldFilter "channel_chat_created" Message.channelChatCreated
def migrateToChatIdFilter := fieldFilter "migrate_to_chat_id" Message.migrateToChatId
def migrateFromChatIdFilter := fieldFilter "migrate_from_chat_id" Message.migrateFromChatId
def pinnedMessageFilter := fieldFilter "pinned_message" Message.pinnedMessage
def gameHighScoreFilter := fieldFilter "game_high_score" Message.gameHighScore
def mentionedFilter := fieldFilter "mentioned" Message.mentioned
def viaBotFilter := fieldFilter "via_bot" Message.viaBot
def videoChatStartedFilter := fieldFilter "video_chat_started" Message.videoChatStarted
def videoChatEndedFilter := fieldFilter "video_chat_ended" Message.videoChatEnded
def videoChatMembersInvitedFilter :=
  fieldFilter "video_chat_members_invited" Message.videoChatMembersInvited
def serviceFilter := fieldFilter "service" Message.service
def mediaFilter := fieldFilter "media" Message.media
def scheduledFilter := fieldFilter "scheduled" Message.scheduled
def fromScheduledFilter := fieldFilter "from_scheduled" Message.fromScheduled

/-! ## Chat scope -/

/-- the body of `private`, `group` and `channel`: the chat of a message, or of a callback query's
message, then whether its type is accepted -/
def chatScopeFilter (name : String) (accept : ChatType → Bool) (u : Update) :
    Except PyError Bool :=
  match u with
  | .message m => .ok (m.chat.any fun c => accept c.type)
  | .callbackQuery q =>
    match q.message with
    | some m => .ok (m.chat.any fun c => accept c.type)
    | none => .error (.attributeError "NoneType" "chat")
  | u => .error (.valueError (name ++ " filter doesn't work with " ++ u.typeRepr))

theorem chatScopeFilter_eq (name : String) (accept : ChatType → Bool) (u : Update) :
    chatScopeFilter name accept u =
      match u with
      | .message m => .ok (m.chat.any fun c => accept c.type)
      | .callbackQuery ⟨_, some m, _, _⟩ => .ok (m.chat.any fun c => accept c.type)
      | .callbackQuery _ => .error (.attributeError "NoneType" "chat")
      | u => .error (.valueError (name ++ " filter doesn't work with " ++ u.typeRepr)) := by
  rcases u with _ | ⟨_, _ | _, _, _⟩ | _ | _ <;> rfl

def privateFilter := chatScopeFilter "Private" fun t => t == .«private» || t == .bot
def groupFilter := chatScopeFilter "Group" fun t => t == .group || t == .supergroup
def channelFilter := chatScopeFilter "Channel" fun t => t == .channel

/-! ## Filters with their own bodies -/

def allFilter (_ : Update) : Except PyError Bool := .ok true

/-- `bool(m.from_user.is_self if m.from_user else getattr(m, "outgoing", False))` -/
def meFilter (u : Update) : Except PyError Bool := do
  match ← u.fromUser with
  | some user => return user.isSelf
  | none =>
    match u with
    | .message m => return m.outgoing
    | _ => return false

/-- `bool(m.from_user and m.from_user.is_bot)` -/
def botFilter (u : Update) : Except PyError Bool := do
  return (← u.fromUser).any (·.isBot)

/-- `not m.outgoing` -/
def incomingFilter (u : Update) : Except PyError Bool :=
  (u.asMessage "outgoing").map fun m => !m.outgoing

/-- `m.outgoing` -/
def outgoingFilter (u : Update) : Except PyError Bool :=
  (u.asMessage "outgoing").map (·.outgoing)

/-- `isinstance(m.reply_markup, ReplyKeyboardMarkup)` -/
def replyKeyboardFilter (u : Update) : Except PyError Bool :=
  (u.asMessage "reply_markup").map (·.replyMarkup == some .replyKeyboard)

/-- `isinstance(m.reply_markup, InlineKeyboardMarkup)` -/
def inlineKeyboardFilter (u : Update) : Except PyError Bool :=
  (u.asMessage "reply_markup").map (·.replyMarkup == some .inlineKeyboard)

/-- `bool(m.forward_from_chat and not m.from_user)` -/
def linkedChannelFilter (u : Update) : Except PyError Bool :=
  (u.asMessage "forward_from_chat").map fun m => m.forwardFromChat.isSome && m.fromUser.isNone

end Hydrogram
