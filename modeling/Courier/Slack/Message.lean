import Courier.Format.Basic
import Courier.Timestamp.Text

/-!
# Slack messages

A notification becomes a message of a text and some blocks: a header with the title of its type, a
section with the message of its context or the default message of its type, and a line with category
and time. In the markup of Slack the characters `&`, `<` and `>` stand for themselves only as
entities; headers are plain text and are cut at their greatest length.
-/

set_option autoImplicit false
set_option relaxedAutoImplicit false

namespace Courier.Slack

/-- Replaces each occurrence of a character by a text. -/
def replaceChar (c : Char) (entity : List Char) (cs : List Char) : List Char :=
  cs.flatMap fun d => if d = c then entity else [d]

/-- The text with its three special characters as entities. The ampersand goes first, so that those
of the other two stay. -/
def escapeMarkup (text : String) : String :=
  String.ofList <|
    replaceChar '>' "&gt;".toList <|
    replaceChar '<' "&lt;".toList <|
    replaceChar '&' "&amp;".toList text.toList

/-- How messages are made. -/
structure Style where
  username : Option String := none
  iconEmoji : Option String := none
  /-- Adds the line with category and time. -/
  contextBlock : Bool := true

/-- A text in a block. -/
inductive BlockText where
  | plain (text : String)
  | markup (text : String)
  deriving DecidableEq, Repr

/-- A block of a message. -/
inductive Block where
  | header (text : BlockText)
  | body (text : BlockText)
  | context (elements : List BlockText)
  deriving DecidableEq, Repr

/-- A message. -/
structure Message where
  text : String
  blocks : List Block
  username : Option String
  iconEmoji : Option String
  deriving DecidableEq, Repr

/-- The most characters of a header. -/
def headerLength : Nat := 150

/-- What a message says below its title. -/
def body (definition : TypeDefinition) (n : Notification) : String :=
  ((n.context.get? "message").bind Json.asString?).getD definition.defaultMessage

/-- The message for a notification of a known type. -/
def message (style : Style) (definition : TypeDefinition) (n : Notification) : Message where
  text := "*" ++ escapeMarkup definition.title ++ "*\n" ++ escapeMarkup (body definition n)
  blocks :=
    [.header (.plain (String.ofList (definition.title.toList.take headerLength))),
     .body (.markup (escapeMarkup (body definition n)))] ++
    (if style.contextBlock then
      [.context
        [.markup ("*" ++ escapeMarkup n.category ++ "* | " ++
          n.occurredAt.dateTimeText " " ++ " UTC")]]
    else [])
  username := style.username
  iconEmoji := style.iconEmoji

/-- The record of a text. -/
def BlockText.toJson : BlockText → Json
  | plain text => .ofMembers [("type", .string "plain_text"), ("text", .string text)]
  | markup text => .ofMembers [("type", .string "mrkdwn"), ("text", .string text)]

/-- The record of a block. -/
def Block.toJson : Block → Json
  | header text => .ofMembers [("type", .string "header"), ("text", text.toJson)]
  | body text => .ofMembers [("type", .string "section"), ("text", text.toJson)]
  | context elements =>
    .ofMembers [("type", .string "context"), ("elements", .array (elements.map BlockText.toJson))]

/-- The record of a message; what it does not set is left out. -/
def Message.toJson (m : Message) : Json :=
  .ofMembers <|
    [("text", .string m.text), ("blocks", .array (m.blocks.map Block.toJson))] ++
    (m.username.toList.map fun name => ("username", .string name)) ++
    (m.iconEmoji.toList.map fun emoji => ("icon_emoji", .string emoji))

/-- Renders a notification whose type is registered. -/
def format (style : Style) (types : TypeRegistry) (n : Notification) : Rendering :=
  match types.get n.typeId with
  | .error reason => .refused (.render reason.message)
  | .ok definition => .payload (message style definition n).toJson

/-- The formatter for Slack. -/
def formatter (style : Style) : Formatter := { format := format style }

end Courier.Slack
