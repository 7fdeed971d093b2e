import TermBot.Discord.Shape

/-!
# The members of what the service describes

`Kind.members` lists, for every kind of object, the members that are looked at and their shapes. A
member that is not listed is ignored.
-/

namespace TermBot.Discord

/-- The full name of a type of the service. -/
def qualified (name : String) : String := "discordgo." ++ name

namespace Shape

/-- A text. -/
def str : Shape := .text "string"

/-- An integer. -/
def int : Shape := .whole { name := "int" }

/-- A text of a type of its own. -/
def label (name : String) : Shape := .text (qualified name)

/-- An integer of a type of its own. -/
def code (name : String) : Shape := .whole { name := qualified name }

/-- A natural number of a type of its own. -/
def tag (name : String) (bits : Nat := 64) : Shape :=
  .whole { name := qualified name, signed := false, bits }

/-- A set of permissions, a number in a text. -/
def permissions : Shape := .quoted { name := "int64" }

/-- Texts. -/
def strs : Shape := .list "[]string" str

end Shape

/-- The name of the type of a whole value of this kind; some have none. -/
def Kind.name : Kind → String
  | .account => "User"
  | .member => "Member"
  | .role => "Role"
  | .emoji => "Emoji"
  | .attachment => "MessageAttachment"
  | .card => "MessageEmbed"
  | .footer => "MessageEmbedFooter"
  | .image => "MessageEmbedImage"
  | .thumbnail => "MessageEmbedThumbnail"
  | .video => "MessageEmbedVideo"
  | .provider => "MessageEmbedProvider"
  | .cardAuthor => "MessageEmbedAuthor"
  | .cardField => "MessageEmbedField"
  | .reaction => "MessageReactions"
  | .partyActivity => "MessageActivity"
  | .partyApplication => "MessageApplication"
  | .reference => "MessageReference"
  | .trigger => "MessageInteraction"
  | .sticker => "StickerItem"
  | .channel => "Channel"
  | .overwrite => "PermissionOverwrite"
  | .thread => "ThreadMetadata"
  | .threadMember => "ThreadMember"
  | .forumTag => "ForumTag"
  | .forumReaction => "ForumDefaultReaction"
  | .application => "Application"
  | .team => "Team"
  | .teamMember => "TeamMember"
  | .button => "Button"
  | .buttonEmoji => "ComponentEmoji"
  | .menu => "SelectMenu"
  | .menuOption => "SelectMenuOption"
  | .menuDefault => "SelectMenuDefaultValue"
  | .input => "TextInput"
  | .interaction => "rawInteraction"
  | .press => "MessageComponentInteractionData"
  | .resolved => "MessageComponentInteractionDataResolved"
  | .message | .limit | .component | .row => ""

/-- A member in the description of a type without a name. -/
def memberType (name type tag : String) : String :=
  name ++ " " ++ type ++ " \"json:\\\"" ++ tag ++ "\\\"\""

/-- The description of a type without a name. -/
def inlineType (members : List String) : String :=
  "struct \x7b " ++ "; ".intercalate members ++ " \x7d"

/-- The components of a message or of a row. -/
def componentsType : String := "[]" ++ qualified "unmarshalableMessageComponent"

/-- The type of the objects of a kind. -/
def Kind.type : Kind → String
  | .message =>
    inlineType [qualified "message", memberType "RawComponents" componentsType "components"]
  | .row => inlineType [memberType "RawComponents" componentsType "components"]
  | .component => inlineType [memberType "Type" (qualified "ComponentType") "type"]
  | .limit =>
    inlineType [memberType "Bucket" "string" "bucket", memberType "Message" "string" "message",
      memberType "RetryAfter" "float64" "retry_after"]
  | k => qualified k.name

/-- A list of references to objects. -/
def Shape.refs (k : Kind) : Shape := .list ("[]*" ++ k.type) (.object k)

/-- A list of objects. -/
def Shape.objects (k : Kind) : Shape := .list ("[]" ++ k.type) (.object k)

/-- Objects by their ids. -/
def Shape.byId (k : Kind) : Shape := .table ("map[string]*" ++ k.type) (.object k)

/-- Components. -/
def Shape.components : Shape := .list componentsType .component

open Shape in
/-- The members of the objects of a kind, with their shapes. -/
def Kind.members : Kind → List (String × Shape)
  | .account =>
    [("id", str), ("email", str), ("username", str), ("avatar", str), ("locale", str),
     ("discriminator", str), ("global_name", str), ("token", str), ("verified", truth),
     ("mfa_enabled", truth), ("banner", str), ("accent_color", int), ("bot", truth),
     ("public_flags", code "UserFlags"), ("premium_type", code "UserPremiumType"), ("system", truth),
     ("flags", int)]
  | .member =>
    [("guild_id", str), ("joined_at", time), ("nick", str), ("deaf", truth), ("mute", truth),
     ("avatar", str), ("user", object .account), ("roles", strs), ("premium_since", time),
     ("flags", code "MemberFlags"), ("pending", truth), ("permissions", permissions),
     ("communication_disabled_until", time)]
  | .role =>
    [("id", str), ("name", str), ("managed", truth), ("mentionable", truth), ("hoist", truth),
     ("color", int), ("position", int), ("permissions", permissions), ("icon", str),
     ("unicode_emoji", str), ("flags", code "RoleFlags")]
  | .emoji =>
    [("id", str), ("name", str), ("roles", strs), ("user", object .account), ("require_colons", truth),
     ("managed", truth), ("animated", truth), ("available", truth)]
  | .attachment =>
    [("id", str), ("url", str), ("proxy_url", str), ("filename", str), ("content_type", str),
     ("width", int), ("height", int), ("size", int), ("ephemeral", truth), ("duration_secs", real),
     ("waveform", str), ("flags", code "MessageAttachmentFlags")]
  | .card =>
    [("url", str), ("type", label "EmbedType"), ("title", str), ("description", str),
     ("timestamp", str), ("color", int), ("footer", object .footer), ("image", object .image),
     ("thumbnail", object .thumbnail), ("video", object .video), ("provider", object .provider),
     ("author", object .cardAuthor), ("fields", refs .cardField)]
  | .footer => [("text", str), ("icon_url", str), ("proxy_icon_url", str)]
  | .image | .thumbnail => [("url", str), ("proxy_url", str), ("width", int), ("height", int)]
  | .video => [("url", str), ("width", int), ("height", int)]
  | .provider => [("url", str), ("name", str)]
  | .cardAuthor => [("url", str), ("name", str), ("icon_url", str), ("proxy_icon_url", str)]
  | .cardField => [("name", str), ("value", str), ("inline", truth)]
  | .reaction => [("count", int), ("me", truth), ("emoji", object .emoji)]
  | .partyActivity => [("type", code "MessageActivityType"), ("party_id", str)]
  | .partyApplication =>
    [("id", str), ("cover_image", str), ("description", str), ("icon", str), ("name", str)]
  | .reference =>
    [("message_id", str), ("channel_id", str), ("guild_id", str), ("fail_if_not_exists", truth)]
  | .trigger =>
    [("id", str), ("type", tag "InteractionType" 8), ("name", str), ("user", object .account),
     ("member", object .member)]
  | .sticker => [("id", str), ("name", str), ("format_type", code "StickerFormat")]
  | .channel =>
    [("id", str), ("guild_id", str), ("name", str), ("topic", str), ("type", code "ChannelType"),
     ("last_message_id", str), ("last_pin_timestamp", time), ("message_count", int),
     ("member_count", int), ("nsfw", truth), ("icon", str), ("position", int), ("bitrate", int),
     ("recipients", refs .account), ("permission_overwrites", refs .overwrite), ("user_limit", int),
     ("parent_id", str), ("rate_limit_per_user", int), ("owner_id", str), ("application_id", str),
     ("thread_metadata", object .thread), ("thread_member", object .threadMember),
     ("flags", code "ChannelFlags"), ("available_tags", objects .forumTag), ("applied_tags", strs),
     ("default_reaction_emoji", object .forumReaction),
     ("default_thread_rate_limit_per_user", int), ("default_sort_order", code "ForumSortOrderType"),
     ("default_forum_layout", code "ForumLayout")]
  | .overwrite =>
    [("id", str), ("type", code "PermissionOverwriteType"), ("deny", permissions),
     ("allow", permissions)]
  | .thread =>
    [("archived", truth), ("auto_archive_duration", int), ("archive_timestamp", time),
     ("locked", truth), ("invitable", truth)]
  | .threadMember =>
    [("id", str), ("user_id", str), ("join_timestamp", time), ("flags", int),
     ("member", object .member)]
  | .forumTag =>
    [("id", str), ("name", str), ("moderated", truth), ("emoji_id", str), ("emoji_name", str)]
  | .forumReaction => [("emoji_id", str), ("emoji_name", str)]
  | .message =>
    [("id", str), ("channel_id", str), ("guild_id", str), ("content", str), ("timestamp", time),
     ("edited_timestamp", time), ("mention_roles", strs), ("tts", truth), ("mention_everyone", truth),
     ("author", object .account), ("attachments", refs .attachment), ("components", components),
     ("embeds", refs .card), ("mentions", refs .account), ("reactions", refs .reaction),
     ("pinned", truth), ("type", code "MessageType"), ("webhook_id", str), ("member", object .member),
     ("mention_channels", refs .channel), ("activity", object .partyActivity),
     ("application", object .partyApplication), ("message_reference", object .reference),
     ("referenced_message", separate .message), ("interaction", object .trigger),
     ("flags", code "MessageFlags"), ("thread", object .channel), ("sticker_items", refs .sticker)]
  | .application =>
    [("id", str), ("name", str), ("icon", str), ("description", str), ("rpc_origins", strs),
     ("bot_public", truth), ("bot_require_code_grant", truth), ("terms_of_service_url", str),
     ("privacy_policy_url", str), ("owner", object .account), ("summary", str), ("verify_key", str),
     ("team", object .team), ("guild_id", str), ("primary_sku_id", str), ("slug", str),
     ("cover_image", str), ("flags", int)]
  | .team =>
    [("id", str), ("name", str), ("description", str), ("icon", str), ("owner_user_id", str),
     ("members", refs .teamMember)]
  | .teamMember =>
    [("user", object .account), ("team_id", str), ("membership_state", code "MembershipState"),
     ("permissions", strs)]
  | .limit => [("bucket", str), ("message", str), ("retry_after", real)]
  | .component => [("type", tag "ComponentType")]
  | .row => [("components", components)]
  | .button =>
    [("label", str), ("style", tag "ButtonStyle"), ("disabled", truth), ("emoji", object .buttonEmoji),
     ("url", str), ("custom_id", str)]
  | .buttonEmoji => [("name", str), ("id", str), ("animated", truth)]
  | .menu =>
    [("type", tag "SelectMenuType"), ("custom_id", str), ("placeholder", str), ("min_values", int),
     ("max_values", int), ("default_values", objects .menuDefault), ("options", objects .menuOption),
     ("disabled", truth),
     ("channel_types", list ("[]" ++ qualified "ChannelType") (code "ChannelType"))]
  | .menuOption =>
    [("label", str), ("value", str), ("description", str), ("emoji", object .buttonEmoji),
     ("default", truth)]
  | .menuDefault => [("id", str), ("type", label "SelectMenuDefaultValueType")]
  | .input =>
    [("custom_id", str), ("label", str), ("style", tag "TextInputStyle"), ("placeholder", str),
     ("value", str), ("required", truth), ("min_length", int), ("max_length", int)]
  | .interaction =>
    [("id", str), ("application_id", str), ("type", tag "InteractionType" 8), ("data", anything),
     ("guild_id", str), ("channel_id", str), ("message", separate .message),
     ("app_permissions", permissions), ("member", object .member), ("user", object .account),
     ("locale", label "Locale"), ("guild_locale", label "Locale"), ("token", str), ("version", int)]
  | .press =>
    [("custom_id", str), ("component_type", tag "ComponentType"), ("resolved", object .resolved),
     ("values", strs)]
  | .resolved =>
    [("users", byId .account), ("members", byId .member), ("roles", byId .role),
     ("channels", byId .channel)]

/-- The kind of the components of a type. -/
def componentKind? : Nat → Option Kind
  | 1 => some .row
  | 2 => some .button
  | 3 | 5 | 6 | 7 | 8 => some .menu
  | 4 => some .input
  | _ => none

end TermBot.Discord
