import ChatRecords.Calendar.Date
import ChatRecords.Calendar.Moment
import ChatRecords.Calendar.Reader
import ChatRecords.Calendar.Writer
import ChatRecords.Channel.Cached
import ChatRecords.Choice
import ChatRecords.Command.Arguments
import ChatRecords.Command.Run
import ChatRecords.Double.Arithmetic
import ChatRecords.Double.Basic
import ChatRecords.Double.Notation
import ChatRecords.Double.Shortest
import ChatRecords.Emoji
import ChatRecords.Entitlement
import ChatRecords.Entries
import ChatRecords.Enumeration.Basic
import ChatRecords.Enumeration.Catalog
import ChatRecords.Enumeration.Lookup
import ChatRecords.Fault
import ChatRecords.Files.Basic
import ChatRecords.Files.Name
import ChatRecords.Flags.Basic
import ChatRecords.Flags.Catalog
import ChatRecords.Flags.Iteration
import ChatRecords.Guild.Basic
import ChatRecords.Interaction.Builder
import ChatRecords.Interaction.Response
import ChatRecords.Json.Basic
import ChatRecords.Json.Reader
import ChatRecords.Json.Schema
import ChatRecords.Json.Writer
import ChatRecords.Keyed
import ChatRecords.Locale
import ChatRecords.Lock.ReadWrite
import ChatRecords.Log.Entry
import ChatRecords.Log.Level
import ChatRecords.Log.Output
import ChatRecords.Log.RotatingFile
import ChatRecords.Main
import ChatRecords.Message.Basic
import ChatRecords.Message.Events
import ChatRecords.Message.Reaction
import ChatRecords.MessageType
import ChatRecords.Moderation
import ChatRecords.Path
import ChatRecords.Payload
import ChatRecords.Power
import ChatRecords.Proofs.Calendar.Wire
import ChatRecords.Proofs.Double.Rounding
import ChatRecords.Proofs.Flags.Iteration
import ChatRecords.Proofs.Flags.Mask
import ChatRecords.Proofs.Flags.Members
import ChatRecords.Proofs.Flags.Programs
import ChatRecords.Proofs.Interaction.Builder
import ChatRecords.Proofs.Interaction.Settings
import ChatRecords.Proofs.Json.Limits
import ChatRecords.Proofs.Json.Numbers
import ChatRecords.Proofs.Json.RoundTrip
import ChatRecords.Proofs.Keyed.OrderedMap
import ChatRecords.Proofs.Keyed.Slot
import ChatRecords.Proofs.Lock.Exclusion
import ChatRecords.Proofs.Lock.Settling
import ChatRecords.Proofs.Lock.Steps
import ChatRecords.Proofs.Message.Balances
import ChatRecords.Proofs.Message.Locality
import ChatRecords.Proofs.Message.Reactions
import ChatRecords.Proofs.Record.Causes
import ChatRecords.Proofs.Record.Choices
import ChatRecords.Proofs.Record.Fits
import ChatRecords.Proofs.Record.Inversion
import ChatRecords.Proofs.Record.Leaves
import ChatRecords.Proofs.Record.Levels
import ChatRecords.Proofs.Record.MaskForms
import ChatRecords.Proofs.Record.Masks
import ChatRecords.Proofs.Record.Parts
import ChatRecords.Proofs.Record.Payload
import ChatRecords.Proofs.Record.Rebuilding
import ChatRecords.Proofs.Record.Reordering
import ChatRecords.Proofs.Record.RoundTrip
import ChatRecords.Proofs.Record.Schema
import ChatRecords.Proofs.Record.Setting
import ChatRecords.Proofs.Record.Shallow
import ChatRecords.Proofs.Record.Warnings
import ChatRecords.Proofs.Record.Ways
import ChatRecords.Proofs.Server.Channels
import ChatRecords.Proofs.Server.Collections
import ChatRecords.Proofs.Server.Guild
import ChatRecords.Proofs.Server.Reached
import ChatRecords.Proofs.Server.Sharing
import ChatRecords.Proofs.Text.Decimal
import ChatRecords.Proofs.Typing.History
import ChatRecords.Proofs.Typing.Reapers
import ChatRecords.Proofs.Typing.Timers
import ChatRecords.Record.Catalog.Applications
import ChatRecords.Record.Catalog.Channels
import ChatRecords.Record.Catalog.Embeds
import ChatRecords.Record.Catalog.Events
import ChatRecords.Record.Catalog.Guilds
import ChatRecords.Record.Catalog.Interactions
import ChatRecords.Record.Catalog.Messages
import ChatRecords.Record.Catalog.Moderation
import ChatRecords.Record.Catalog.Presence
import ChatRecords.Record.Catalog.Users
import ChatRecords.Record.Construction
import ChatRecords.Record.Conversion
import ChatRecords.Record.Decoder
import ChatRecords.Record.Decoding
import ChatRecords.Record.Encoder
import ChatRecords.Record.Fields
import ChatRecords.Record.Kind
import ChatRecords.Record.Nesting
import ChatRecords.Record.Rebuilding
import ChatRecords.Record.Report
import ChatRecords.Record.Schema
import ChatRecords.Record.Value
import ChatRecords.Server.Basic
import ChatRecords.Server.Caller
import ChatRecords.Server.Channels
import ChatRecords.Server.Members
import ChatRecords.Settings.Config
import ChatRecords.Settings.EnvFile
import ChatRecords.Snowflake
import ChatRecords.Text.Blank
import ChatRecords.Text.Digit
import ChatRecords.Text.Numeral
import ChatRecords.Text.Printable
import ChatRecords.Text.Quoted
import ChatRecords.Text.UpperCase
import ChatRecords.Typing.Indicator
import ChatRecords.Typing.Reaper
import ChatRecords.Typing.Report
import ChatRecords.User
import ChatRecords.Proofs.Calendar.Days
import ChatRecords.Proofs.Snowflake.Decimal
import ChatRecords.Proofs.Snowflake.Fields
import ChatRecords.Proofs.Snowflake.Instants
import ChatRecords.Proofs.Typing.Firing
import ChatRecords.Proofs.Json.Grammar
import ChatRecords.Proofs.Json.Indentation
import ChatRecords.Proofs.Record.Extent
import ChatRecords.Proofs.Record.Texts
import ChatRecords.Proofs.Record.Writable
import ChatRecords.Proofs.Calendar.Order
import ChatRecords.Proofs.Entitlement
import ChatRecords.Proofs.Keyed.Entries
import ChatRecords.Proofs.Record.Following
import ChatRecords.Proofs.Record.Contexts
import ChatRecords.Proofs.Record.WrittenAlike
import ChatRecords.Proofs.Record.RoleTags
