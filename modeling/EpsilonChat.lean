import EpsilonChat.Accounts.BackgroundFetch
import EpsilonChat.Accounts.Migrate
import EpsilonChat.Base.I64
import EpsilonChat.Base.Ids
import EpsilonChat.Base.ParamText
import EpsilonChat.Base.Params
import EpsilonChat.Base.Text
import EpsilonChat.Base.Trim
import EpsilonChat.Blob.Name
import EpsilonChat.Blob.Recode
import EpsilonChat.Call.Calls
import EpsilonChat.Contact.AddOrLookup
import EpsilonChat.Contact.SingleLine
import EpsilonChat.Contact.Vcard
import EpsilonChat.Contact.Verify
import EpsilonChat.Ephemeral.Once
import EpsilonChat.Ephemeral.Schedule
import EpsilonChat.Ephemeral.Start
import EpsilonChat.Group.Changes
import EpsilonChat.Group.Clock
import EpsilonChat.Group.Converge
import EpsilonChat.Group.Mailinglist
import EpsilonChat.Group.MemberSets
import EpsilonChat.Group.MemberVectors
import EpsilonChat.Group.MemberWire
import EpsilonChat.Group.Members
import EpsilonChat.Group.Recipients
import EpsilonChat.Group.Resolve
import EpsilonChat.Group.Settings
import EpsilonChat.Group.SettingsConverge
import EpsilonChat.Imap.Fetch
import EpsilonChat.Imap.FetchMany
import EpsilonChat.Imap.NoneLost
import EpsilonChat.Imap.Progress
import EpsilonChat.Imap.UidSets
import EpsilonChat.Key.Aheader
import EpsilonChat.Key.Import
import EpsilonChat.Lib.Base64
import EpsilonChat.Lib.ByteSlice
import EpsilonChat.Lib.Chunks
import EpsilonChat.Lib.Eff
import EpsilonChat.Lib.Firsts
import EpsilonChat.Lib.IdTable
import EpsilonChat.Lib.Join
import EpsilonChat.Lib.LeadsTo
import EpsilonChat.Lib.Like
import EpsilonChat.Lib.Percent
import EpsilonChat.Lib.Pointers
import EpsilonChat.Lib.Register
import EpsilonChat.Lib.Semaphore
import EpsilonChat.Lib.SequenceSet
import EpsilonChat.Lib.Split
import EpsilonChat.Lib.Table
import EpsilonChat.Lib.UnixPath
import EpsilonChat.Location.Save
import EpsilonChat.Location.Stream
import EpsilonChat.Message.DeleteMsgs
import EpsilonChat.Message.MarkSeen
import EpsilonChat.Mime.Confidential
import EpsilonChat.Mime.Dehtml
import EpsilonChat.Mime.FilePart
import EpsilonChat.Mime.Flowed
import EpsilonChat.Mime.Headers
import EpsilonChat.Mime.Hidden
import EpsilonChat.Mime.Leaves
import EpsilonChat.Mime.Message
import EpsilonChat.Mime.Parts
import EpsilonChat.Mime.PlainHtml
import EpsilonChat.Mime.Protection
import EpsilonChat.Mime.Secured
import EpsilonChat.Mime.Simplify
import EpsilonChat.Mime.SimplifyLines
import EpsilonChat.Mime.TextPart
import EpsilonChat.Mime.TextWire
import EpsilonChat.Net.HttpCache
import EpsilonChat.Qr.Check
import EpsilonChat.Qr.Login
import EpsilonChat.Receive.Delete
import EpsilonChat.Receive.HandleMdn
import EpsilonChat.Receive.Imf
import EpsilonChat.Receive.Lookup
import EpsilonChat.Receive.Msgs
import EpsilonChat.SecureJoin.Authentic
import EpsilonChat.SecureJoin.Handshake
import EpsilonChat.SecureJoin.Link
import EpsilonChat.SecureJoin.State
import EpsilonChat.SecureJoin.Tokens
import EpsilonChat.Smtp.Jobs
import EpsilonChat.Smtp.Mdns
import EpsilonChat.Smtp.Queue
import EpsilonChat.Smtp.Ratelimit
import EpsilonChat.Smtp.SelfCopy
import EpsilonChat.Sql.ConfigCache
import EpsilonChat.Sql.Pool
import EpsilonChat.Sql.PoolLive
import EpsilonChat.Sql.PoolSafe
import EpsilonChat.Stats.Messages
import EpsilonChat.Tools.Truncate
import EpsilonChat.Transport.Converge
import EpsilonChat.Transport.Sync
import EpsilonChat.Webxdc.Metadata
import EpsilonChat.Webxdc.Realtime
import EpsilonChat.Webxdc.Rendering
import EpsilonChat.Webxdc.Resend
import EpsilonChat.Webxdc.StatusUpdates
