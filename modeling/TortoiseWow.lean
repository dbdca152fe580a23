import TortoiseWow.GuildBank.Persistence
import TortoiseWow.GuildBank.Representation
import TortoiseWow.GuildBank.Unlocking
import TortoiseWow.GuildBank.WithdrawLimit
import TortoiseWow.Auction.Snapshot
import TortoiseWow.Battleground.Invitations
import TortoiseWow.Sql.ResultQueue
import TortoiseWow.Sql.Shutdown
import TortoiseWow.Memory.WriteBudget
import TortoiseWow.Object.ObjectGuid
import TortoiseWow.Network.Outbound
import TortoiseWow.Threads.Batches
import TortoiseWow.Threads.TaskProgress
import TortoiseWow.Utilities.EventLife
import TortoiseWow.Player.ActionBar
import TortoiseWow.Group.LootTally
import TortoiseWow.Player.HonorKills
import TortoiseWow.Session.StopDeferral
import TortoiseWow.Pool.Accounting
import TortoiseWow.Social.Persistence
import TortoiseWow.Chat.WhisperWindow
import TortoiseWow.Chat.ChannelOwner
import TortoiseWow.Reputation.Relog
import TortoiseWow.Player.MaintenanceOnce
import TortoiseWow.Shop.Coins
import TortoiseWow.Guild.RightsKept
import TortoiseWow.Battleground.PremadeTimeout
import TortoiseWow.Battleground.Balancing
import TortoiseWow.Mail.MailboxCap
import TortoiseWow.Auction.Settlement
import TortoiseWow.Auction.Search
import TortoiseWow.GuildBank.OneCommand
import TortoiseWow.GuildBank.RoundTrip
import TortoiseWow.LFT.Atomicity
import TortoiseWow.LFT.Offers
import TortoiseWow.Network.CipherRoundTrip
import TortoiseWow.Shared.PopulationSpatialIndex
import TortoiseWow.Sql.PreparedStatement
import TortoiseWow.Sql.RefusedMigration
import TortoiseWow.Sql.FormattedQuery
import TortoiseWow.LFT.Signups
import TortoiseWow.Sql.Splitter
import TortoiseWow.Shared.ShuffleOrder
import TortoiseWow.LFT.FillAgreement
import TortoiseWow.Shared.AreaLookupIndex
import TortoiseWow.Shared.IncrementalFilter
import TortoiseWow.Battleground.ThornGorgeMirror
import TortoiseWow.Battleground.ThornGorgeTime
import TortoiseWow.Player.HonorRank
import TortoiseWow.Loot.SettledRoll
import TortoiseWow.Threat.TemporaryThreat
import TortoiseWow.Threat.HostileTarget
import TortoiseWow.Pool.RepairedPools
import TortoiseWow.Loot.WindowAgreement
import TortoiseWow.Player.HonorCurrency
import TortoiseWow.Object.UpdateSending
import TortoiseWow.Guild.RosterSound
import TortoiseWow.Player.StorageComplete
