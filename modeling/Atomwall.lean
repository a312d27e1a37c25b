import Atomwall.Base.ByteString
import Atomwall.Base.AsciiCase
import Atomwall.Base.Decimal
import Atomwall.Base.Calendar
import Atomwall.Base.KeyMap
import Atomwall.Base.AgeQueue
import Atomwall.Base.Lts
import Atomwall.Base.TimedLog
import Atomwall.Base.TimedMap
import Atomwall.Base.Program
import Atomwall.Base.Metered
import Atomwall.Base.Framing
import Atomwall.Base.RingLog
import Atomwall.Base.Csv
import Atomwall.Base.BitPrefix
import Atomwall.Base.DigitGroups
import Atomwall.Base.AgentGroups
import Atomwall.Base.FileTree
import Atomwall.Base.FirstSeen
import Atomwall.Base.OneTime
import Atomwall.Base.WriteBehind
import Atomwall.Http.Message
import Atomwall.Net.AddressText
import Atomwall.Platform.Libraries
import Atomwall.Platform.Yaml
import Atomwall.Platform.AtomicFile
import Atomwall.Config.RuntimeConfig
import Atomwall.Config.ConfigStore
import Atomwall.Config.PollRaces
import Atomwall.Config.Persistence
import Atomwall.Config.WriteOrder
import Atomwall.Config.SiteLookup
import Atomwall.Config.SiteOps
import Atomwall.Config.StatusPages
import Atomwall.Config.YamlCodec
import Atomwall.Config.YamlRoundTrip
import Atomwall.Config.BlacklistOps
import Atomwall.Config.InPlace
import Atomwall.Config.ListImport
import Atomwall.Config.WellFormed
import Atomwall.Config.Edits
import Atomwall.Config.Restart
import Atomwall.History.EventLogs
import Atomwall.History.RequestLog
import Atomwall.History.DisabledCsv
import Atomwall.History.CsvCells
import Atomwall.History.SseStream
import Atomwall.History.IpBlockTracker
import Atomwall.History.TimedBlocks
import Atomwall.History.RequestRateTracker
import Atomwall.History.RateWindow
import Atomwall.History.ScoreTracker
import Atomwall.History.ScoreEviction
import Atomwall.History.ScoreTotals
import Atomwall.Pipeline.Checks
import Atomwall.Pipeline.RateLimit
import Atomwall.Pipeline.CidrBits
import Atomwall.Pipeline.IpEntries
import Atomwall.Pipeline.RobotsTxt
import Atomwall.Pipeline.RobotsMerge
import Atomwall.Pipeline.RobotsGroups
import Atomwall.Listener.HttpSession
import Atomwall.Listener.Decision
import Atomwall.Listener.WhitelistInfluence
import Atomwall.Listener.AutoBan
import Atomwall.Listener.BanDuration
import Atomwall.Listener.TlsSiteContexts
import Atomwall.Listener.SniSites
import Atomwall.Globe.Server
import Atomwall.Listener.Delivery
import Atomwall.Listener.KeepAlive
import Atomwall.Auth.ChallengeRetention
import Atomwall.Auth.UserStore
import Atomwall.Auth.Accounts
import Atomwall.Auth.Base32
import Atomwall.Auth.Base64Url
import Atomwall.Auth.UserOps
import Atomwall.Auth.Passkeys
import Atomwall.Auth.UserFile
import Atomwall.Auth.WebAuthn
import Atomwall.Auth.AuthenticatorData
import Atomwall.Auth.CborKeys
import Atomwall.Auth.BackupCodeRuns
import Atomwall.Admin.Calls
import Atomwall.Admin.IpBlocks
import Atomwall.Admin.Server
import Atomwall.Admin.Discipline
import Atomwall.Admin.SessionOwners
import Atomwall.Admin.MandatoryFactor
import Atomwall.Admin.LoginFactors
import Atomwall.Admin.Ceremonies
import Atomwall.Admin.TotpReplay
import Atomwall.Admin.PasskeyOwners
import Atomwall.Admin.FactorRaces
import Atomwall.Admin.SignCounts
import Atomwall.Admin.UserVerification
import Atomwall.Admin.Views
import Atomwall.Admin.ConfigHandlers
import Atomwall.Admin.ConfigChanges
import Atomwall.Admin.ConfigRuns
import Atomwall.Admin.HistoryViews
import Atomwall.Admin.Provenance
import Atomwall.Admin.TokenHistory
import Atomwall.Admin.SetupOnce
import Atomwall.System.Firewall
import Atomwall.System.Enforcement
import Atomwall.System.Bans
import Atomwall.System.Console
import Atomwall.System.Durability
import Atomwall.System.Logins
import Atomwall.System.Anonymity
import Atomwall.History.CsvLifetimes
import Atomwall.Admin.UrlFetch
import Atomwall.Admin.StaticFiles
import Atomwall.Globe.StaticAssets
import Atomwall.Admin.MethodCheck
import Atomwall.Admin.LoginCost
