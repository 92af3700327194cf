import BotHost.Logging.Builder
import BotHost.Main
import BotHost.Proofs.Manager.Lookup
import BotHost.Proofs.Manager.Steps
import BotHost.Proofs.Manager.Locking
import BotHost.Proofs.Manager.Custody
import BotHost.Proofs.Manager.Exclusion
import BotHost.Proofs.Manager.Pairing
import BotHost.Proofs.Manager.Silence
import BotHost.Proofs.Manager.Stopping
import BotHost.Proofs.Manager.Rest
import BotHost.Proofs.Manager.Ledger
import BotHost.Proofs.Manager.Holding
import BotHost.Proofs.Manager.Reaping
import BotHost.Proofs.Manager.Settling
import BotHost.Proofs.Manager.Mirroring
import BotHost.Proofs.Manager.Serial
import BotHost.Proofs.Manager.Contest
import BotHost.Proofs.Manager.Completion
import BotHost.Proofs.Manager.Queueing
import BotHost.Proofs.Manager.Compiling
import BotHost.Proofs.Manager.History
import BotHost.Proofs.Manager.Generations
import BotHost.Proofs.Manager.Overtaking
import BotHost.Proofs.Manager.Looping
import BotHost.Proofs.Manager.Delivery
import BotHost.Proofs.Manager.Separation
import BotHost.Proofs.Condition.Typing
import BotHost.Proofs.Condition.Grammar
import BotHost.Proofs.Condition.Reading
import BotHost.Proofs.Condition.Parsing
import BotHost.Proofs.Condition.Lexing
import BotHost.Proofs.Condition.Meaning
import BotHost.Proofs.Condition.Display
import BotHost.Proofs.Condition.Dependence
import BotHost.Proofs.Handler.Recording
import BotHost.Proofs.Handler.Accounting
import BotHost.Proofs.Handler.Tallying
import BotHost.Proofs.Handler.Making
import BotHost.Proofs.Text.Pieces
import BotHost.Proofs.Text.Cutting
import BotHost.Proofs.Text.Quoting
import BotHost.Proofs.Handler.Triggering
import BotHost.Proofs.Handler.Commanding
import BotHost.Proofs.Handler.Labelling
import BotHost.Proofs.Handler.Spelling
import BotHost.Proofs.Handler.Reaction
import BotHost.Proofs.Handler.Interpretation
import BotHost.Proofs.Handler.Binding
import BotHost.Proofs.Session.Lifetime
import BotHost.Proofs.Manager.Transport
import BotHost.Proofs.Manager.Disposal
import BotHost.Proofs.Session.Contract
import BotHost.Proofs.Session.Traffic
import BotHost.Proofs.Telegram.Conduct
import BotHost.Proofs.Telegram.Exchange
import BotHost.Proofs.Session.Agreement
import BotHost.Proofs.Bot.Catalogue
import BotHost.Proofs.Session.Chronicle
import BotHost.Proofs.Manager.Scheduling
import BotHost.Proofs.Settings.Checking
import BotHost.Proofs.CommandLine.Capacity
import BotHost.Proofs.Json.Numbers
import BotHost.Proofs.Json.Texts
import BotHost.Proofs.Json.Reading
import BotHost.Proofs.Time.Reading
import BotHost.Proofs.Json.Codec
import BotHost.Proofs.Json.Depth
import BotHost.Proofs.Bot.Keeping
import BotHost.Proofs.Settings.Keeping
import BotHost.Proofs.CommandLine.Reporting
import BotHost.Proofs.Settings.Layering
import BotHost.Proofs.Settings.Loading
import BotHost.Proofs.Manager.Attempting
import BotHost.Proofs.Manager.Forgetting
import BotHost.Proofs.Manager.Restarting
import BotHost.Proofs.Manager.Pacing
import BotHost.Proofs.Manager.Inquiring
import BotHost.Proofs.Manager.Deadlines
import BotHost.Proofs.Manager.Removal
import BotHost.Proofs.Manager.Overrunning
import BotHost.Proofs.Manager.Latecomers
import BotHost.Proofs.Manager.Shutdown
import BotHost.Proofs.Condition.Distinction
import BotHost.Proofs.Condition.Naming
import BotHost.Proofs.Condition.Resolution
import BotHost.Proofs.Condition.Spelling
import BotHost.Proofs.Condition.Locating
import BotHost.Proofs.Condition.Descent
import BotHost.Proofs.Condition.Guarding
import BotHost.Proofs.Handler.Resolving
import BotHost.Proofs.Handler.Comparing
import BotHost.Proofs.Telegram.Verdicts
import BotHost.Proofs.Telegram.Retrying
import BotHost.Proofs.Telegram.Offsets
import BotHost.Proofs.Text.Paths
import BotHost.Proofs.Logging.Sinks
