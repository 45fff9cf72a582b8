import ScriptRoster.CommandLine.Program
import ScriptRoster.Main
import ScriptRoster.Proofs.Cache.Entry
import ScriptRoster.Proofs.Text.Utf8
import ScriptRoster.Proofs.Files.Walk
import ScriptRoster.Proofs.Files.Change
import ScriptRoster.Proofs.Cache.Holding
import ScriptRoster.Proofs.Cache.Key
import ScriptRoster.Proofs.Session.Stage
import ScriptRoster.Proofs.Session.Alone
import ScriptRoster.Proofs.Run
import ScriptRoster.Proofs.Session.Transparency
import ScriptRoster.Proofs.Session.OneScript
import ScriptRoster.Proofs.Session.Preference
import ScriptRoster.Proofs.Session.Traffic
import ScriptRoster.Proofs.Session.Generation
import ScriptRoster.Proofs.Session.Belonging
import ScriptRoster.Proofs.Session.Solo
import ScriptRoster.Proofs.Session.Order
import ScriptRoster.Proofs.Extraction
import ScriptRoster.Proofs.Session.Life
import ScriptRoster.Proofs.Session.Answering
import ScriptRoster.Proofs.Session.Sharing
import ScriptRoster.Proofs.Session.Story
import ScriptRoster.Proofs.Session.Reloading
import ScriptRoster.Proofs.Files.Inside
import ScriptRoster.Proofs.Cache.Contents
import ScriptRoster.Proofs.Session.Discarding
import ScriptRoster.Proofs.Session.Pending
import ScriptRoster.Proofs.Session.Progress
import ScriptRoster.Proofs.Session.Promises
import ScriptRoster.Proofs.Session.Calling
import ScriptRoster.Proofs.Cache.Stock
import ScriptRoster.Proofs.Session.Snapshots
import ScriptRoster.Proofs.Files.Growth
import ScriptRoster.Proofs.CommandLine.Opening
import ScriptRoster.Proofs.CommandLine.Desk
import ScriptRoster.Proofs.CommandLine.Agreement
import ScriptRoster.Proofs.Script.Sources
import ScriptRoster.Proofs.Script.Scan
import ScriptRoster.Proofs.Script.Outermost
import ScriptRoster.Proofs.Script.Faults
import ScriptRoster.Proofs.Session.Provenance
import ScriptRoster.Proofs.Session.Entries
import ScriptRoster.Proofs.Files.Lasting
import ScriptRoster.Proofs.Session.Modes
import ScriptRoster.Proofs.Invocation.Literal
import ScriptRoster.Proofs.Cache.Keeping
import ScriptRoster.Proofs.Json.Grammar
import ScriptRoster.Proofs.Json.Values
import ScriptRoster.Proofs.Cache.Reading
import ScriptRoster.Proofs.Files.Replacing
import ScriptRoster.Proofs.Session.Healing
import ScriptRoster.Proofs.Fallback
import ScriptRoster.Proofs.Text.Blank
import ScriptRoster.Proofs.Invocation.Outcome
import ScriptRoster.Proofs.Session.Counting
import ScriptRoster.Proofs.Session.Inquiry
import ScriptRoster.Proofs.Session.Spelling
import ScriptRoster.Proofs.Session.Search
import ScriptRoster.Proofs.Text.Lowercase
import ScriptRoster.Proofs.Invocation.Watching
import ScriptRoster.Proofs.Invocation.Slices
import ScriptRoster.Proofs.Invocation.Stopping
import ScriptRoster.Proofs.Files.Writing
import ScriptRoster.Proofs.Toml.Datetime
import ScriptRoster.Proofs.Toml.Scalar
import ScriptRoster.Proofs.Toml.Plain
import ScriptRoster.Proofs.Toml.Document
import ScriptRoster.Proofs.Settings.Written
import ScriptRoster.Proofs.Settings.Loading
