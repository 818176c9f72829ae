import BackupLocator.FileSystem.Change
import BackupLocator.Config.Shared
import BackupLocator.Operation
import BackupLocator.Platform.Table
import BackupLocator.Main
import BackupLocator.Proofs.Action
import BackupLocator.Proofs.Action.Effect
import BackupLocator.Proofs.FileSystem.Extension
import BackupLocator.Proofs.FileSystem.Creation
import BackupLocator.Proofs.Platform
import BackupLocator.Proofs.Resolver.Parallel
import BackupLocator.Proofs.Resolver.Plan
import BackupLocator.Proofs.Resolver.Selection
import BackupLocator.Proofs.Resolver.Direct
import BackupLocator.Proofs.Resolver.Found
import BackupLocator.Proofs.Resolver.Ending
import BackupLocator.Proofs.Resolver.Success
import BackupLocator.Proofs.Resolver.Frame
import BackupLocator.Proofs.Resolver.Memo
import BackupLocator.Proofs.Resolver.Scoped
import BackupLocator.Proofs.Resolver.Stale
import BackupLocator.Proofs.Resolver.Reading
import BackupLocator.Proofs.Resolver.Refusal
import BackupLocator.Proofs.Resolver.Preference
import BackupLocator.Proofs.Resolver.Volume
import BackupLocator.Proofs.FileSystem.Lookup
import BackupLocator.Proofs.Config
import BackupLocator.Proofs.Platform.Handle
import BackupLocator.Proofs.Platform.Volumes
import BackupLocator.Proofs.Resolver.Fault
import BackupLocator.Proofs.Resolver.ByHandle
import BackupLocator.Proofs.Resolver.Independence
import BackupLocator.Proofs.Resolver.Repetition
import BackupLocator.Proofs.Resolver.Upgrade
import BackupLocator.Proofs.Path
import BackupLocator.Proofs.Layout
import BackupLocator.Proofs.Platform.Mount
import BackupLocator.Proofs.Handle.Address
import BackupLocator.Proofs.Text.Utf8
import BackupLocator.Proofs.Text.Percent
import BackupLocator.Proofs.FileSystem.Content
import BackupLocator.Proofs.Json.Number
import BackupLocator.Proofs.Json.Text
import BackupLocator.Proofs.Json.RoundTrip
import BackupLocator.Proofs.Config.RoundTrip
import BackupLocator.Proofs.Config.Loading
import BackupLocator.Proofs.Config.Place
import BackupLocator.Proofs.Config.Shared
import BackupLocator.Proofs.Config.Source
import BackupLocator.Proofs.Json.Controls
import BackupLocator.Proofs.Resolver.Described
import BackupLocator.Proofs.Resolver.Fallback
import BackupLocator.Proofs.Resolver.Provenance
import BackupLocator.Proofs.Resolver.Questions
import BackupLocator.Proofs.CommandLine.Resolve
import BackupLocator.Proofs.Platform.Unmounted
import BackupLocator.Proofs.Selector.Candidates
import BackupLocator.Proofs.Selector.DefaultRoot
import BackupLocator.Proofs.CommandLine.Volumes
import BackupLocator.Proofs.Resolver.DefaultCheck
import BackupLocator.Proofs.Label
import BackupLocator.Proofs.FileSystem.Making
import BackupLocator.Proofs.CommandLine.Verbatim
import BackupLocator.Proofs.Label.Exact
import BackupLocator.Proofs.Label.Volume
