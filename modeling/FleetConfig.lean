import FleetConfig.Main
import FleetConfig.Files.Tree
import FleetConfig.Proofs.Duration.RoundTrip
import FleetConfig.Proofs.Sorted.Keys
import FleetConfig.Proofs.Toml.Keys
import FleetConfig.Proofs.Toml.Agreement
import FleetConfig.Proofs.Toml.Values
import FleetConfig.Proofs.Toml.Sections
import FleetConfig.Proofs.Toml.Building
import FleetConfig.Proofs.Document.Decoding
import FleetConfig.Proofs.Document.Range
import FleetConfig.Proofs.Toml.RoundTrip
import FleetConfig.Proofs.Document.RoundTrip
import FleetConfig.Proofs.Files.Trees
import FleetConfig.Proofs.Store.Running
import FleetConfig.Proofs.Store.Saving
import FleetConfig.Proofs.Store.Modifying
import FleetConfig.Proofs.Cli.Failing
import FleetConfig.Proofs.Store.Persistence
import FleetConfig.Proofs.Outcome
import FleetConfig.Proofs.Daemon.Keys
import FleetConfig.Proofs.Daemon.Registry
import FleetConfig.Proofs.Daemon.Writing
import FleetConfig.Proofs.Roster
import FleetConfig.Proofs.Setting.Input
import FleetConfig.Proofs.Daemon.Validity
import FleetConfig.Proofs.Plugin.Validity
import FleetConfig.Proofs.Contract.Validity
import FleetConfig.Proofs.Command.Validity
import FleetConfig.Proofs.Store.Keeping
import FleetConfig.Proofs.Cli.Validity
import FleetConfig.Proofs.Export.Placeholders
import FleetConfig.Proofs.Export.Artifacts
import FleetConfig.Proofs.Command.Edits
import FleetConfig.Proofs.Context.WellFormed
import FleetConfig.Proofs.Files.Reaching
import FleetConfig.Proofs.Files.Drafts
import FleetConfig.Proofs.Exporting.Running
import FleetConfig.Proofs.Exporting.Failing
import FleetConfig.Proofs.Exporting.Delivery
import FleetConfig.Proofs.Export.Fitting
import FleetConfig.Proofs.Document.Kinds
import FleetConfig.Proofs.Exporting.Secrecy
import FleetConfig.Proofs.Contract.Pruning
import FleetConfig.Proofs.Store.Succeeding
import FleetConfig.Proofs.Command.Assignments
import FleetConfig.Proofs.Command.Sections
import FleetConfig.Proofs.Cli.Settings
import FleetConfig.Proofs.Context.Outcomes
import FleetConfig.Proofs.Plugin.Outcomes
import FleetConfig.Proofs.Contract.Outcomes
import FleetConfig.Proofs.Command.Agreement
import FleetConfig.Proofs.Cli.Outcomes
import FleetConfig.Proofs.Slots
import FleetConfig.Proofs.Plugin.Slots
import FleetConfig.Proofs.Contract.Changes
import FleetConfig.Proofs.Text.Cutting
import FleetConfig.Proofs.Export.Lines
import FleetConfig.Proofs.Store.Editing
import FleetConfig.Proofs.Cli.Ordering
import FleetConfig.Proofs.Command.Addressing
import FleetConfig.Proofs.Cli.Addressing
import FleetConfig.Proofs.Store.Repeating
import FleetConfig.Proofs.Command.Repeating
import FleetConfig.Proofs.Cli.Repeating
import FleetConfig.Proofs.Flag.Replacing
import FleetConfig.Proofs.Flag.Repeating
import FleetConfig.Proofs.Command.Arguments
import FleetConfig.Proofs.Context.Frames
import FleetConfig.Proofs.Plugin.Frames
import FleetConfig.Proofs.Contract.Frames
import FleetConfig.Proofs.Cli.Frames
import FleetConfig.Proofs.Duration.Grammar
import FleetConfig.Proofs.Flag.Setting
import FleetConfig.Proofs.Flag.Blocks
import FleetConfig.Proofs.Flag.Neighbours
import FleetConfig.Proofs.Plugin.Moves
import FleetConfig.Duration.Scanner
import FleetConfig.Proofs.Duration.Positions
import FleetConfig.Proofs.Duration.Scanning
import FleetConfig.Proofs.Duration.Fractions
import FleetConfig.Proofs.Text.Joining
import FleetConfig.Proofs.Setting.Tables
import FleetConfig.Proofs.Daemon.Reading
import FleetConfig.Proofs.Walks
import FleetConfig.Proofs.Daemon.Violations
import FleetConfig.Proofs.Contract.Removing
import FleetConfig.Proofs.Contract.Gathering
import FleetConfig.Proofs.Contract.Reporting
import FleetConfig.Proofs.Net.Hosts
import FleetConfig.Proofs.Net.Addresses
import FleetConfig.Proofs.Url.Domains
import FleetConfig.Proofs.Url.Authority
import FleetConfig.Proofs.Url.Parts
import FleetConfig.Proofs.Net.Origins
import FleetConfig.Proofs.Setting.Reentry
import FleetConfig.Proofs.Setting.Rebuilding
import FleetConfig.Proofs.Text.Lines
import FleetConfig.Proofs.Toml.Excerpts
import FleetConfig.Proofs.Check.Running
import FleetConfig.Proofs.Command.Validation
