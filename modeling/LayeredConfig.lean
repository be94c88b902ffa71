import LayeredConfig.Alias
import LayeredConfig.Change
import LayeredConfig.CommandLine
import LayeredConfig.CommandLine.Level
import LayeredConfig.CommandLine.Word
import LayeredConfig.Comparison
import LayeredConfig.Config
import LayeredConfig.ConfigTree
import LayeredConfig.Credentials
import LayeredConfig.DataDirectory
import LayeredConfig.Deprecation
import LayeredConfig.Disk.Access
import LayeredConfig.Disk.Basic
import LayeredConfig.Disk.Edit
import LayeredConfig.Disk.Fault
import LayeredConfig.Duration
import LayeredConfig.Environment
import LayeredConfig.Failure
import LayeredConfig.File.Basic
import LayeredConfig.File.Decode
import LayeredConfig.File.Merge
import LayeredConfig.Format
import LayeredConfig.HlsRoot
import LayeredConfig.Holder
import LayeredConfig.Json.Scan
import LayeredConfig.Json.Value
import LayeredConfig.Loader
import LayeredConfig.LogLevel
import LayeredConfig.Main
import LayeredConfig.Net.Address
import LayeredConfig.Net.HostName
import LayeredConfig.Net.HostName.Character
import LayeredConfig.Net.HostName.Composition
import LayeredConfig.Net.HostName.Direction
import LayeredConfig.Net.HostName.Joiner
import LayeredConfig.Net.HostName.Mark
import LayeredConfig.Net.Punycode
import LayeredConfig.Net.Url
import LayeredConfig.Number.Binary64
import LayeredConfig.Number.Decimal
import LayeredConfig.Number.Integer
import LayeredConfig.Path
import LayeredConfig.Presence
import LayeredConfig.Probe
import LayeredConfig.Program
import LayeredConfig.Proofs.Agreement
import LayeredConfig.Proofs.Agreement.Recording
import LayeredConfig.Proofs.Agreement.Refusal
import LayeredConfig.Proofs.Agreement.Text
import LayeredConfig.Proofs.Alias
import LayeredConfig.Proofs.Alone
import LayeredConfig.Proofs.Change
import LayeredConfig.Proofs.Change.Chain
import LayeredConfig.Proofs.Change.Difference
import LayeredConfig.Proofs.Comparison
import LayeredConfig.Proofs.Config
import LayeredConfig.Proofs.ConfigTree
import LayeredConfig.Proofs.Conflict
import LayeredConfig.Proofs.Credentials
import LayeredConfig.Proofs.Credentials.Origin
import LayeredConfig.Proofs.Default
import LayeredConfig.Proofs.Deprecation
import LayeredConfig.Proofs.Disk
import LayeredConfig.Proofs.Disk.Rename
import LayeredConfig.Proofs.Disk.Way
import LayeredConfig.Proofs.Duration
import LayeredConfig.Proofs.Duration.Grammar
import LayeredConfig.Proofs.Duration.Limit
import LayeredConfig.Proofs.Duration.RoundTrip
import LayeredConfig.Proofs.Duration.Total
import LayeredConfig.Proofs.File.Form
import LayeredConfig.Proofs.File.Merge
import LayeredConfig.Proofs.File.Place
import LayeredConfig.Proofs.File.Supply
import LayeredConfig.Proofs.HlsRoot
import LayeredConfig.Proofs.HlsRoot.Again
import LayeredConfig.Proofs.HlsRoot.Derived
import LayeredConfig.Proofs.HlsRoot.Frame
import LayeredConfig.Proofs.HlsRoot.Migration
import LayeredConfig.Proofs.Holder.Delivery
import LayeredConfig.Proofs.Holder.Failed
import LayeredConfig.Proofs.Holder.History
import LayeredConfig.Proofs.Holder.Isolation
import LayeredConfig.Proofs.Holder.Listener
import LayeredConfig.Proofs.Holder.Queue
import LayeredConfig.Proofs.Holder.Run
import LayeredConfig.Proofs.Holder.Snapshot
import LayeredConfig.Proofs.Holder.Unchanged
import LayeredConfig.Proofs.Independence
import LayeredConfig.Proofs.JoinedList
import LayeredConfig.Proofs.Load
import LayeredConfig.Proofs.Manifest
import LayeredConfig.Proofs.Manifest.Enforcement
import LayeredConfig.Proofs.Manifest.Merge
import LayeredConfig.Proofs.Manifest.Named
import LayeredConfig.Proofs.Manifest.Pattern
import LayeredConfig.Proofs.Net.Block
import LayeredConfig.Proofs.Number
import LayeredConfig.Proofs.Number.Literal
import LayeredConfig.Proofs.Number.Rounding
import LayeredConfig.Proofs.Number.Whole
import LayeredConfig.Proofs.Path
import LayeredConfig.Proofs.Path.Clean
import LayeredConfig.Proofs.Precedence
import LayeredConfig.Proofs.Presence
import LayeredConfig.Proofs.Reading
import LayeredConfig.Proofs.References
import LayeredConfig.Proofs.References.Cut
import LayeredConfig.Proofs.Registry
import LayeredConfig.Proofs.Registry.Lookup
import LayeredConfig.Proofs.Rule
import LayeredConfig.Proofs.Secret
import LayeredConfig.Proofs.Source
import LayeredConfig.Proofs.Success
import LayeredConfig.Proofs.Table
import LayeredConfig.Proofs.Text.Cut
import LayeredConfig.Proofs.Text.Pattern
import LayeredConfig.Proofs.Text.Trim
import LayeredConfig.Proofs.Token
import LayeredConfig.Proofs.Token.RoundTrip
import LayeredConfig.Proofs.TunerSlot
import LayeredConfig.Proofs.TunerSlot.Reader
import LayeredConfig.Proofs.Validation
import LayeredConfig.Proofs.Validation.Breach
import LayeredConfig.Proofs.Validation.Covers
import LayeredConfig.Proofs.Validation.Groups
import LayeredConfig.Proofs.Variable
import LayeredConfig.Proofs.VariableLayer
import LayeredConfig.Proofs.VariableLayer.Inert
import LayeredConfig.Proofs.VariableUse
import LayeredConfig.Proofs.Watch
import LayeredConfig.Proofs.Yaml.Key
import LayeredConfig.Proofs.Yaml.Label
import LayeredConfig.Proofs.Yaml.Stream
import LayeredConfig.Reading
import LayeredConfig.References
import LayeredConfig.Registry.Basic
import LayeredConfig.Registry.Listing
import LayeredConfig.Rule
import LayeredConfig.Setting.Basic
import LayeredConfig.Setting.Table
import LayeredConfig.Text.Blank
import LayeredConfig.Text.Cut
import LayeredConfig.Text.Hidden
import LayeredConfig.Text.Quoted
import LayeredConfig.Token
import LayeredConfig.TunerSlot
import LayeredConfig.Validation
import LayeredConfig.Variable
import LayeredConfig.VariableLayer
import LayeredConfig.VariableUse
import LayeredConfig.Warning
import LayeredConfig.Watch
import LayeredConfig.Yaml.Block
import LayeredConfig.Yaml.Fault
import LayeredConfig.Yaml.Glyph
import LayeredConfig.Yaml.Node
import LayeredConfig.Yaml.Plain
import LayeredConfig.Yaml.Scalar
import LayeredConfig.Yaml.Shape
import LayeredConfig.Yaml.Token
import LayeredConfig.Yaml.Token.Stream
import LayeredConfig.Yaml.Tree
import LayeredConfig.Yaml.Value
