import CapabilityRegistry.AliasGraph
import CapabilityRegistry.Bindings.Printer
import CapabilityRegistry.CommandLine
import CapabilityRegistry.Configuration
import CapabilityRegistry.FileStore
import CapabilityRegistry.Main
import CapabilityRegistry.Markup.Printer
import CapabilityRegistry.Model.Dump
import CapabilityRegistry.Model.Loading
import CapabilityRegistry.Naming
import CapabilityRegistry.Proofs.AliasGraph
import CapabilityRegistry.Proofs.AliasGraph.Hops
import CapabilityRegistry.Proofs.AliasGraph.Resolution
import CapabilityRegistry.Proofs.ApiVersion
import CapabilityRegistry.Proofs.Bindings.Declared
import CapabilityRegistry.Proofs.Bindings.DeclaredOnce
import CapabilityRegistry.Proofs.Bindings.Enums
import CapabilityRegistry.Proofs.Bindings.Fields
import CapabilityRegistry.Proofs.Bindings.Lengths
import CapabilityRegistry.Proofs.Bindings.Shape
import CapabilityRegistry.Proofs.Bindings.Spelling
import CapabilityRegistry.Proofs.Bindings.Tables
import CapabilityRegistry.Proofs.Bindings.Unknown
import CapabilityRegistry.Proofs.Chain.CoreGuard
import CapabilityRegistry.Proofs.Chain.Faults
import CapabilityRegistry.Proofs.Chain.Linking
import CapabilityRegistry.Proofs.Chain.Links
import CapabilityRegistry.Proofs.Closure.Contents
import CapabilityRegistry.Proofs.Closure.Cycle
import CapabilityRegistry.Proofs.Closure.Descent
import CapabilityRegistry.Proofs.Closure.Order
import CapabilityRegistry.Proofs.Closure.Termination
import CapabilityRegistry.Proofs.Composition
import CapabilityRegistry.Proofs.Constant
import CapabilityRegistry.Proofs.Constant.Literal
import CapabilityRegistry.Proofs.Declarations
import CapabilityRegistry.Proofs.Disabled
import CapabilityRegistry.Proofs.Disabled.Reasons
import CapabilityRegistry.Proofs.Distinct
import CapabilityRegistry.Proofs.Extraction.Defects
import CapabilityRegistry.Proofs.Extraction.Representation
import CapabilityRegistry.Proofs.FileStore
import CapabilityRegistry.Proofs.First
import CapabilityRegistry.Proofs.FormatQueries
import CapabilityRegistry.Proofs.Growable
import CapabilityRegistry.Proofs.Growable.Entries
import CapabilityRegistry.Proofs.Growable.Faults
import CapabilityRegistry.Proofs.Growable.Membership
import CapabilityRegistry.Proofs.Growable.Reuse
import CapabilityRegistry.Proofs.Loop
import CapabilityRegistry.Proofs.Mappings.Answers
import CapabilityRegistry.Proofs.Mappings.Build
import CapabilityRegistry.Proofs.Mappings.Claims
import CapabilityRegistry.Proofs.Mappings.CoreGroups
import CapabilityRegistry.Proofs.Mappings.CoreVersion
import CapabilityRegistry.Proofs.Mappings.Extended
import CapabilityRegistry.Proofs.Mappings.FirstClaim
import CapabilityRegistry.Proofs.Mappings.ListSizes
import CapabilityRegistry.Proofs.Mappings.Partition
import CapabilityRegistry.Proofs.Mappings.Reordered
import CapabilityRegistry.Proofs.Mappings.Reportable
import CapabilityRegistry.Proofs.Markup.Entity
import CapabilityRegistry.Proofs.Markup.Events
import CapabilityRegistry.Proofs.Markup.MixedContent
import CapabilityRegistry.Proofs.Markup.RoundTrip
import CapabilityRegistry.Proofs.Markup.Tag
import CapabilityRegistry.Proofs.Member
import CapabilityRegistry.Proofs.Model
import CapabilityRegistry.Proofs.NameTable
import CapabilityRegistry.Proofs.Naming.DisplayName
import CapabilityRegistry.Proofs.Naming.SnakeCase
import CapabilityRegistry.Proofs.Naming.StructField
import CapabilityRegistry.Proofs.Numeral
import CapabilityRegistry.Proofs.Numeral.Grammar
import CapabilityRegistry.Proofs.Run
import CapabilityRegistry.Proofs.Success
import CapabilityRegistry.Proofs.Text
import CapabilityRegistry.Proofs.Traversal
import CapabilityRegistry.Proofs.ValueRange
import CapabilityRegistry.Proofs.Vectors
import CapabilityRegistry.Proofs.Walk
import CapabilityRegistry.Run
import CapabilityRegistry.Session
import CapabilityRegistry.Traversal.Printer
import CapabilityRegistry.Proofs.Markup.Acceptance
