import ComponentTags.Batch
import ComponentTags.Compile
import ComponentTags.Discovery
import ComponentTags.Format.Failure
import ComponentTags.Format.Node
import ComponentTags.Format.Options
import ComponentTags.Proofs.Batch.Interleaving
import ComponentTags.Proofs.Batch.Job
import ComponentTags.Proofs.Batch.Schedule
import ComponentTags.Proofs.Discovery.DeclaredName
import ComponentTags.Proofs.Discovery.LastWins
import ComponentTags.Proofs.Discovery.PlaceOrder
import ComponentTags.Proofs.Forest.Contract
import ComponentTags.Proofs.Forest.Diagnostics
import ComponentTags.Proofs.Forest.Growth
import ComponentTags.Proofs.Forest.Listing
import ComponentTags.Proofs.Forest.Passes
import ComponentTags.Proofs.Forest.Walk
import ComponentTags.Proofs.Format.Node
import ComponentTags.Proofs.Format.Options
import ComponentTags.Proofs.Format.Reloading
import ComponentTags.Proofs.Html.Root
import ComponentTags.Proofs.Html.RootRules
import ComponentTags.Proofs.Html.RootedDocument
import ComponentTags.Proofs.Html.Siblings
import ComponentTags.Proofs.Html.Tags
import ComponentTags.Proofs.Json.Faithful
import ComponentTags.Proofs.Json.Nesting
import ComponentTags.Proofs.Json.Reading
import ComponentTags.Proofs.Json.Scalars
import ComponentTags.Proofs.Json.Yields
import ComponentTags.Proofs.Name.Hyphenation
import ComponentTags.Proofs.Name.KebabCase
import ComponentTags.Proofs.Name.Spelling
import ComponentTags.Proofs.Registry.Aliasing
import ComponentTags.Proofs.Registry.Guard
import ComponentTags.Proofs.Registry.History
import ComponentTags.Proofs.Registry.Loading
import ComponentTags.Proofs.Registry.NameMap
import ComponentTags.Proofs.Resolve.KebabCase
import ComponentTags.Proofs.Resolve.NearMiss
import ComponentTags.Proofs.Resolve.Outcome
import ComponentTags.Proofs.Resolve.Suggestion
import ComponentTags.Proofs.Template.Expansion
import ComponentTags.Proofs.Template.Flatten
import ComponentTags.Proofs.Template.SelfClosing
import ComponentTags.Proofs.Template.Siblings
import ComponentTags.Proofs.Template.Verbatim
import ComponentTags.Proofs.Template.VoidTags
import ComponentTags.Proofs.Template.Wrappers
