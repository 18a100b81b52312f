import MarkupModule.CommandLine.Directory
import MarkupModule.Embedding
import MarkupModule.Main
import MarkupModule.Proofs.CommandLine.Batches
import MarkupModule.Proofs.Document.LineEndings
import MarkupModule.Proofs.Document.Order
import MarkupModule.Proofs.Encoding.Source
import MarkupModule.Proofs.Partition.Buckets
import MarkupModule.Proofs.Partition.Sorting
import MarkupModule.Proofs.Partition.Extraction
import MarkupModule.Proofs.Minification.OnePass
import MarkupModule.Proofs.Minification.Pieces
import MarkupModule.Proofs.Markup.TokenStream
import MarkupModule.Proofs.ModuleText.Layout
import MarkupModule.Proofs.ModuleText.Literals
import MarkupModule.Proofs.Component.Items
import MarkupModule.Proofs.Component.Module
import MarkupModule.Proofs.Construction.Content
import MarkupModule.Proofs.Construction.Readings
import MarkupModule.Proofs.RootTags.Agreement
import MarkupModule.Proofs.ModuleText.Failures
import MarkupModule.Proofs.ModuleText.Attribution
import MarkupModule.Proofs.ModuleText.Resources
import MarkupModule.Proofs.Link.Resolution
import MarkupModule.Proofs.ModuleText.Rules
import MarkupModule.Proofs.Embedding.Outcome
import MarkupModule.Proofs.Markup.ElementText
import MarkupModule.Proofs.Document.Cut
import MarkupModule.Proofs.Json.Literal
import MarkupModule.Proofs.Options.Spelling
import MarkupModule.Proofs.ModuleText.Counts
import MarkupModule.Proofs.ModuleText.Registrations
import MarkupModule.Proofs.RootTags.Pieces
import MarkupModule.Proofs.Rereading.Alone
import MarkupModule.Proofs.Rereading.TopLevel
import MarkupModule.Proofs.Options.Configuration
import MarkupModule.Proofs.CommandLine.JsonOutput
import MarkupModule.Proofs.RootTags.Offsets
