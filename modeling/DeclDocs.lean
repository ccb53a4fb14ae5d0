import DeclDocs.Host.Refusing
import DeclDocs.Main
import DeclDocs.Proofs.Layout.Attached
import DeclDocs.Proofs.Layout.Text
import DeclDocs.Proofs.Layout.FlatForm
import DeclDocs.Proofs.Layout.Canonical
import DeclDocs.Proofs.Layout.FixedPoint
import DeclDocs.Proofs.Layout.Glued
import DeclDocs.Proofs.Layout.Nests
import DeclDocs.Proofs.Telescope.Text
import DeclDocs.Proofs.Export.Record
import DeclDocs.Proofs.Document.Rendering
import DeclDocs.Proofs.Json.ReadBack
import DeclDocs.Proofs.Document.Grouped
import DeclDocs.Proofs.Document.ReadBack
import DeclDocs.Proofs.Document.ModuleDocs
import DeclDocs.Proofs.Export.Outcome
import DeclDocs.Proofs.Markup.Grammar
import DeclDocs.Proofs.Export.Answers
import DeclDocs.Proofs.Export.Acceptance
import DeclDocs.Proofs.Export.Instances
import DeclDocs.Proofs.Export.Tactics
import DeclDocs.Proofs.Export.Document
import DeclDocs.Proofs.Export.Containment
import DeclDocs.Proofs.Export.Independence
import DeclDocs.Proofs.Imports.Reachability
import DeclDocs.Proofs.Document.Dropping
import DeclDocs.Proofs.Export.Consistency
import DeclDocs.Proofs.Export.Totality
import DeclDocs.Proofs.Workspace.Writing
import DeclDocs.Proofs.Text.Utf8
import DeclDocs.Proofs.Dump.Loading
import DeclDocs.Proofs.Command.Run
import DeclDocs.Proofs.Document.Encodings
import DeclDocs.Proofs.Layout.Widening
import DeclDocs.Proofs.Layout.Commuting
import DeclDocs.Proofs.Layout.Mirror
import DeclDocs.Proofs.Layout.Simplified
import DeclDocs.Proofs.Layout.Foreign
import DeclDocs.Proofs.Layout.Walks
import DeclDocs.Proofs.List.First
import DeclDocs.Proofs.Markup.Reading
import DeclDocs.Proofs.Export.Labels
import DeclDocs.Proofs.Checked.Location
import DeclDocs.Proofs.Checked.Reading
import DeclDocs.Proofs.Checked.Writing
import DeclDocs.Proofs.Dump.Validation
