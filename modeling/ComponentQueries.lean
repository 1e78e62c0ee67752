import ComponentQueries.Command
import ComponentQueries.Command.Snapshot
import ComponentQueries.Diagnostic
import ComponentQueries.Digest.Md5
import ComponentQueries.Extraction
import ComponentQueries.GraphQL.Document.Parse
import ComponentQueries.GraphQL.Minify
import ComponentQueries.Language
import ComponentQueries.Main
import ComponentQueries.Naming
import ComponentQueries.Prefilter
import ComponentQueries.Session
import ComponentQueries.Text.CellWidth
import ComponentQueries.Text.Hex
import ComponentQueries.Text.Position
import ComponentQueries.Watcher
import ComponentQueries.Workspace
import ComponentQueries.Proofs.Scope.Declarations
import ComponentQueries.Proofs.Scope.LexicalScoping
import ComponentQueries.Proofs.Scope.DeclaredNames
import ComponentQueries.Proofs.Text.Boundaries
import ComponentQueries.Proofs.Extraction.Faults
import ComponentQueries.Proofs.Extraction.FirstFault
import ComponentQueries.Proofs.Extraction.Routes
import ComponentQueries.Proofs.Extraction.Deduplication
import ComponentQueries.Proofs.Extraction.Exactness
import ComponentQueries.Proofs.Extraction.PrefilterSafety
import ComponentQueries.Proofs.Session.Answers
import ComponentQueries.Proofs.Session.CacheRaces
import ComponentQueries.Proofs.Session.CacheTransparency
import ComponentQueries.Proofs.Session.Attribution
import ComponentQueries.Proofs.Session.Outcomes
import ComponentQueries.Proofs.Session.BatchOrder
import ComponentQueries.Proofs.Text.Points
import ComponentQueries.Proofs.GraphQL.TokenPlaces
import ComponentQueries.Proofs.GraphQL.ErrorPlaces
import ComponentQueries.Proofs.SyntaxTree.TemplateBodies
import ComponentQueries.Proofs.Diagnostic.FragmentErrors
import ComponentQueries.Proofs.Extraction.FragmentRanges
import ComponentQueries.Proofs.Session.Locations
import ComponentQueries.Proofs.Extraction.ConfigExports
import ComponentQueries.Proofs.Extraction.CommentIrrelevance
import ComponentQueries.Proofs.Command.Display
import ComponentQueries.Proofs.Command.ExitStatus
import ComponentQueries.Proofs.Scope.AliasChains
import ComponentQueries.Proofs.Session.OwnHistory
import ComponentQueries.Proofs.Text.ByteOffsets
import ComponentQueries.Proofs.SyntaxTree.FaultSearch
import ComponentQueries.Proofs.SyntaxTree.StackWalk
import ComponentQueries.Proofs.CodeFrame.Layout
import ComponentQueries.Proofs.CodeFrame.Excerpt
import ComponentQueries.Proofs.CodeFrame.Carets
import ComponentQueries.Proofs.CodeFrame.Colours
import ComponentQueries.Proofs.GraphQL.DefinitionNames
import ComponentQueries.Proofs.Naming.GeneratedNames
import ComponentQueries.Proofs.Naming.NamedDocuments
import ComponentQueries.Proofs.Extraction.FragmentNames
import ComponentQueries.Proofs.Extraction.Relocation
import ComponentQueries.Proofs.Scope.BindingPatterns
