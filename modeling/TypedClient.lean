import TypedClient.Main
import TypedClient.Proofs.Acceptance
import TypedClient.Proofs.Accounting
import TypedClient.Proofs.Aliases
import TypedClient.Proofs.Attributes
import TypedClient.Proofs.Bindings
import TypedClient.Proofs.Capitals
import TypedClient.Proofs.ClosedPackage
import TypedClient.Proofs.Completion
import TypedClient.Proofs.Composition
import TypedClient.Proofs.Docstrings
import TypedClient.Proofs.EnumReferences
import TypedClient.Proofs.Expansion
import TypedClient.Proofs.Extraction
import TypedClient.Proofs.Functions
import TypedClient.Proofs.Headers
import TypedClient.Proofs.Hygiene
import TypedClient.Proofs.InterfaceName
import TypedClient.Proofs.KnownTypes
import TypedClient.Proofs.LazyReading
import TypedClient.Proofs.Members
import TypedClient.Proofs.NamedLiterals
import TypedClient.Proofs.Overriding
import TypedClient.Proofs.Pointers
import TypedClient.Proofs.QueryArrays
import TypedClient.Proofs.Reachability
import TypedClient.Proofs.ReferenceNames
import TypedClient.Proofs.Refusals
import TypedClient.Proofs.Reloading
import TypedClient.Proofs.Requiredness
import TypedClient.Proofs.Resolution
import TypedClient.Proofs.Results
import TypedClient.Proofs.Skipping
import TypedClient.Proofs.Spellings
import TypedClient.Proofs.TidyNames
import TypedClient.Proofs.ValidNames
import TypedClient.Proofs.WrittenOrder
import TypedClient.Source.Reading
