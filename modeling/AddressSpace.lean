import AddressSpace.Json.Reader
import AddressSpace.Manager
import AddressSpace.Simulation.Description
import AddressSpace.Proofs.Crawl.Descent
import AddressSpace.Proofs.Crawl.Planting
import AddressSpace.Proofs.Crawl.Lineage
import AddressSpace.Proofs.Crawl.Chart
import AddressSpace.Proofs.NamespaceTable
import AddressSpace.Proofs.Renaming
import AddressSpace.Proofs.Renaming.Browser
import AddressSpace.Proofs.Renaming.Survey
import AddressSpace.Proofs.Renaming.Rebuild
import AddressSpace.Proofs.Renaming.Values
import AddressSpace.Proofs.Keeping.Session
import AddressSpace.Proofs.Manager.History
import AddressSpace.Proofs.Manager.Published
import AddressSpace.Proofs.Space
import AddressSpace.Proofs.Space.Answers
import AddressSpace.Proofs.TypeLibrary
import AddressSpace.Proofs.TypeLibrary.Agreement
import AddressSpace.Proofs.TypeLibrary.MachineTypes
import AddressSpace.Proofs.Space.Tree
import AddressSpace.Proofs.Space.Supertypes
import AddressSpace.Proofs.Space.Types
import AddressSpace.Proofs.Space.Rebuild
import AddressSpace.Proofs.Crawl.Growth
import AddressSpace.Proofs.Merge
import AddressSpace.Proofs.Substitution
import AddressSpace.Proofs.Substitution.Unfolding
import AddressSpace.Proofs.Crawl.Flatten
import AddressSpace.Proofs.Ascent
import AddressSpace.Proofs.Manager.Items
import AddressSpace.Proofs.Manager.Subscriptions
import AddressSpace.Proofs.Requests
import AddressSpace.Proofs.Pages
import AddressSpace.Proofs.NamespaceTable.RoundTrip
import AddressSpace.Proofs.NamespaceTable.Canonical
import AddressSpace.Proofs.WireId
import AddressSpace.Proofs.Manager.Course
import AddressSpace.Proofs.Manager.Time
import AddressSpace.Proofs.Manager.Shutdown
import AddressSpace.Proofs.Instances
import AddressSpace.Proofs.Crawl.Depth
import AddressSpace.Proofs.Crawl.Rounds
import AddressSpace.Proofs.NamespaceTable.Upkeep
import AddressSpace.Proofs.Path
import AddressSpace.Proofs.Manager.Unsubscribe
import AddressSpace.Proofs.Crawl.Consistency
import AddressSpace.Proofs.Identifier.Grammar
import AddressSpace.Proofs.NodeId
import AddressSpace.Proofs.WireId.Grammar
import AddressSpace.Proofs.Config
