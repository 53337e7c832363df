import PackageSearch.Main
import PackageSearch.Proofs.Json.Syntax
import PackageSearch.Proofs.Access.Decisions
import PackageSearch.Proofs.Uplink.Feed
import PackageSearch.Proofs.Uplink.Objects
import PackageSearch.Proofs.Uplink.Batches
import PackageSearch.Proofs.Merge.Conduct
import PackageSearch.Proofs.Merge.Protocol
import PackageSearch.Proofs.Merge.Arrivals
import PackageSearch.Proofs.Merge.Outcome
import PackageSearch.Proofs.Merge.Course
import PackageSearch.Proofs.Merge.Run
import PackageSearch.Proofs.Merge.Schedule
import PackageSearch.Proofs.Search.Return
import PackageSearch.Proofs.Search.Answer
import PackageSearch.Proofs.Search.Completion
import PackageSearch.Proofs.Search.Abort
import PackageSearch.Proofs.Search.Mending
import PackageSearch.Proofs.Search.Transparency
import PackageSearch.Proofs.Search.Reordering
import PackageSearch.Proofs.Access.Flight
import PackageSearch.Proofs.Text.Utf8
import PackageSearch.Proofs.Index.Catalog
import PackageSearch.Proofs.Json.Numeral
import PackageSearch.Proofs.Number.Finite
import PackageSearch.Proofs.Json.Quoted
import PackageSearch.Proofs.Json.Written
import PackageSearch.Proofs.Json.Reading
import PackageSearch.Proofs.Json.Rereading
import PackageSearch.Proofs.Json.Parts
import PackageSearch.Proofs.Json.Members
import PackageSearch.Proofs.Package.People
import PackageSearch.Proofs.Package.Listings
import PackageSearch.Proofs.Package.Manifests
import PackageSearch.Proofs.Package.WireFormat
import PackageSearch.Proofs.Index.Projection
import PackageSearch.Proofs.Uplink.Truncation
import PackageSearch.Proofs.Uplink.Losses
import PackageSearch.Proofs.Uplink.Elements
import PackageSearch.Proofs.Search.Origins
import PackageSearch.Proofs.Package.Names
import PackageSearch.Proofs.Search.Catalog
import PackageSearch.Proofs.Number.Rounding
import PackageSearch.Proofs.Number.Shortest
import PackageSearch.Proofs.Number.Displayed
import PackageSearch.Proofs.Query.Forwarding
import PackageSearch.Proofs.Uplink.Taken
import PackageSearch.Proofs.Uplink.Malformed
import PackageSearch.Proofs.Uplink.Slices
import PackageSearch.Proofs.Package.Versions
import PackageSearch.Proofs.Package.Current
import PackageSearch.Proofs.Text.Runs
import PackageSearch.Proofs.Index.Words
import PackageSearch.Proofs.Index.Answers
import PackageSearch.Proofs.Text.CharacterSets
import PackageSearch.Proofs.Text.LetterCase
import PackageSearch.Proofs.Index.Infix
import PackageSearch.Proofs.Pattern.Literal
import PackageSearch.Proofs.Pattern.Classes
import PackageSearch.Proofs.Storage.Paths
import PackageSearch.Proofs.Storage.Walk
import PackageSearch.Proofs.Storage.Discovery
import PackageSearch.Proofs.Storage.Leaves
import PackageSearch.Proofs.Package.NamePaths
import PackageSearch.Proofs.Text.Words
import PackageSearch.Proofs.Query.Conjunction
import PackageSearch.Proofs.Package.Stability
import PackageSearch.Proofs.Query.MachineWords
import PackageSearch.Proofs.Query.Page
