import CardGrove.Client.Ask
import CardGrove.Main
import CardGrove.Service
import CardGrove.Proofs.Forest.Gap
import CardGrove.Proofs.Forest.Growth
import CardGrove.Proofs.Forest.Arena
import CardGrove.Proofs.Forest.Seating
import CardGrove.Proofs.Forest.Expansion
import CardGrove.Proofs.Forest.Conservation
import CardGrove.Proofs.Forest.Maximality
import CardGrove.Proofs.Forest.Reachability
import CardGrove.Proofs.Number.Order
import CardGrove.Proofs.Number.SignedZero
import CardGrove.Proofs.Forest.BestSlot
import CardGrove.Proofs.Game.Wording
import CardGrove.Proofs.Game.Endings
import CardGrove.Proofs.Json.Depth
import CardGrove.Proofs.Text.Encoding
import CardGrove.Proofs.Json.Within
import CardGrove.Proofs.Json.Scalars
import CardGrove.Proofs.Json.Numerals
import CardGrove.Proofs.Json.RoundTrip
import CardGrove.Proofs.Award.Matches
import CardGrove.Proofs.Catalog.FirstDefinitions
import CardGrove.Proofs.Reading.Gives
import CardGrove.Proofs.Catalog.Writable
import CardGrove.Proofs.Label.Blanks
import CardGrove.Proofs.Service.Agreement
import CardGrove.Proofs.Fixture.Printing
import CardGrove.Proofs.Forest.Agreement
import CardGrove.Proofs.Forest.Reordering
import CardGrove.Proofs.Forest.Traversal
import CardGrove.Proofs.Game.Accounting
import CardGrove.Proofs.Contest.Title
import CardGrove.Proofs.Contest.Memory
import CardGrove.Proofs.Contest.Outcome
import CardGrove.Proofs.Contest.Counting
import CardGrove.Proofs.Game.Lockstep
import CardGrove.Proofs.Game.Layouts
import CardGrove.Proofs.Game.PlainContests
import CardGrove.Proofs.Game.SeatingOrder
import CardGrove.Proofs.Game.Isolation
import CardGrove.Proofs.Game.Losing
import CardGrove.Proofs.Sorting.Naturality
import CardGrove.Proofs.Forest.Naturality
import CardGrove.Proofs.Forest.Renumbering
import CardGrove.Proofs.Forest.Deletion
import CardGrove.Proofs.Forest.Rearrangement
import CardGrove.Proofs.Forest.Placement
import CardGrove.Proofs.Game.Tally
import CardGrove.Proofs.Game.DetectionOrder
import CardGrove.Proofs.Game.Doubles
import CardGrove.Proofs.Game.Containment
import CardGrove.Proofs.Game.Scope
import CardGrove.Proofs.Catalog.Classification
import CardGrove.Proofs.Service.Requests
import CardGrove.Proofs.TableGroups.Packing
import CardGrove.Proofs.TableGroups.Assignment
import CardGrove.Proofs.TableGroups.Walk
import CardGrove.Proofs.TableGroups.Family
import CardGrove.Proofs.Contest.Winners
import CardGrove.Proofs.Sorting.Order
import CardGrove.Proofs.Sorting.Merging
import CardGrove.Proofs.Sorting.Neighbours
import CardGrove.Proofs.Sorting.Stability
import CardGrove.Proofs.Forest.ReadingOrder
import CardGrove.Proofs.Forest.Coverage
import CardGrove.Proofs.Forest.DisplayOrder
import CardGrove.Proofs.Forest.Indices
import CardGrove.Proofs.Forest.Transposition
import CardGrove.Proofs.Forest.Mutuality
import CardGrove.Proofs.Forest.NearestFirst
import CardGrove.Proofs.Forest.Measurement
import CardGrove.Proofs.Contest.Spelling
