import Scanout.Log.Journal
import Scanout.Proofs.References.Books
import Scanout.Proofs.Table
import Scanout.Service.Setup
import Scanout.Settings.Load
import Scanout.Simulation.Bench
import Scanout.Simulation.Shelf
import Scanout.Proofs.References.Displays
import Scanout.Proofs.References.Batches
import Scanout.Proofs.Captures.Session
import Scanout.Proofs.References.Captures
import Scanout.Proofs.References.Conservation
import Scanout.Proofs.Captures.Attendance
import Scanout.Proofs.Captures.Operations
import Scanout.Proofs.Captures.Order
import Scanout.Proofs.Slots.Abstraction
import Scanout.Proofs.Slots.Changes
import Scanout.Proofs.Slots.Refinement
import Scanout.Proofs.Coupling
import Scanout.Proofs.Batches.Writing
import Scanout.Proofs.Batches.Containment
import Scanout.Proofs.Commits.Payloads
import Scanout.Proofs.Batches.Brightness
import Scanout.Proofs.Batches.Colour
import Scanout.Proofs.Commits.Agreement
import Scanout.Proofs.Batches.Fields
import Scanout.Proofs.Batches.Order
import Scanout.Proofs.Commits.History
import Scanout.Proofs.Reentry
import Scanout.Proofs.Batches.Stretches
import Scanout.Proofs.Outline
import Scanout.Proofs.Play
import Scanout.Proofs.Batches.Local
import Scanout.Proofs.Batches.Turns
import Scanout.Proofs.Batches.Independence
import Scanout.Proofs.Clients.Ledger
import Scanout.Proofs.Clients.World
import Scanout.Proofs.Captures.Presence
import Scanout.Proofs.Clients.Tidy
import Scanout.Proofs.Clients.Calls
import Scanout.Proofs.Clients.Teardown
import Scanout.Proofs.Batches.Splitting
import Scanout.Proofs.Batches.Custody
import Scanout.Proofs.Commits.Outcomes
import Scanout.Proofs.Threads
import Scanout.Proofs.Clients.Crowd
import Scanout.Proofs.Clients.Discretion
import Scanout.Proofs.Clients.Tenancy
import Scanout.Proofs.Clients.Parties
import Scanout.Proofs.Clients.Succession
import Scanout.Proofs.Batches.Readback
import Scanout.Proofs.Captures.Completion
import Scanout.Proofs.Commits.Coherence
import Scanout.Proofs.Clients.Vanishing
import Scanout.Proofs.Log.Setup
import Scanout.Proofs.Batches.Footprint
import Scanout.Proofs.Settings.Loading
import Scanout.Proofs.Queries
