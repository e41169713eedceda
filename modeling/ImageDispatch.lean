import ImageDispatch.Boundary.Descriptor
import ImageDispatch.Boundary.Entry
import ImageDispatch.Boundary.Instances
import ImageDispatch.Cache.Basic
import ImageDispatch.Cache.Script
import ImageDispatch.Config
import ImageDispatch.Dispatch.Answer
import ImageDispatch.Dispatch.Extensions
import ImageDispatch.Dispatch.Foreign
import ImageDispatch.Dispatch.Registration
import ImageDispatch.Dispatch.Release
import ImageDispatch.Dispatch.Request
import ImageDispatch.Dispatch.World
import ImageDispatch.Error
import ImageDispatch.Extension.Descriptor
import ImageDispatch.Extension.Identity
import ImageDispatch.Extension.Parameter
import ImageDispatch.Facade.Basic
import ImageDispatch.Facade.Call
import ImageDispatch.Facade.Kind
import ImageDispatch.Format.Color
import ImageDispatch.Format.Pixel
import ImageDispatch.Instance.Id
import ImageDispatch.Instance.Table
import ImageDispatch.Library.Table
import ImageDispatch.Number.Binary32
import ImageDispatch.Order.Placed
import ImageDispatch.Order.SortedMap
import ImageDispatch.Rehearsal.Caches
import ImageDispatch.Rehearsal.Calls
import ImageDispatch.Rehearsal.Cast
import ImageDispatch.Rehearsal.Instances
import ImageDispatch.Rehearsal.Libraries
import ImageDispatch.Rehearsal.Lines
import ImageDispatch.Rehearsal.Maps
import ImageDispatch.Rehearsal.Script
import ImageDispatch.Rehearsal.Session
import ImageDispatch.Rehearsal.Shelf
import ImageDispatch.Selection.Candidate
import ImageDispatch.Selection.Key
import ImageDispatch.Selection.Query
import ImageDispatch.Surface.Basic
import ImageDispatch.Surface.Copy
import ImageDispatch.Surface.Frame
import ImageDispatch.Telemetry.Event
import ImageDispatch.Text.CodePoints
import ImageDispatch.Text.Quoted
import ImageDispatch.Text.Record
import ImageDispatch.Text.Setting
import ImageDispatch.Proofs.Cache.Contents
import ImageDispatch.Proofs.Lifetime.Calls
import ImageDispatch.Proofs.Lifetime.Order
import ImageDispatch.Proofs.Lifetime.Triple
import ImageDispatch.Proofs.Lifetime.Plain
import ImageDispatch.Proofs.Lifetime.Release
import ImageDispatch.Proofs.Lifetime.Creation
import ImageDispatch.Proofs.Lifetime.Implementations
import ImageDispatch.Proofs.Lifetime.Facades
import ImageDispatch.Proofs.Instance.Slots
import ImageDispatch.Proofs.Instance.PartialMap
import ImageDispatch.Proofs.Instance.Generations
import ImageDispatch.Proofs.Leases.Journal
import ImageDispatch.Proofs.Leases.Books
import ImageDispatch.Proofs.Leases.Fair
import ImageDispatch.Proofs.Lifetime.Entry
import ImageDispatch.Proofs.Lifetime.Run
import ImageDispatch.Proofs.Selection.Claimants
import ImageDispatch.Proofs.Selection.Find
import ImageDispatch.Proofs.Cache.Recency
import ImageDispatch.Proofs.Cache.Inclusion
import ImageDispatch.Proofs.Cache.Refinement
import ImageDispatch.Proofs.Cache.Reentry
import ImageDispatch.Proofs.Cache.Guards
import ImageDispatch.Proofs.Leases.Users
import ImageDispatch.Proofs.Leases.Objects
import ImageDispatch.Proofs.Leases.Facades
import ImageDispatch.Proofs.Leases.Implementations
import ImageDispatch.Proofs.Leases.Requests
import ImageDispatch.Proofs.Leases.Entry
import ImageDispatch.Proofs.Leases.Run
import ImageDispatch.Proofs.Boundary.Outcome
import ImageDispatch.Proofs.Boundary.Run
import ImageDispatch.Proofs.Policy.Behaviour
import ImageDispatch.Proofs.Policy.Supply
import ImageDispatch.Proofs.Policy.Stock
import ImageDispatch.Proofs.Policy.Resolution
import ImageDispatch.Proofs.Policy.Calls
import ImageDispatch.Proofs.Policy.Run
import ImageDispatch.Proofs.Boundary.Memory
import ImageDispatch.Proofs.Attempts.Pushes
import ImageDispatch.Proofs.Surface.Copy
import ImageDispatch.Proofs.Attempts.Ladder
import ImageDispatch.Proofs.Attempts.Handover
import ImageDispatch.Proofs.Lookups.Quiet
import ImageDispatch.Proofs.Breaker.Tally
import ImageDispatch.Proofs.Breaker.Calls
import ImageDispatch.Proofs.Selection.Levels
import ImageDispatch.Proofs.Selection.Sources
import ImageDispatch.Proofs.Surface.Size
import ImageDispatch.Proofs.Surface.Chroma
import ImageDispatch.Proofs.Boundary.RoundTrip
import ImageDispatch.Proofs.Library.Registration
import ImageDispatch.Proofs.Lookups.Obtain
import ImageDispatch.Proofs.Lookups.Course
import ImageDispatch.Proofs.Lookups.Counters
import ImageDispatch.Proofs.Lookups.Sharing
