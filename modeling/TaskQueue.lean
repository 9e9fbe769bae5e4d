import TaskQueue.Json.Merge
import TaskQueue.Log
import TaskQueue.Script.Changes
import TaskQueue.Script.Consumer
import TaskQueue.Script.Database
import TaskQueue.Script.Greeting
import TaskQueue.Wire.Settings
import TaskQueue.Proofs.Changes
import TaskQueue.Proofs.Consumer.Delivery
import TaskQueue.Proofs.Consumer.Reclaim
import TaskQueue.Proofs.Consumer.Replacement
import TaskQueue.Proofs.Consumer.Resumption
import TaskQueue.Proofs.Cursor
import TaskQueue.Proofs.Cursor.Offsets
import TaskQueue.Proofs.Cursor.Parts
import TaskQueue.Proofs.Cursor.Queries
import TaskQueue.Proofs.Cursor.Reading
import TaskQueue.Proofs.Cursor.Splitting
import TaskQueue.Proofs.Cursor.Streaming
import TaskQueue.Proofs.Engine.Attempts
import TaskQueue.Proofs.Engine.Closing
import TaskQueue.Proofs.Engine.Conservation
import TaskQueue.Proofs.Engine.Deadline
import TaskQueue.Proofs.Engine.Dispatch
import TaskQueue.Proofs.Engine.Floor
import TaskQueue.Proofs.Engine.Lifecycle
import TaskQueue.Proofs.Engine.Limits
import TaskQueue.Proofs.Engine.Notices
import TaskQueue.Proofs.Engine.Operation
import TaskQueue.Proofs.Engine.Order
import TaskQueue.Proofs.Engine.Places
import TaskQueue.Proofs.Engine.Requeueing
import TaskQueue.Proofs.Engine.Traceless
import TaskQueue.Proofs.Engine.Wakeup
import TaskQueue.Proofs.Identifier
import TaskQueue.Proofs.Json.Document
import TaskQueue.Proofs.Json.Record
import TaskQueue.Proofs.Json.Shape
import TaskQueue.Proofs.Json.Text
import TaskQueue.Proofs.Json.Token
import TaskQueue.Proofs.Json.Value
import TaskQueue.Proofs.Producer.Departed
import TaskQueue.Proofs.Producer.Failing
import TaskQueue.Proofs.Producer.Hall
import TaskQueue.Proofs.Producer.Interference
import TaskQueue.Proofs.Producer.Leaving
import TaskQueue.Proofs.Producer.Ownership
import TaskQueue.Proofs.Producer.Stranding
import TaskQueue.Proofs.Producer.Turns
import TaskQueue.Proofs.Store.Change
import TaskQueue.Proofs.Store.Estimates
import TaskQueue.Proofs.Store.Index
import TaskQueue.Proofs.Store.Listings
import TaskQueue.Proofs.Store.References
import TaskQueue.Proofs.Store.Refusals
import TaskQueue.Proofs.Store.Representation
import TaskQueue.Proofs.Store.Sections
import TaskQueue.Proofs.Store.Serial
import TaskQueue.Proofs.Store.Sorted
import TaskQueue.Proofs.Text.Utf8
import TaskQueue.Proofs.Wire.Command
import TaskQueue.Proofs.Wire.Message
import TaskQueue.Proofs.Wire.Settings
import TaskQueue.Proofs.Wire.Tagged
