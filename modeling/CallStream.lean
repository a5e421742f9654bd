import CallStream.Boxing.Id
import CallStream.Boxing.Table
import CallStream.Bytes
import CallStream.Call.Basic
import CallStream.Call.Catalog
import CallStream.Call.Command
import CallStream.Call.CommandBuffer
import CallStream.Call.Descriptor
import CallStream.Call.Device
import CallStream.Call.Memory
import CallStream.Call.Pipeline
import CallStream.Call.RenderPass
import CallStream.Call.Resource
import CallStream.Call.Synchronization
import CallStream.Capture.Command
import CallStream.Capture.Header
import CallStream.Capture.Stream
import CallStream.Codec.Count
import CallStream.Codec.Decode
import CallStream.Codec.Encode
import CallStream.Codec.Params
import CallStream.CommandLine
import CallStream.Decimal.Binary32
import CallStream.Decimal.Shortest
import CallStream.Handle
import CallStream.Listing.Basic
import CallStream.Listing.Command
import CallStream.Listing.Field
import CallStream.Listing.HexDump
import CallStream.Listing.Label
import CallStream.Main
import CallStream.Names.Enums
import CallStream.Names.Flags
import CallStream.Names.Table
import CallStream.Packet
import CallStream.Proofs.Codec.Reading
import CallStream.Proofs.Step
import CallStream.Schema.Basic
import CallStream.Schema.Catalog
import CallStream.Schema.Command
import CallStream.Schema.Descriptor
import CallStream.Schema.Device
import CallStream.Schema.Pipeline
import CallStream.Schema.RenderPass
import CallStream.Schema.Resource
import CallStream.Scratch
import CallStream.Session.Collaborators
import CallStream.Session.Config
import CallStream.Session.CreatedHandles
import CallStream.Session.Decode
import CallStream.Session.Error
import CallStream.Session.Execute
import CallStream.Session.MappedRange
import CallStream.Session.Reply
import CallStream.Session.Request
import CallStream.Session.Scripted
import CallStream.Session.Shared
import CallStream.Session.Snapshot
import CallStream.Session.State
import CallStream.Text.CharClass.Basic
import CallStream.Text.CharClass.GraphemeExtend
import CallStream.Text.CharClass.Unprintable
import CallStream.Text.Number
import CallStream.Text.Quoted
import CallStream.Text.Sink
import CallStream.Value.Basic
import CallStream.Value.Display
import CallStream.Value.Handles
import CallStream.Value.Update
import CallStream.Wire.Cursor
import CallStream.Wire.Error
import CallStream.Wire.IntType
import CallStream.Wire.Sink
import CallStream.Wire.Text
import CallStream.Proofs.Codec.Size
import CallStream.Proofs.Codec.Layout
import CallStream.Proofs.Codec.Canonical
import CallStream.Proofs.Codec.Typing
import CallStream.Proofs.Codec.Writing
import CallStream.Proofs.Codec.RoundTrip
import CallStream.Proofs.Codec.Respelling
import CallStream.Proofs.Listing.Follows
import CallStream.Proofs.Listing.Agreement
import CallStream.Proofs.Session.History
import CallStream.Proofs.Session.Splitting
import CallStream.Proofs.Boxing.LiveIds
import CallStream.Proofs.Boxing.Generations
import CallStream.Proofs.Boxing.Growth
import CallStream.Proofs.Codec.Counting
import CallStream.Proofs.Codec.MapperState
import CallStream.Proofs.Codec.Mapping
import CallStream.Proofs.Session.Lifetime
import CallStream.Proofs.Session.Prefix
import CallStream.Proofs.Session.Residue
import CallStream.Proofs.Session.Refusal
import CallStream.Proofs.Session.Destruction
import CallStream.Proofs.Framing
import CallStream.Proofs.Capture.Recovery
import CallStream.Proofs.Codec.Locality
import CallStream.Proofs.Session.Recording
import CallStream.Proofs.Boxing.Entering
import CallStream.Proofs.Session.Outputs
import CallStream.Proofs.Session.Writeback
import CallStream.Proofs.Codec.Truncation
import CallStream.Proofs.Codec.Leaves
import CallStream.Proofs.Session.SnapshotLoad
import CallStream.Proofs.Session.GuestIds
import CallStream.Proofs.Session.FlushedRanges
import CallStream.Proofs.Session.Flush
import CallStream.Proofs.Session.Invalidate
import CallStream.Proofs.Capture.Damage
import CallStream.Proofs.Listing.Cut
import CallStream.Proofs.Boxing.Reissue
import CallStream.Proofs.Scratch
import CallStream.Proofs.Wire.Text
import CallStream.Proofs.Codec.Room
import CallStream.Proofs.Boxing.Reservations
import CallStream.Proofs.Listing.HexDump
import CallStream.Proofs.CommandLine
import CallStream.Proofs.Session.Observers
import CallStream.Proofs.Wire.Residue
import CallStream.Proofs.Capture.Time
