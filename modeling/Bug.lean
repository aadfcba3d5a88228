import Bug.Audio.Channels
import Bug.Audio.Client
import Bug.Audio.Collector
import Bug.Audio.Delivered
import Bug.Audio.Handshake
import Bug.Audio.Isolation
import Bug.Audio.Lifecycle
import Bug.Audio.Lossless
import Bug.Audio.Provenance
import Bug.Audio.Routing
import Bug.Audio.Samples
import Bug.Audio.Shutdown
import Bug.Audio.Stream
import Bug.Audio.Threshold
import Bug.Db.Jsonb
import Bug.Delivery.AtLeastOnce
import Bug.Delivery.Secret
import Bug.Event.Backend
import Bug.Event.Broadcast
import Bug.Event.Connection
import Bug.Firmware.App
import Bug.Firmware.Overflow
import Bug.Firmware.Ownership
import Bug.Firmware.Reconnect
import Bug.Firmware.Recovery
import Bug.Firmware.Symmetry
import Bug.Frontend.Calendar
import Bug.Frontend.Cascade
import Bug.Frontend.CreateLabel
import Bug.Frontend.Deletion
import Bug.Frontend.EventList
import Bug.Frontend.Index
import Bug.Frontend.LabelRule
import Bug.Frontend.Listing
import Bug.Frontend.Loading
import Bug.Frontend.Pending
import Bug.Frontend.Site
import Bug.Frontend.Wire
