import Mqtt.Library.LoggedMachine
import Mqtt.Library.Loop
import Mqtt.Library.BoundedWriter
import Mqtt.Library.Since
import Mqtt.Library.KeyedTable
import Mqtt.Library.PairedTables
import Mqtt.Library.CheckedReads
import Mqtt.Library.FrameSplitter
import Mqtt.Library.Handshake
import Mqtt.Library.Courier
import Mqtt.Library.Custody
import Mqtt.Library.Reader
import Mqtt.Library.Fifo
import Mqtt.Error
import Mqtt.Wire.Packet
import Mqtt.Wire.Topic
import Mqtt.Wire.Codec
import Mqtt.Wire.Encoding
import Mqtt.Wire.Framing
import Mqtt.Wire.Requests
import Mqtt.Wire.Utf8
import Mqtt.Wire.Levels
import Mqtt.Wire.Views
import Mqtt.Wire.RoundTrip
import Mqtt.Wire.RemainingLength
import Mqtt.Wire.Reference
import Mqtt.Wire.SizeWidth
import Mqtt.Client.Config
import Mqtt.Client.TxQueue
import Mqtt.Client.QueueCells
import Mqtt.Client.State
import Mqtt.Client.Calls
import Mqtt.Client.Receive
import Mqtt.Client.Timers
import Mqtt.Client.Transmit
import Mqtt.Client.Reservation
import Mqtt.Client.PacketEffects
import Mqtt.Client.CallEffects
import Mqtt.Client.TimerEffects
import Mqtt.Client.Machine
import Mqtt.Client.LabelEffects
import Mqtt.Client.Alike
import Mqtt.Client.AlikeReactions
import Mqtt.Client.Checked
import Mqtt.Client.CheckedEffects
import Mqtt.Client.Run
import Mqtt.Client.Control
import Mqtt.Client.Refinement
import Mqtt.Client.RunRule
import Mqtt.Client.BigStep
import Mqtt.Client.Places
import Mqtt.Client.Accounting
import Mqtt.Client.Allocation
import Mqtt.Session.InboundIds
import Mqtt.Session.LostSession
import Mqtt.Session.Slots
import Mqtt.Session.Backpressure
import Mqtt.Session.SlotFate
import Mqtt.Session.Stored
import Mqtt.Session.Outgoing
import Mqtt.Session.Disconnecting
import Mqtt.Session.GracefulEnd
import Mqtt.Session.TransportUse
import Mqtt.Session.Arrivals
import Mqtt.Session.BoundedSteps
import Mqtt.Session.ByteStream
import Mqtt.Session.Reception
import Mqtt.Session.Reasons
import Mqtt.Session.Reporting
import Mqtt.Session.Retransmission
import Mqtt.Session.RetransmitOrder
import Mqtt.Session.WholeCopies
import Mqtt.Session.Owed
import Mqtt.Session.SubscriptionTable
import Mqtt.Session.PacketIds
import Mqtt.Session.WireDiscipline
import Mqtt.Session.Bracketing
import Mqtt.Session.EarlyPackets
import Mqtt.Session.Filters
import Mqtt.Session.Atomicity
import Mqtt.Session.TableInvariant
import Mqtt.Session.Asking
import Mqtt.Session.CrowdedTable
import Mqtt.Session.TwinRuns
import Mqtt.Session.PumpPasses
import Mqtt.Session.AckIdentity
import Mqtt.Session.TableSpace
import Mqtt.Session.RecycledIds
import Mqtt.Session.LiveFilters
import Mqtt.Session.Resubscription
import Mqtt.Session.Withdrawal
import Mqtt.Session.NeedlessResend
import Mqtt.Session.Indistinguishable
import Mqtt.Session.Conservation
import Mqtt.Session.Answers
import Mqtt.Session.CheckedRuns
import Mqtt.Session.Routing
import Mqtt.Session.ReceiveSafety
import Mqtt.Session.KeepAlive
import Mqtt.Session.Probing
import Mqtt.Session.ValidMessages
import Mqtt.Session.WellNamed
import Mqtt.Session.Postings
import Mqtt.Net.Link
import Mqtt.Net.Schedule
import Mqtt.Net.Sending
import Mqtt.Net.ExactlyOnce
import Mqtt.Net.Subscribing
import Mqtt.Net.Agreement
import Mqtt.Net.Receiving
import Mqtt.Net.Delivered
