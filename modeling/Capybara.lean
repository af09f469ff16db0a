import Capybara.Lib.SerialNumbers
import Capybara.Lib.Runs
import Capybara.Lib.Slices
import Capybara.Lib.EndMarkers
import Capybara.Lib.Wire
import Capybara.Lib.Isolation
import Capybara.Runtime.Machine
import Capybara.Runtime.Buffer
import Capybara.Tcp.SequenceNumber
import Capybara.Tcp.Segment
import Capybara.Tcp.Established.CongestionControl
import Capybara.Tcp.Established.Sender
import Capybara.Tcp.Established.ControlBlock
import Capybara.Tcp.Established.Receive
import Capybara.Tcp.Established.Background
import Capybara.Tcp.Established.Connection
import Capybara.Tcp.Established.Window
import Capybara.Tcp.Established.View
import Capybara.Tcp.Established.Transmission
import Capybara.Tcp.Established.Reception
import Capybara.Tcp.Established.OutOfOrderStore
import Capybara.Tcp.Established.StreamIntegrity
import Capybara.Tcp.Established.Faults
import Capybara.Tcp.Established.WindowAccounting
import Capybara.Tcp.Established.Reassembly
import Capybara.Tcp.Established.Progress
import Capybara.Tcp.Established.PeerFin
import Capybara.Tcp.Established.Acknowledgement
import Capybara.Tcp.Established.SendIntegrity
import Capybara.Tcp.Established.Robustness
import Capybara.Tcp.Established.UnsentAccounting
import Capybara.Tcp.Established.SendWindow
import Capybara.Tcp.Established.FinNumbers
import Capybara.Tcp.Established.CloseStates
import Capybara.Tcp.Established.ControlBlockState
import Capybara.Tcp.Established.StateCodec
import Capybara.Tcp.TcpState
import Capybara.Tcp.Established.Transparency
import Capybara.Tcp.Established.RetransmitTimer
import Capybara.Tcp.Established.Lives
import Capybara.Lib.Tables
import Capybara.Lib.Totals
import Capybara.Lib.WakerSlot
import Capybara.TcpMig.Header
import Capybara.TcpMig.Segment
import Capybara.TcpMig.Active
import Capybara.TcpMig.Peer
import Capybara.TcpMig.Locality
import Capybara.Tcp.Handshake
import Capybara.Tcp.HandshakeWindows
import Capybara.Tcp.Peer
import Capybara.Tcp.Server
import Capybara.Tcp.Effects
import Capybara.Tcp.Established.Confinement
import Capybara.Tcp.ConnectionTables
import Capybara.Tcp.TableFaults
import Capybara.Lib.Chunks
import Capybara.TcpMig.Receipts
import Capybara.TcpMig.Fragmentation
import Capybara.TcpMig.Defragmentation
import Capybara.Tcp.TargetBuffering
import Capybara.Tcp.MessageSafety
import Capybara.TcpMig.Datagram
import Capybara.TcpMig.HeaderCodec
import Capybara.TcpMig.Collecting
import Capybara.TcpMig.Duplicates
import Capybara.Udp.Peer
import Capybara.Udp.SharedQueue
import Capybara.Tcp.FailedControls
import Capybara.Tcp.Listener
import Capybara.Tcp.Established.Headers
import Capybara.Tcp.Conversation
import Capybara.Tcp.Delivery
import Capybara.Tcp.ClientRecord
import Capybara.Tcp.Opening
import Capybara.Tcp.Session
import Capybara.Tcp.SessionDelivery
import Capybara.Tcp.Custody
import Capybara.Tcp.Cluster
import Capybara.Tcp.Ownership
import Capybara.Tcp.ImportedOnce
import Capybara.Tcp.PassiveHandshake
import Capybara.Tcp.Backlog
import Capybara.Tcp.Wakeups
import Capybara.Scheduler.PinSlab
import Capybara.Scheduler.WakerPage
import Capybara.Scheduler.Scheduler
import Capybara.Scheduler.Soundness
import Capybara.Scheduler.StaleWakes
import Capybara.Scheduler.Calls
import Capybara.Tcp.StatsConsistency
import Capybara.Tcp.StatsWords
import Capybara.Tcp.StatsCycles
import Capybara.Tcp.ProactiveMigration
import Capybara.TcpMig.Transfer
import Capybara.TcpMig.Isolation
import Capybara.TcpMig.Conservation
import Capybara.TcpMig.Admission
import Capybara.Tcp.Established.WindowUpdates
import Capybara.Ip.Checksum
import Capybara.Ip.Datagram
import Capybara.Ip.DatagramRoundTrip
import Capybara.Ip.HeaderChecksum
import Capybara.Ethernet2.Frame
import Capybara.Tcp.SegmentCodec
import Capybara.Tcp.SegmentRoundTrip
import Capybara.Tcp.ParsedHeaders
import Capybara.Tcp.Established.SegmentSize
import Capybara.Lib.Pools
import Capybara.Tcp.LocalAddresses
import Capybara.Lib.Registers
import Capybara.Switch.Egress
import Capybara.Switch.LoadSnapshot
import Capybara.Switch.Ingress
import Capybara.Switch.Ownership
import Capybara.Lib.Fifo
import Capybara.Collections.Ring
import Capybara.Collections.RingRefinement
import Capybara.Collections.HashTtlCache
import Capybara.Collections.PairingHeap
import Capybara.Collections.TtlReference
import Capybara.Lib.RoundRobin
import Capybara.Tcp.SwitchPeer
import Capybara.Arp.Peer
import Capybara.Arp.Lookups
import Capybara.Arp.Independence
import Capybara.Tcp.Affinity
import Capybara.InetStack.Waiting
import Capybara.InetStack.KeptResults
import Capybara.InetStack.WaitAgreement
import Capybara.Tcp.OptionGrammar
import Capybara.Lib.InternetChecksum
import Capybara.Lib.Slots
import Capybara.Runtime.Watched
import Capybara.Runtime.WatchedChanges
import Capybara.Runtime.Timer
import Capybara.Runtime.TimerExpiry
import Capybara.Tcp.Reencoding
import Capybara.Udp.Header
import Capybara.Udp.TransportChecksums
import Capybara.Udp.HeaderRoundTrip
import Capybara.Arp.PacketCodec
import Capybara.Icmpv4.Header
import Capybara.InetStack.Frames
import Capybara.InetStack.FrameDelivery
import Capybara.Tcp.Established.AckDelay
import Capybara.Lib.References
import Capybara.Scheduler.PageRefs
import Capybara.Scheduler.PageSafety
import Capybara.Lib.LinkedNodes
import Capybara.Collections.LinkedList
import Capybara.Collections.ListRefinement
import Capybara.Runtime.PinnedWatchers
import Capybara.Udp.Bindings
