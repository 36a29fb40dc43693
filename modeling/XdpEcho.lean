import XdpEcho.Bench.Basic
import XdpEcho.Bench.FrameQueues
import XdpEcho.Bench.Holdings
import XdpEcho.Bench.Reporting
import XdpEcho.Header.Edit
import XdpEcho.Kernel.ScriptText
import XdpEcho.Main
import XdpEcho.Proofs.Ring.Channel
import XdpEcho.Proofs.Ring.Caching
import XdpEcho.Proofs.Simulator.EchoService
import XdpEcho.Proofs.Simulator.Starvation
import XdpEcho.Proofs.Umem.HandedOut
import XdpEcho.Proofs.Umem.Addressing
import XdpEcho.Proofs.Engine.Outstanding
import XdpEcho.Proofs.Engine.Attacked
import XdpEcho.Proofs.Engine.Packetwise
import XdpEcho.Proofs.Engine.BatchSize
import XdpEcho.Proofs.Engine.Turns
import XdpEcho.Proofs.Engine.Polling
import XdpEcho.Proofs.Simulator.Homecoming
import XdpEcho.Proofs.Engine.Accounts
import XdpEcho.Proofs.Engine.Cursors
import XdpEcho.Proofs.Checksum.OnesComplement
import XdpEcho.Proofs.Checksum.Recompute
import XdpEcho.Proofs.Packet.ReplyChecksum
import XdpEcho.Proofs.Packet.KindChanges
import XdpEcho.Proofs.Packet.AddressSwaps
import XdpEcho.Proofs.Packet.InPlace
import XdpEcho.Proofs.Text.LinkAddress
import XdpEcho.Proofs.Engine.FailedKick
import XdpEcho.Proofs.Engine.Admission
import XdpEcho.Proofs.Engine.Supply
import XdpEcho.Proofs.Engine.FirstAttempt
import XdpEcho.Proofs.Socket.Calls
import XdpEcho.Proofs.Socket.Construction
import XdpEcho.Proofs.Socket.MissingLinks
import XdpEcho.Proofs.Socket.Settings
import XdpEcho.Proofs.Egress.Bookkeeping
import XdpEcho.Proofs.Engine.Kicks
import XdpEcho.Proofs.Simulator.Lawful
