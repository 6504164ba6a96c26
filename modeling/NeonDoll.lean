import NeonDoll.Body.PairingClient
import NeonDoll.Body.PathProbe
import NeonDoll.Body.Store
import NeonDoll.Body.WssBind
import NeonDoll.BodyPath.ActiveTunnel
import NeonDoll.BodyPath.EpochRuns
import NeonDoll.CognitiveExecution.Budget
import NeonDoll.Daemon.Sequences
import NeonDoll.DollCard.ContractIndex
import NeonDoll.DollCard.RoundTrip
import NeonDoll.DollLink.Correlation
import NeonDoll.DollLink.SessionControl
import NeonDoll.DollMind.Due
import NeonDoll.DollNetwork.Transcript
import NeonDoll.Enrollment.Challenge
import NeonDoll.Enrollment.PairingAtomic
import NeonDoll.Enrollment.Receipts
import NeonDoll.Enrollment.SingleUse
import NeonDoll.Extension.Refusal
import NeonDoll.FileTransfer.EndToEnd
import NeonDoll.FileTransfer.Resume
import NeonDoll.Gateway.Deadlock
import NeonDoll.Gateway.Host
import NeonDoll.Interaction.TurnAtomic
import NeonDoll.Network.Addressing
import NeonDoll.Permission.Authority
import NeonDoll.Permission.Lease
import NeonDoll.Permission.Releases
import NeonDoll.Pulse.Spacing
import NeonDoll.Relay.Attachment
import NeonDoll.Relay.Credentials
import NeonDoll.Relay.Liveness
import NeonDoll.Relay.ProbeRate
import NeonDoll.Relay.ReadLimit
import NeonDoll.Relay.RouteRange
import NeonDoll.Relay.Service
import NeonDoll.Runtime.Replay
import NeonDoll.SessionEvent.Attempts
import NeonDoll.SessionEvent.Presentable
import NeonDoll.WireGuard.Completeness
