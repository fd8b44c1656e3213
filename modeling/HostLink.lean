import HostLink.Config.File
import HostLink.Config.Lax
import HostLink.Host.Script
import HostLink.Proofs.FaithfulHost
import HostLink.Proofs.Unresolved
import HostLink.Session
import HostLink.Value.Equality
import HostLink.Proofs.Fallback
import HostLink.Proofs.Fault
import HostLink.Proofs.Events
import HostLink.Proofs.Operation
import HostLink.Proofs.EventText
import HostLink.Proofs.Protocol
import HostLink.Proofs.Calls
import HostLink.Proofs.Unlimited
import HostLink.Proofs.Installing
import HostLink.Proofs.Reasons
import HostLink.Proofs.Local
import HostLink.Proofs.Recoding
import HostLink.Proofs.Agreement
import HostLink.Proofs.Discovery
import HostLink.Proofs.Unparse
import HostLink.Proofs.OffsetText
import HostLink.Proofs.LiteralText
import HostLink.Proofs.Classified
import HostLink.Proofs.Document
import HostLink.Proofs.Rendering
import HostLink.Proofs.Wrapping
import HostLink.Proofs.Halves
import HostLink.Proofs.Refusal
import HostLink.Proofs.Limits
import HostLink.Proofs.Equality
