import Southbound.Main
import Southbound.Proofs.Controller.Correlation
import Southbound.Proofs.Controller.Handshake
import Southbound.Proofs.Controller.Labels
import Southbound.Proofs.Controller.Mirror
import Southbound.Proofs.Controller.Numbering
import Southbound.Proofs.Controller.Policy
import Southbound.Proofs.Controller.Provisioning
import Southbound.Proofs.Controller.Routing
import Southbound.Proofs.Datapath.Fragments
import Southbound.Proofs.Dispatch.Accounting
import Southbound.Proofs.Dispatch.Calls
import Southbound.Proofs.Link.Allowance
import Southbound.Proofs.Link.Framing
import Southbound.Proofs.Link.Queue
import Southbound.Proofs.Link.Writing
import Southbound.Proofs.Request.Pruning
import Southbound.Proofs.Request.Reassembly
import Southbound.Proofs.Wire.Cuts
import Southbound.Proofs.Wire.Elements
import Southbound.Proofs.Wire.Flows
import Southbound.Proofs.Wire.MatchFields
import Southbound.Proofs.Wire.Relay
import Southbound.Record.Report
import Southbound.Record.Setup
