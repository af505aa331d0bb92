import ProvisionGate.Files
import ProvisionGate.Main
import ProvisionGate.Request.Redaction
import ProvisionGate.Proofs.Session.Evaluation
import ProvisionGate.Proofs.Session.Runs
import ProvisionGate.Proofs.Session.Moves
import ProvisionGate.Proofs.Session.Calls
import ProvisionGate.Proofs.Session.History
import ProvisionGate.Proofs.Session.Device
import ProvisionGate.Proofs.Session.Acceptance
import ProvisionGate.Proofs.Session.Launch
import ProvisionGate.Proofs.Session.Tickets
import ProvisionGate.Proofs.Session.Progress
import ProvisionGate.Proofs.Session.Recovery
import ProvisionGate.Proofs.Request.Password
import ProvisionGate.Proofs.Session.Masked
import ProvisionGate.Proofs.Component
import ProvisionGate.Proofs.Request.Resume
import ProvisionGate.Proofs.Files
import ProvisionGate.Proofs.Consent
import ProvisionGate.Proofs.Provenance
import ProvisionGate.Proofs.Session.Password
import ProvisionGate.Proofs.Session.Decision
import ProvisionGate.Proofs.Session.Reports
import ProvisionGate.Proofs.Preflight
import ProvisionGate.Proofs.Session.Residue
import ProvisionGate.Proofs.ConsentSlot
import ProvisionGate.Proofs.Json.Leaf
import ProvisionGate.Proofs.Json.Value
import ProvisionGate.Proofs.Request.Wire
import ProvisionGate.Proofs.Request.Authentication
import ProvisionGate.Proofs.Request.Redaction
import ProvisionGate.Proofs.Attempt
import ProvisionGate.Proofs.Desk
import ProvisionGate.Proofs.Request.Reading
import ProvisionGate.Proofs.Request.Permissive
import ProvisionGate.Proofs.Numeral
import ProvisionGate.Proofs.Request.Discovery
import ProvisionGate.Proofs.Request.Integers
import ProvisionGate.Proofs.Request.Rendering
import ProvisionGate.Proofs.Session.Rounds
