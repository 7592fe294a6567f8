import Hypermesh.Counts
import Hypermesh.CertificateMonitor
import Hypermesh.Engine
import Hypermesh.PyStr
import Hypermesh.PyFloat
import Hypermesh.Regex
import Hypermesh.PyPath
import Hypermesh.Quantum.Finding
import Hypermesh.Quantum.Report
import Hypermesh.Validator.Report
import Hypermesh.Gate
import Hypermesh.TrustChain.Search
import Hypermesh.TrustChain.Audit
import Hypermesh.Web3.Auditor
import Hypermesh.Web3.Invariant
import Hypermesh.Placement
import Hypermesh.Quantum.Audit
import Hypermesh.Quantum.Tester
import Hypermesh.TestSuite
import Hypermesh.Server.Values
import Hypermesh.Server.State
import Hypermesh.Server.Invariant
import Hypermesh.Server.Capacity
import Hypermesh.Server.Periphery
import Hypermesh.TestCode
import Hypermesh.Quantum.Evidence
import Hypermesh.Validator.Scan
import Hypermesh.FileScan
import Hypermesh.Remediation
import Hypermesh.Remediator
import Hypermesh.TrustChainServer.Invariant
import Hypermesh.Stoq.Race
import Hypermesh.Stoq.Historical
import Hypermesh.Infrastructure
