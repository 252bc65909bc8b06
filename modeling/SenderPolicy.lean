import SenderPolicy.Dns.Resolver
import SenderPolicy.Record
import SenderPolicy.Staged
import SenderPolicy.Proofs.Address.Case
import SenderPolicy.Proofs.Address.Groups
import SenderPolicy.Proofs.Address.Reader
import SenderPolicy.Proofs.Block.Arithmetic
import SenderPolicy.Proofs.Block.Invariant
import SenderPolicy.Proofs.Block.Membership
import SenderPolicy.Proofs.Dns.History
import SenderPolicy.Proofs.IncludePath
import SenderPolicy.Proofs.Inquiry
import SenderPolicy.Proofs.Lookup.Balance
import SenderPolicy.Proofs.Lookup.Blame
import SenderPolicy.Proofs.Lookup.Dependence
import SenderPolicy.Proofs.Lookup.Depth
import SenderPolicy.Proofs.Lookup.Errors
import SenderPolicy.Proofs.Lookup.Graph
import SenderPolicy.Proofs.Lookup.Indifference
import SenderPolicy.Proofs.Lookup.Loops
import SenderPolicy.Proofs.Lookup.Mapped
import SenderPolicy.Proofs.Lookup.Names
import SenderPolicy.Proofs.Lookup.Nesting
import SenderPolicy.Proofs.Lookup.Origins
import SenderPolicy.Proofs.Lookup.Placement
import SenderPolicy.Proofs.Lookup.Room
import SenderPolicy.Proofs.Lookup.Simulation
import SenderPolicy.Proofs.Lookup.Standalone
import SenderPolicy.Proofs.Lookup.Step
import SenderPolicy.Proofs.Lookup.Strictness
import SenderPolicy.Proofs.Lookup.Termination
import SenderPolicy.Proofs.Lookup.Trace
import SenderPolicy.Proofs.Lookup.Underway
import SenderPolicy.Proofs.Policy.Asking
import SenderPolicy.Proofs.Policy.Built
import SenderPolicy.Proofs.Policy.Case
import SenderPolicy.Proofs.Policy.Directive
import SenderPolicy.Proofs.Policy.FirstMatch
import SenderPolicy.Proofs.Policy.Grammar
import SenderPolicy.Proofs.Policy.Hosts
import SenderPolicy.Proofs.Policy.Keywords
import SenderPolicy.Proofs.Policy.Literal
import SenderPolicy.Proofs.Policy.Networks
import SenderPolicy.Proofs.Policy.Statement
import SenderPolicy.Proofs.Policy.Visits
import SenderPolicy.Proofs.Record.Blocks
import SenderPolicy.Proofs.Record.Case
import SenderPolicy.Proofs.Record.Kept
import SenderPolicy.Proofs.Record.Life
import SenderPolicy.Proofs.Record.Mapped
import SenderPolicy.Proofs.Record.Reachable
import SenderPolicy.Proofs.Record.Reading
import SenderPolicy.Proofs.Record.Staged
import SenderPolicy.Proofs.Record.TwoSteps
import SenderPolicy.Proofs.Term.Agreement
import SenderPolicy.Proofs.Term.Case
import SenderPolicy.Proofs.Term.Hosts
import SenderPolicy.Proofs.Term.Literal
import SenderPolicy.Proofs.Term.Parts
import SenderPolicy.Proofs.Text
