import OperatorShell.Completion
import OperatorShell.Main
import OperatorShell.Proofs.Coloring
import OperatorShell.Proofs.CommandLine
import OperatorShell.Proofs.Decomposition
import OperatorShell.Proofs.Endpoint
import OperatorShell.Proofs.Independence
import OperatorShell.Proofs.Interleaving
import OperatorShell.Proofs.Journal
import OperatorShell.Proofs.KeyTypes
import OperatorShell.Proofs.KnownKeys
import OperatorShell.Proofs.Layers
import OperatorShell.Proofs.Limits
import OperatorShell.Proofs.Listing
import OperatorShell.Proofs.Loading
import OperatorShell.Proofs.Notes
import OperatorShell.Proofs.Offer
import OperatorShell.Proofs.Records
import OperatorShell.Proofs.Replacement
import OperatorShell.Proofs.Requests
import OperatorShell.Proofs.Spelling
import OperatorShell.Proofs.Startup
import OperatorShell.StubServer
