import CommandShell.Main
import CommandShell.Proofs.Balance
import CommandShell.Proofs.Children
import CommandShell.Proofs.Lexing
import CommandShell.Proofs.PipeEnds
import CommandShell.Proofs.Reading
import CommandShell.Proofs.Buffering
import CommandShell.Proofs.Loading
import CommandShell.Proofs.Serving
import CommandShell.Proofs.Starting
import CommandShell.Session
import CommandShell.Proofs.Builtins
import CommandShell.Proofs.Outcome
import CommandShell.Proofs.Announcements
import CommandShell.Proofs.LineEnds
import CommandShell.Proofs.LastStatus
import CommandShell.Proofs.Groups
import CommandShell.Proofs.Directory
import CommandShell.Proofs.Scanning
import CommandShell.Proofs.JobWait
import CommandShell.Proofs.Streams
import CommandShell.Proofs.NulBytes
import CommandShell.Proofs.Sweeping
import CommandShell.Proofs.SetupEffects
import CommandShell.Proofs.OutputAgreement
