import CiVariables.Main
import CiVariables.Proofs.Removal
import CiVariables.Proofs.Resumption
import CiVariables.Proofs.Sending
import CiVariables.Proofs.Sharing
import CiVariables.Proofs.Unmanaged
import CiVariables.Proofs.Survey
import CiVariables.Proofs.Ending
import CiVariables.Proofs.Identities
import CiVariables.Proofs.Loading
import CiVariables.Proofs.Masking
import CiVariables.Proofs.Approval
import CiVariables.Proofs.Reordering
import CiVariables.Proofs.Saving
import CiVariables.Proofs.Differences
import CiVariables.Proofs.Halves
import CiVariables.Proofs.Crashes
import CiVariables.Proofs.Following
import CiVariables.Proofs.Reporting
import CiVariables.Proofs.Addressing
import CiVariables.Proofs.Progress
import CiVariables.Proofs.Tallies
import CiVariables.Proofs.Counting
import CiVariables.Proofs.Projects
import CiVariables.Proofs.Environment
import CiVariables.Proofs.Precedence
import CiVariables.Proofs.Records
import CiVariables.Proofs.Creation
import CiVariables.Proofs.Coloring
import CiVariables.Proofs.Duplicates
import CiVariables.Proofs.Routes
