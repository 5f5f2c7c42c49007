import Dossier.Main
import Dossier.Proofs.Browser
import Dossier.Proofs.Packing.Mirror
import Dossier.Proofs.Run.AllOrNothing
import Dossier.Proofs.Run.FirstFault
import Dossier.Proofs.Run.Home
import Dossier.Proofs.Run.Items
import Dossier.Proofs.Run.Pages
import Dossier.Proofs.Run.Refused
import Dossier.Proofs.Run.Scratch
import Dossier.Proofs.Run.Subject
import Dossier.Proofs.Saving.Accounts
import Dossier.Proofs.Saving.Delivery
import Dossier.Proofs.Saving.Download
import Dossier.Proofs.Saving.Leftover
import Dossier.Proofs.Script.Layout
import Dossier.Proofs.Script.LineEndings
import Dossier.Proofs.Script.Placement
import Dossier.Proofs.Text.Digit
import Dossier.Proofs.ByteSize.Reading
import Dossier.Proofs.Packing.Hollow
import Dossier.Proofs.Report
import Dossier.Proofs.ByteSize.Showing
import Dossier.Proofs.Connector
import Dossier.Proofs.Duration
import Dossier.Proofs.Settings
