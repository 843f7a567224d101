import Colonnade.Cli
import Colonnade.Main
import Colonnade.Text.DecimalDigit
import Colonnade.Proofs.Reading
import Colonnade.Proofs.Exports
import Colonnade.Proofs.Nesting
import Colonnade.Proofs.ImportChain
import Colonnade.Proofs.Serial
import Colonnade.Proofs.Declarations
import Colonnade.Proofs.Registration
import Colonnade.Proofs.Reimport
import Colonnade.Proofs.LineFields
import Colonnade.Proofs.SubstitutionScan
import Colonnade.Proofs.KeyOrder
import Colonnade.Host
import Colonnade.Proofs.Reentrance
import Colonnade.Proofs.WriteDiscipline
import Colonnade.Proofs.LineBreaks
import Colonnade.Proofs.ParameterNames
import Colonnade.Proofs.JsonRoundTrip
