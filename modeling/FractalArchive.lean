import FractalArchive.Main
import FractalArchive.Proofs.Database.Reading
import FractalArchive.Proofs.Database.Upgrading
import FractalArchive.Proofs.Disk.FileNames
import FractalArchive.Proofs.Form.LetterCase
import FractalArchive.Proofs.Form.Truncation
import FractalArchive.Proofs.Form.Urlencoded
import FractalArchive.Proofs.Http.AppendOnly
import FractalArchive.Proofs.Http.Discretion
import FractalArchive.Proofs.Http.Failing
import FractalArchive.Proofs.Http.Listing
import FractalArchive.Proofs.Http.Submission
import FractalArchive.Proofs.Location.Canonical
import FractalArchive.Proofs.Logging.OneLine
import FractalArchive.Proofs.Logging.OneShot
import FractalArchive.Proofs.Service.Additions
import FractalArchive.Proofs.Service.Picking
import FractalArchive.Proofs.Settings.Precedence
import FractalArchive.Proofs.Store.Adoption
import FractalArchive.Proofs.Store.Poisoning
import FractalArchive.Proofs.Store.Restart
import FractalArchive.Proofs.Store.Sharing
import FractalArchive.Proofs.Store.Closing
import FractalArchive.Proofs.EnvFile.NullFree
import FractalArchive.Proofs.EnvFile.Reloading
import FractalArchive.Proofs.Store.Connecting
import FractalArchive.Proofs.Json.Grammar
import FractalArchive.Proofs.Json.Literals
import FractalArchive.Proofs.Json.Decimals
import FractalArchive.Proofs.Json.Passing
import FractalArchive.Proofs.Json.Decoding
