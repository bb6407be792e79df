import KeyBundle.Session.Run
import KeyBundle.Value.Rebuild
import KeyBundle.Session.Copy
import KeyBundle.Proofs.Combining
import KeyBundle.Proofs.Assembly
import KeyBundle.Proofs.Filling
import KeyBundle.Proofs.Blindness
import KeyBundle.Proofs.Appending
import KeyBundle.Proofs.Delivery
import KeyBundle.Proofs.Opening
import KeyBundle.Proofs.SettingUp
import KeyBundle.Proofs.Sessions
import KeyBundle.Proofs.LastResort
import KeyBundle.Proofs.Pairing
import KeyBundle.Proofs.ModuleLimit
import KeyBundle.Proofs.Embedding
import KeyBundle.Proofs.Interruption
import KeyBundle.Proofs.Matching
import KeyBundle.Proofs.Runs
import KeyBundle.Proofs.Assignments
import KeyBundle.Proofs.Lockstep
import KeyBundle.Proofs.Values
import KeyBundle.Proofs.DashedLines
import KeyBundle.Proofs.Blocks
import KeyBundle.Proofs.Rewriting
import KeyBundle.Proofs.Labelling
import KeyBundle.Proofs.Settling
import KeyBundle.Proofs.Placeholders
import KeyBundle.Proofs.Pieces
import KeyBundle.Proofs.Channels
import KeyBundle.Proofs.Handlers
import KeyBundle.Proofs.Ancestors
import KeyBundle.Proofs.Receivers
import KeyBundle.Proofs.SecretNames
import KeyBundle.Proofs.Legible
import KeyBundle.Proofs.BlobArguments
import KeyBundle.Proofs.Reading
import KeyBundle.Proofs.Announcing
import KeyBundle.Proofs.Requests
import KeyBundle.Proofs.ModuleCalls
import KeyBundle.Proofs.Acceptance
import KeyBundle.Proofs.Lightness
import KeyBundle.Proofs.Stepping
import KeyBundle.Proofs.Notices
import KeyBundle.Proofs.SharedSettings
import KeyBundle.Proofs.CaseForms
import KeyBundle.Proofs.Separators
import KeyBundle.Proofs.Overriding
import KeyBundle.Proofs.Numerals
import KeyBundle.Proofs.Loading
import KeyBundle.Proofs.Sameness
import KeyBundle.Proofs.Emptiness
import KeyBundle.Proofs.Alongside
import KeyBundle.Proofs.Forms
import KeyBundle.Proofs.PathTexts
import KeyBundle.Proofs.Exporting
import KeyBundle.Proofs.Reconfiguring
import KeyBundle.Proofs.Containment
import KeyBundle.Proofs.JsonTexts
import KeyBundle.Proofs.JsonLines
import KeyBundle.Proofs.Wiring
import KeyBundle.Proofs.Interchange
import KeyBundle.Proofs.Rebuilding
import KeyBundle.Proofs.Literals
import KeyBundle.Proofs.Harmless
import KeyBundle.Settings.Undecoded
import KeyBundle.Proofs.RawTexts
import KeyBundle.Proofs.Identity
