import PEInspect.Session.Step
import PEInspect.Proofs.Config.Layers
import PEInspect.Proofs.Report
import PEInspect.Proofs.Config.Precedence
import PEInspect.Proofs.Disk.Answers
import PEInspect.Proofs.World.Effects
import PEInspect.Proofs.Opening.Inversion
import PEInspect.Proofs.Parsing.Inversion
import PEInspect.Proofs.World.Arena
import PEInspect.Proofs.Symbols.Inversion
import PEInspect.Proofs.Loading.Inversion
import PEInspect.Proofs.Path.Normal
import PEInspect.Proofs.Symbols.Candidate
import PEInspect.Proofs.Disk.Walk
import PEInspect.Proofs.Loading.Classification
import PEInspect.Proofs.Loading.Totality
import PEInspect.Proofs.Loading.Balance
import PEInspect.Proofs.Loading.Closing
import PEInspect.Proofs.Annotations.Index
import PEInspect.Proofs.World.Holders
import PEInspect.Proofs.Annotations.Refinement
import PEInspect.Proofs.Loading.Blindness
import PEInspect.Proofs.Loading.Modes
import PEInspect.Proofs.Files.SetOnce
import PEInspect.Proofs.Metadata.Lookup
import PEInspect.Proofs.Modules.Lookup
import PEInspect.Proofs.Loading.Appearance
import PEInspect.Proofs.Loading.Identity
import PEInspect.Proofs.Config.Environment
import PEInspect.Proofs.Config.Unusable
import PEInspect.Proofs.Symbols.History
import PEInspect.Proofs.Symbols.Refusals
import PEInspect.Proofs.Loading.Stages
import PEInspect.Proofs.Loading.Calls
import PEInspect.Proofs.Config.RoundTrip
import PEInspect.Proofs.ShortName
import PEInspect.Proofs.Config.Validation
import PEInspect.Proofs.Symbols.Exactness
import PEInspect.Proofs.Symbols.BaseName
import PEInspect.Proofs.Text.Utf8
import PEInspect.Proofs.Config.Overlay
import PEInspect.Proofs.Metadata.Spelling
import PEInspect.Proofs.Files.Spelling
import PEInspect.Proofs.Modules.Tokens
import PEInspect.Proofs.Image.Signature
