import Gloss.Dictionary.Store
import Gloss.Main
import Gloss.Proofs.Engine.Overlay
import Gloss.Proofs.Properties.Document
import Gloss.Proofs.Script.Places
import Gloss.Proofs.Script.Quotation
import Gloss.Proofs.Script.CallSites
import Gloss.Proofs.Script.SourceOrder
import Gloss.Proofs.Server.Projects
import Gloss.Proofs.Engine.Reconfigured
import Gloss.Proofs.Escape.Spelling
import Gloss.Proofs.Dictionary.Keys
import Gloss.Proofs.Engine.History
import Gloss.Proofs.Engine.Readings
import Gloss.Proofs.Engine.CurrentKeys
import Gloss.Proofs.Script.Rules
import Gloss.Proofs.Script.PlainCall
import Gloss.Proofs.Script.CallText
import Gloss.Proofs.Engine.Acceptance
import Gloss.Proofs.Escape.Locality
import Gloss.Proofs.Hint.Candidates
import Gloss.Proofs.Properties.LogicalLines
import Gloss.Proofs.Properties.Folding
import Gloss.Proofs.Json.Leaves
import Gloss.Proofs.Script.ByteOrderMark
import Gloss.Proofs.Discovery.Canonical
import Gloss.Proofs.Discovery.PlainSuffix
import Gloss.Proofs.Engine.Validity
import Gloss.Proofs.Config.Nearest
import Gloss.Proofs.Config.Formats
import Gloss.Proofs.Dictionary.History
import Gloss.Proofs.Server.Paging
import Gloss.Proofs.Server.Settings
import Gloss.Proofs.Properties.Offsets
import Gloss.Proofs.Text.Rounding
