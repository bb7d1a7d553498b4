import BreakCheck.ConfigFile
import BreakCheck.Exemptions.Listing
import BreakCheck.Fingerprint
import BreakCheck.Json.Reading
import BreakCheck.Node.Offer
import BreakCheck.Proofs.CanonicalForm
import BreakCheck.Proofs.Yaml.Shown
import BreakCheck.Proofs.Yaml.Reads
import BreakCheck.Proofs.ConfigFile.Shown
import BreakCheck.Proofs.ConfigFile.RoundTrip
import BreakCheck.Proofs.Yaml.Passed
import BreakCheck.Proofs.Yaml.Gaps
import BreakCheck.Proofs.Yaml.Quoted
import BreakCheck.Proofs.Yaml.Steady
import BreakCheck.Proofs.Yaml.Scanning
import BreakCheck.Proofs.Yaml.FlowSteps
import BreakCheck.Proofs.Yaml.JsonTokens
import BreakCheck.Proofs.Yaml.JsonTree
import BreakCheck.Proofs.Yaml.Spoiled
import BreakCheck.Proofs.Yaml.Whole
import BreakCheck.Proofs.Yaml.JsonText
import BreakCheck.Proofs.ConfigFile.JsonRoundTrip
import BreakCheck.Proofs.Conversions
import BreakCheck.Proofs.IgnoreOnly.Cleared
import BreakCheck.Proofs.IgnoreOnly.Codec
import BreakCheck.Proofs.Json.Brackets
import BreakCheck.Proofs.Json.NodeText
import BreakCheck.Proofs.Json.Reads
import BreakCheck.Proofs.Json.WellFormed
import BreakCheck.Proofs.Message
import BreakCheck.Proofs.Section
import BreakCheck.Proofs.SameForm
import BreakCheck.Proofs.ByteOrder
import BreakCheck.Proofs.Yaml.Unbroken
import BreakCheck.Proofs.Yaml.Given
import BreakCheck.Proofs.Yaml.Fields
import BreakCheck.Proofs.ConfigFile.Verdict
import BreakCheck.Proofs.Yaml.Unstyled
import BreakCheck.Proofs.ConfigFile.Congruence
import BreakCheck.Proofs.Exemptions.Declared
import BreakCheck.Proofs.IgnoreOnly.Faults
import BreakCheck.Proofs.Exemptions.Canonical
import BreakCheck.Proofs.Yaml.Anchored
import BreakCheck.Proofs.Yaml.Deferral
import BreakCheck.Proofs.ConfigFile.TwoSteps
import BreakCheck.Proofs.Yaml.Quiet
import BreakCheck.Proofs.ConfigFile.Notices
import BreakCheck.Proofs.Node.Shape
import BreakCheck.Proofs.IgnoreOnly.Verbatim
import BreakCheck.Proofs.Json.ReadNode
import BreakCheck.Proofs.Json.NodeRoundTrip
import BreakCheck.Proofs.Fingerprint
