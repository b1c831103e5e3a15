import FeatureDocs.Main
import FeatureDocs.StandIn
import FeatureDocs.Proofs.Regex.Matching
import FeatureDocs.Proofs.Regex.Expression
import FeatureDocs.Proofs.Pattern.Source
import FeatureDocs.Proofs.Pattern.Filling
import FeatureDocs.Proofs.Pattern.Scan
import FeatureDocs.Proofs.Pattern.Captures
import FeatureDocs.Proofs.Disk.Descendants
import FeatureDocs.Proofs.Document.Resolve
import FeatureDocs.Proofs.Tree.Build
import FeatureDocs.Proofs.TagIndex
import FeatureDocs.Proofs.Text.Utf8
import FeatureDocs.Proofs.Document.Tags
import FeatureDocs.Proofs.Tree.Pages
import FeatureDocs.Proofs.Tree.Made
import FeatureDocs.Proofs.Site
import FeatureDocs.Proofs.Pattern.Reader
import FeatureDocs.Proofs.Pattern.Segment
import FeatureDocs.Proofs.Tree.WritePath
import FeatureDocs.Proofs.Disk.Edited
import FeatureDocs.Proofs.Tree.Edited
import FeatureDocs.Proofs.Path.Resolved
import FeatureDocs.Proofs.Text.Decoding
import FeatureDocs.Proofs.Disk.FileName
import FeatureDocs.Proofs.Tree.Location
import FeatureDocs.Proofs.Tree.WayBack
import FeatureDocs.Proofs.Disk.Reordered
import FeatureDocs.Proofs.Tree.Inside
import FeatureDocs.Proofs.Tree.Reordered
import FeatureDocs.Proofs.Path.OfString
import FeatureDocs.Proofs.Document.Status
import FeatureDocs.Proofs.Code.Function
import FeatureDocs.Proofs.Step.Line
import FeatureDocs.Proofs.Step.Status
import FeatureDocs.Proofs.Step.Definition
import FeatureDocs.Proofs.Step.Conjunction
import FeatureDocs.Proofs.Pattern.Literal
import FeatureDocs.Proofs.Step.Inferred
import FeatureDocs.Proofs.Disk.Order
import FeatureDocs.Proofs.Step.Walk
import FeatureDocs.Proofs.Step.Source
import FeatureDocs.Proofs.Document.Interrupted
import FeatureDocs.Proofs.Tree.StatusTags
import FeatureDocs.Proofs.Run
import FeatureDocs.Proofs.Pattern.Concatenation
import FeatureDocs.Proofs.Pattern.Culprit
import FeatureDocs.Proofs.Pattern.Preference
import FeatureDocs.Proofs.Step.Index
import FeatureDocs.Proofs.Text.Escape
import FeatureDocs.Proofs.Document.Escape
import FeatureDocs.Proofs.Step.Opening
import FeatureDocs.Proofs.TagIndex.Positions
import FeatureDocs.Proofs.Document.PassOrder
import FeatureDocs.Proofs.Config.Variables
import FeatureDocs.Proofs.Pattern.Integer
import FeatureDocs.Proofs.Document.Blocks
import FeatureDocs.Proofs.Json.Token
import FeatureDocs.Proofs.Json.Text
import FeatureDocs.Proofs.Json.Printed
import FeatureDocs.Proofs.Json.Site
