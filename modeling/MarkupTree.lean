import MarkupTree.Factory
import MarkupTree.Json.Config
import MarkupTree.Json.Node
import MarkupTree.Proofs.Flattening
import MarkupTree.Proofs.Creation
import MarkupTree.Proofs.Properties.Bag
import MarkupTree.Proofs.Tree.Reachable
import MarkupTree.Proofs.Json.RoundTrip
import MarkupTree.Proofs.Selector.Runs
import MarkupTree.Proofs.Tree.Spelled
import MarkupTree.Proofs.Number.TextRoundTrip
import MarkupTree.Proofs.Properties.Settled
import MarkupTree.Proofs.Tree.Assembled
import MarkupTree.Proofs.Json.Infinities
import MarkupTree.Proofs.Schema.DataNames
import MarkupTree.Proofs.Schema.Canonical
import MarkupTree.Proofs.Selector.TagNames
import MarkupTree.Proofs.Properties.Shaped
import MarkupTree.Proofs.Json.Documents
import MarkupTree.Proofs.Number.Nearest
import MarkupTree.Proofs.Number.Reading
import MarkupTree.Proofs.Appending
import MarkupTree.Proofs.Tree.TextContent
import MarkupTree.Proofs.Tree.Openings
import MarkupTree.Proofs.Number.Radix
import MarkupTree.Proofs.Selector.Spelling
import MarkupTree.Proofs.Number.TextLayout
import MarkupTree.Proofs.Text.Tokens
import MarkupTree.Proofs.Properties.TokenLists
import MarkupTree.Proofs.Text.Runs
import MarkupTree.Proofs.Text.CommaLists
import MarkupTree.Proofs.Text.MixedLists
import MarkupTree.Proofs.Sameness.Collections
import MarkupTree.Proofs.Sameness.Properties
import MarkupTree.Proofs.Sameness.Nodes
import MarkupTree.Proofs.Sameness.Values
import MarkupTree.Proofs.Histories
