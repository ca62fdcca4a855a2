import Gemtext.Main
import Gemtext.Content.Fragment
import Gemtext.Render.Trace
import Gemtext.Proofs.Layout.Regions
import Gemtext.Proofs.Text.Lines
import Gemtext.Proofs.Layout.Visible
import Gemtext.Proofs.Layout.LinkLines
import Gemtext.Proofs.Layout.AfterLinks
import Gemtext.Proofs.Layout.Normalized
import Gemtext.Proofs.Layout.Relayout
import Gemtext.Proofs.Render.Callbacks
import Gemtext.Proofs.Render.Numbering
import Gemtext.Proofs.Markdown.Shape
import Gemtext.Proofs.Render.Walk
import Gemtext.Proofs.Content.Marks
import Gemtext.Proofs.Render.Invariant
import Gemtext.Proofs.Render.Boundaries
import Gemtext.Proofs.Render.Frame
import Gemtext.Proofs.Render.Links
import Gemtext.Proofs.Render.Withdrawals
import Gemtext.Proofs.Table.Lines
import Gemtext.Proofs.Table.Operations
import Gemtext.Proofs.Table.InPlace
import Gemtext.Proofs.Table.Widths
import Gemtext.Proofs.Table.Rectangle
import Gemtext.Proofs.Table.Limit
import Gemtext.Proofs.Table.Contents
import Gemtext.Proofs.Text.CodeSpans
import Gemtext.Proofs.Layout.Fences
import Gemtext.Proofs.Layout.Seams
import Gemtext.Proofs.Layout.Shown
import Gemtext.Proofs.Layout.Closed
import Gemtext.Proofs.Layout.Bland
import Gemtext.Proofs.Render.PlainStrings
import Gemtext.Proofs.Render.FencedContent
import Gemtext.Proofs.Content.ClosedSpans
import Gemtext.Proofs.Render.ClosedSpans
import Gemtext.Proofs.Render.Tables
import Gemtext.Proofs.Render.Fences
import Gemtext.Proofs.Render.TableFree
import Gemtext.Proofs.Render.Grids
import Gemtext.Proofs.Render.Failure
import Gemtext.Proofs.Render.PostOrder
import Gemtext.Proofs.Render.TableCalls
import Gemtext.Proofs.Render.Reached
import Gemtext.Proofs.Render.DrawnTables
import Gemtext.Proofs.Render.TameStrings
import Gemtext.Proofs.Render.StandingAlone
import Gemtext.Proofs.Render.TidyBlocks
import Gemtext.Proofs.Render.Independence
import Gemtext.Proofs.Render.LinkFree
import Gemtext.Proofs.Render.BehindLinks
import Gemtext.Proofs.Render.ReadLinks
import Gemtext.Proofs.Render.CopiedLinks
import Gemtext.Proofs.Path
import Gemtext.Proofs.Command.Workspace
import Gemtext.Proofs.Command.Conversions
import Gemtext.Proofs.Content.Buffer
import Gemtext.Proofs.Content.Construction
import Gemtext.Proofs.Standard.Settings
import Gemtext.Proofs.Settings.Precedence
import Gemtext.Proofs.Command.Switches
import Gemtext.Proofs.Command.Precedence
import Gemtext.Proofs.Content.Prose
import Gemtext.Proofs.Markdown.Outline
import Gemtext.Proofs.Render.CodeBlocks
import Gemtext.Proofs.Render.Headings
import Gemtext.Proofs.Render.Outline
import Gemtext.Proofs.Render.Paragraphs
import Gemtext.Proofs.Render.Quotations
import Gemtext.Proofs.Render.HeadingScopes
import Gemtext.Proofs.Render.LinkLabels
import Gemtext.Proofs.Text.GreedyLines
import Gemtext.Proofs.Table.Shares
import Gemtext.Proofs.Table.LeastWidth
import Gemtext.Proofs.Table.Unwrapped
import Gemtext.Proofs.Table.RowLines
import Gemtext.Proofs.Table.Reading
import Gemtext.Proofs.Content.JoinedLines
import Gemtext.Proofs.Frontmatter
