import MarkupLexer.Main
import MarkupLexer.Checked
import MarkupLexer.Remainder
import MarkupLexer.Scan
import MarkupLexer.Tiling
import MarkupLexer.Proofs.Reading
import MarkupLexer.Proofs.Collecting
import MarkupLexer.Proofs.Printing
import MarkupLexer.Proofs.Contents
import MarkupLexer.Proofs.Language
import MarkupLexer.Proofs.Viability
import MarkupLexer.Proofs.Remainders
import MarkupLexer.Proofs.Concatenation
import MarkupLexer.Proofs.Tiling
import MarkupLexer.Proofs.Calls
import MarkupLexer.Proofs.Rows
import MarkupLexer.Proofs.Places
import MarkupLexer.Proofs.TrailingText
import MarkupLexer.Proofs.Reports
import MarkupLexer.Proofs.Json.Strings
import MarkupLexer.Proofs.Json.Tokens
import MarkupLexer.Proofs.Listing
import MarkupLexer.Proofs.Progress
import MarkupLexer.Proofs.Refusals
import MarkupLexer.Proofs.Laziness
import MarkupLexer.Proofs.Consistency
import MarkupLexer.Proofs.Offsets
import MarkupLexer.Proofs.PlaceOrder
import MarkupLexer.Proofs.Table
import MarkupLexer.Proofs.Command.Modes
import MarkupLexer.Proofs.Draining
import MarkupLexer.Proofs.ListingLines
import MarkupLexer.Proofs.KindNames
import MarkupLexer.Proofs.Arithmetic
