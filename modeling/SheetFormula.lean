import SheetFormula.Main
import SheetFormula.Token.Cursor
import SheetFormula.Proofs.Scan.Departures
import SheetFormula.Proofs.Balance.Scan
import SheetFormula.Proofs.RoundTrip.Lexemes
import SheetFormula.Proofs.RoundTrip.Writing
import SheetFormula.Proofs.RoundTrip.Scanning
import SheetFormula.Proofs.RoundTrip.Tokens
import SheetFormula.Proofs.Nesting.Replay
import SheetFormula.Proofs.Nesting.Passes
import SheetFormula.Proofs.Nesting.Vacancy
import SheetFormula.Proofs.Config.Lines
import SheetFormula.Proofs.Config.Updates
import SheetFormula.Proofs.RoundTrip.References
import SheetFormula.Proofs.RoundTrip.Segments
import SheetFormula.Proofs.RoundTrip.Stability
import SheetFormula.Proofs.RoundTrip.Runs
import SheetFormula.Proofs.Layout.Depth
import SheetFormula.Proofs.Layout.Spelling
import SheetFormula.Proofs.Layout.ArrayRows
import SheetFormula.Proofs.Layout.Attachment
import SheetFormula.Proofs.Passes.Classification
import SheetFormula.Proofs.Passes.Intersections
import SheetFormula.Proofs.Scan.Relocation
import SheetFormula.Proofs.Passes.Spaces
import SheetFormula.Proofs.Passes.Texts
import SheetFormula.Proofs.Layout.Expressions
import SheetFormula.Proofs.Layout.Breaks
import SheetFormula.Proofs.Layout.Lines
import SheetFormula.Proofs.Config.Loading
import SheetFormula.Proofs.Scan.Unknowns
import SheetFormula.Proofs.RoundTrip.Operands
import SheetFormula.Proofs.Number.Grammar
import SheetFormula.Proofs.RoundTrip.Numbers
import SheetFormula.Proofs.Cells.Wildcards
import SheetFormula.Proofs.Reference.Toggle
import SheetFormula.Proofs.Reference.IndirectCalls
import SheetFormula.Proofs.Layout.ArrayLiterals
import SheetFormula.Proofs.Cells.ArrayFormulas
import SheetFormula.Proofs.Cells.Duplicates
import SheetFormula.Proofs.Link.Identifiers
import SheetFormula.Proofs.Scan.Consistency
