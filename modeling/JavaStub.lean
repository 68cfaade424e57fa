import JavaStub.Main
import JavaStub.Proofs.Bodies
import JavaStub.Proofs.Refusal
import JavaStub.Proofs.Completeness.Units
import JavaStub.Proofs.Grammar.Declarations
import JavaStub.Proofs.Fidelity
import JavaStub.Proofs.AllOrNothing
import JavaStub.Proofs.Stability
import JavaStub.Proofs.Layout
import JavaStub.Proofs.Lexing.Exclusive
import JavaStub.Proofs.Lexing.LineEnds
import JavaStub.Proofs.Lexing.LongestMatch
import JavaStub.Proofs.Lexing.Respacing
import JavaStub.Proofs.Lexing.TextBlocks
import JavaStub.Proofs.Lexing.Tiling
import JavaStub.Proofs.Printing.Naming
import JavaStub.Proofs.Printing.Rereading
import JavaStub.Proofs.BannerComment
import JavaStub.Proofs.ImportBlock
import JavaStub.Proofs.Placeholders
import JavaStub.Proofs.BannerPath
import JavaStub.Proofs.Settings
import JavaStub.Proofs.Progress.Declarations
import JavaStub.Proofs.Shifts.Agreement
import JavaStub.Proofs.Spans.Nesting
import JavaStub.Proofs.UnchangedFiles
import JavaStub.Proofs.GroupExtent
import JavaStub.Proofs.PackageDeclaration
