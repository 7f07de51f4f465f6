import Reckoner.Main
import Reckoner.Parser.Call
import Reckoner.Expr.Print
import Reckoner.Token.Standing
import Reckoner.Proofs.Phrases
import Reckoner.Proofs.Reading
import Reckoner.Proofs.Calls
import Reckoner.Proofs.Evaluation
import Reckoner.Proofs.Worth
import Reckoner.Proofs.Scanning
import Reckoner.Proofs.Nesting
import Reckoner.Proofs.Walking
import Reckoner.Proofs.Sequences
import Reckoner.Proofs.Numerals
import Reckoner.Proofs.Printing
import Reckoner.Proofs.Answers
import Reckoner.Proofs.Cutting
import Reckoner.Proofs.Spacing
import Reckoner.Proofs.Replacing
import Reckoner.Proofs.Results
import Reckoner.Proofs.Magnitude
import Reckoner.Proofs.Lookahead
import Reckoner.Proofs.States
import Reckoner.Proofs.Obstacles
import Reckoner.Proofs.Depth
import Reckoner.Proofs.Sight
import Reckoner.Proofs.Lexemes
import Reckoner.Proofs.Messages
import Reckoner.Proofs.Logging
import Reckoner.Proofs.Outcomes
import Reckoner.Proofs.Quotients
import Reckoner.Proofs.Quoting
import Reckoner.Proofs.Gaps
import Reckoner.Proofs.Capitals
import Reckoner.Proofs.Fields
