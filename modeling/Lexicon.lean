import Lexicon.Handler
import Lexicon.Lexer.Recovery
import Lexicon.Main
import Lexicon.Proofs.Lexer.Failure
import Lexicon.Proofs.Registry.Refinement
import Lexicon.Proofs.Lexer.Alignment
import Lexicon.Proofs.Lexer.Verdict
import Lexicon.Proofs.ValueTable
import Lexicon.Proofs.Lexer.References
import Lexicon.Proofs.Lexer.Lifecycle
import Lexicon.Proofs.Lexer.Drivers
import Lexicon.Proofs.Lexer.Termination
import Lexicon.Proofs.Lexer.Consultation
import Lexicon.Proofs.Lexer.Restart
import Lexicon.Proofs.Regex.Reading.Anchor
import Lexicon.Proofs.Regex.Switches
import Lexicon.Proofs.Registry.Anchoring
import Lexicon.Proofs.Lookahead
import Lexicon.Proofs.Regex.Composition
import Lexicon.Proofs.Registry.Composition
import Lexicon.Proofs.Registry.Literal
import Lexicon.Proofs.CommandLine
import Lexicon.Proofs.RuleSet.RoundTrip
import Lexicon.Proofs.RuleSet.Language
import Lexicon.Proofs.Listing
import Lexicon.Proofs.ValueTable.Sequence
import Lexicon.Proofs.RuleSet.Application
