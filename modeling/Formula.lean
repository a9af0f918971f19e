import Formula.Journal
import Formula.Main
import Formula.Parser
import Formula.Proofs.TextRuns
import Formula.Proofs.RuleCourse
import Formula.Proofs.GrammarRoom
import Formula.Proofs.GrammarPhrases
import Formula.Proofs.GrammarRecognition
import Formula.Proofs.GrammarUniqueness
import Formula.Proofs.GrammarPrograms
import Formula.Proofs.GrammarBeginnings
import Formula.Proofs.GrammarDiagnosis
import Formula.Proofs.GrammarFaults
import Formula.Proofs.GrammarBlame
import Formula.Proofs.LexingExactness
import Formula.Proofs.LexingSegmentation
import Formula.Proofs.Printing
import Formula.Proofs.PrintingImage
import Formula.Proofs.PrintingStretches
import Formula.Proofs.PrintingRoundTrip
import Formula.Proofs.LexingUnknown
import Formula.Proofs.GrammarLikeness
import Formula.Proofs.LexingConcatenation
import Formula.Proofs.SourceCuts
import Formula.Proofs.SourceConcatenation
import Formula.Proofs.NestingBalance
import Formula.Proofs.NestingOverrun
import Formula.Proofs.NestingLimit
import Formula.Proofs.ParserRuns
import Formula.Proofs.LexingResumption
import Formula.Proofs.LexingRendering
import Formula.Proofs.LexingDisplacement
import Formula.Proofs.SourceLayout
import Formula.Proofs.SessionComposition
import Formula.Proofs.OperatorStack
import Formula.Proofs.OperatorOrder
import Formula.Proofs.GrammarTruthfulness
import Formula.Proofs.NumberRounding
import Formula.Proofs.SourceLiterals
import Formula.Proofs.NestingPaths
import Formula.Proofs.ParserReadings
import Formula.Proofs.GrammarNumerals
import Formula.Proofs.SourceErrors
import Formula.Proofs.CursorRuns
import Formula.Proofs.OptionsArguments
import Formula.Proofs.CommandOutcome
import Formula.Proofs.NumberShortest
import Formula.Proofs.NumberWriting
import Formula.Proofs.TextQuoting
import Formula.Proofs.OutlineReading
import Formula.Proofs.ShownPrograms
import Formula.Proofs.GrammarRoom
