import BlockVocabulary.CompilePass
import BlockVocabulary.LayoutPass
import BlockVocabulary.Main
import BlockVocabulary.TextInterface
import BlockVocabulary.Proofs.TemplateElements
import BlockVocabulary.Proofs.LayoutContent
import BlockVocabulary.Proofs.UnknownFields
import BlockVocabulary.Proofs.MessageReading
import BlockVocabulary.Proofs.Collection
import BlockVocabulary.Proofs.Repeats
import BlockVocabulary.Proofs.Judgement
import BlockVocabulary.Proofs.Run
import BlockVocabulary.Proofs.Isolation
import BlockVocabulary.Proofs.Registration
import BlockVocabulary.Proofs.Faults
import BlockVocabulary.Proofs.DefaultChildren
import BlockVocabulary.Proofs.References
import BlockVocabulary.Proofs.Accounting
import BlockVocabulary.Proofs.Descriptors
import BlockVocabulary.Proofs.Composition
import BlockVocabulary.Proofs.Relaxation
import BlockVocabulary.Proofs.Policies
import BlockVocabulary.Proofs.Recompile
import BlockVocabulary.Proofs.Files
import BlockVocabulary.Proofs.Rerun
import BlockVocabulary.Proofs.Definitions
import BlockVocabulary.Proofs.Additions
import BlockVocabulary.Proofs.ResultShape
import BlockVocabulary.Proofs.Prediction
import BlockVocabulary.Proofs.WidgetArguments
import BlockVocabulary.Proofs.Refusals
import BlockVocabulary.Proofs.Permissive
import BlockVocabulary.Proofs.Chunks
import BlockVocabulary.Proofs.RowGrammar
import BlockVocabulary.Proofs.LineEnds
import BlockVocabulary.Proofs.Pieces
import BlockVocabulary.Proofs.Warnings
import BlockVocabulary.Proofs.Export
import BlockVocabulary.Proofs.Parameters
import BlockVocabulary.Proofs.Rearrangement
import BlockVocabulary.Proofs.ReferenceText
import BlockVocabulary.Proofs.RoundTrips
import BlockVocabulary.Proofs.ErrorLimit
import BlockVocabulary.Proofs.Finality
import BlockVocabulary.Proofs.ReadBack
