import SourceModel.Main
import SourceModel.Scripted
import SourceModel.Proofs.TypeExpr.Grammar
import SourceModel.Proofs.TypeExpr.Soundness
import SourceModel.Proofs.TypeExpr.Completeness
import SourceModel.Proofs.TypeExpr.Parameters
import SourceModel.Proofs.TypeExpr.LongestExpression
import SourceModel.Proofs.QualifiedName
import SourceModel.Proofs.ShortNames
import SourceModel.Proofs.ImportBlock
import SourceModel.Proofs.TypeExpr.RoundTrip
import SourceModel.Proofs.TypeExpr.WrittenParameters
import SourceModel.Proofs.ModelRendering
import SourceModel.Proofs.MissingTypes
import SourceModel.Proofs.StackedText
import SourceModel.Proofs.Layout
import SourceModel.Proofs.NamesAndPassages
import SourceModel.Proofs.FileLayout
import SourceModel.Proofs.VisibleEnds
import SourceModel.Proofs.Demands
import SourceModel.Proofs.BuilderOrder
import SourceModel.Proofs.LifecycleHistory
import SourceModel.Proofs.RegistryHistory
import SourceModel.Proofs.Overrides
import SourceModel.Proofs.DocumentMirror
import SourceModel.Proofs.UnknownKeys
import SourceModel.Proofs.FailingRenderers
import SourceModel.Proofs.GainedParts
import SourceModel.Proofs.Joins
import SourceModel.Proofs.DeclarationLines
import SourceModel.Proofs.RunStages
import SourceModel.Proofs.WriterRuns
import SourceModel.Proofs.TypeExpr.Angles
import SourceModel.Proofs.TypeExpr.Failures
import SourceModel.Proofs.TypeExpr.Diagnosis
import SourceModel.Proofs.TypeExpr.CutTexts
import SourceModel.Proofs.Confinement
import SourceModel.Proofs.PackageDirectories
import SourceModel.Proofs.ClashingImports
import SourceModel.Proofs.RegistryMerges
import SourceModel.Proofs.CommentEnds
import SourceModel.Proofs.ImportOwners
import SourceModel.Proofs.ClientNodes
import SourceModel.Proofs.BlockBodies
