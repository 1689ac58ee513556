import TypedPrefs.Main
import TypedPrefs.Expansion
import TypedPrefs.Enums.Definition
import TypedPrefs.Samples
import TypedPrefs.Proofs.Blueprint.GroupNames
import TypedPrefs.Proofs.Blueprint.Shadowing
import TypedPrefs.Proofs.Types.Answers
import TypedPrefs.Proofs.Session.Clearing
import TypedPrefs.Proofs.Session.Editors
import TypedPrefs.Proofs.Session.ReadBack
import TypedPrefs.Proofs.Session.Storage
import TypedPrefs.Proofs.Generated.Names
import TypedPrefs.Proofs.Types.Fitting
import TypedPrefs.Proofs.Persist.Declaring
import TypedPrefs.Proofs.Persist.TypeTokens
import TypedPrefs.Proofs.Blueprint.TypeOrder
import TypedPrefs.Proofs.FrontEnds
import TypedPrefs.Proofs.Types.NameCycles
import TypedPrefs.Proofs.Types.OwnSupertypes
import TypedPrefs.Proofs.Code.Identifiers
import TypedPrefs.Proofs.Blueprint.DeclaredTypes
import TypedPrefs.Proofs.Blueprint.Hierarchy
import TypedPrefs.Proofs.Blueprint.Candidates
import TypedPrefs.Proofs.Blueprint.AccessorCollisions
import TypedPrefs.Proofs.Blueprint.Collisions
import TypedPrefs.Proofs.Number.Values
import TypedPrefs.Proofs.Number.Nearest
import TypedPrefs.Proofs.Number.Decimals
import TypedPrefs.Proofs.Number.Numerals
import TypedPrefs.Proofs.Code.StringLiterals
import TypedPrefs.Proofs.Persist.Evaluation
import TypedPrefs.Proofs.Persist.Declared
import TypedPrefs.Proofs.Session.UnsetDefaults
import TypedPrefs.Proofs.Persist.FloatingDefaults
import TypedPrefs.Proofs.Persist.IntegerDefaults
import TypedPrefs.Proofs.Blueprint.ProblemPlaces
import TypedPrefs.Proofs.Text.Quotation
import TypedPrefs.Proofs.Enums.Derivation
import TypedPrefs.Proofs.Persist.Enums
import TypedPrefs.Proofs.Types.PrintedForms
import TypedPrefs.Proofs.Blueprint.Inheritance
import TypedPrefs.Proofs.Text.LetterCase
import TypedPrefs.Proofs.Document.Lines
import TypedPrefs.Proofs.Naming.SnakeCase
import TypedPrefs.Proofs.Types.Lines
import TypedPrefs.Proofs.Blueprint.Lines
import TypedPrefs.Proofs.Report.Lines
