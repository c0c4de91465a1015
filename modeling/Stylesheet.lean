import Stylesheet.Main
import Stylesheet.Proofs.Computation
import Stylesheet.Proofs.Development
import Stylesheet.Proofs.Composition
import Stylesheet.Proofs.Orderly
import Stylesheet.Proofs.Bracketing
import Stylesheet.Proofs.Finished
import Stylesheet.Proofs.Retry
import Stylesheet.Proofs.Passes
import Stylesheet.Proofs.Reentrancy
import Stylesheet.Proofs.Deeds
import Stylesheet.Proofs.Course
import Stylesheet.Proofs.Nesting
import Stylesheet.Proofs.CallTree
import Stylesheet.Proofs.Document
import Stylesheet.Proofs.Declarations
import Stylesheet.Proofs.Spelling
import Stylesheet.Proofs.Desugaring
import Stylesheet.Proofs.Bodies
import Stylesheet.Proofs.Includes
import Stylesheet.Proofs.Wording
import Stylesheet.Proofs.Embedding
import Stylesheet.Proofs.Compilation
import Stylesheet.Proofs.World
import Stylesheet.Proofs.Files
import Stylesheet.Proofs.Paths
import Stylesheet.Proofs.References
import Stylesheet.Proofs.Expansion
import Stylesheet.Proofs.SecondExpansion
import Stylesheet.Proofs.Configuration
import Stylesheet.Proofs.Settings
import Stylesheet.Proofs.Sections
import Stylesheet.Proofs.Gaps
import Stylesheet.Proofs.Numerals
import Stylesheet.Proofs.ReferredSettings
import Stylesheet.Proofs.Acts
import Stylesheet.Proofs.Delivery
import Stylesheet.Proofs.FailedBuild
import Stylesheet.Proofs.Logging
import Stylesheet.Proofs.Streams
import Stylesheet.Proofs.Decoding
import Stylesheet.Proofs.Joining
import Stylesheet.Proofs.Repeats
import Stylesheet.Proofs.FailedIncludes
import Stylesheet.Proofs.Vocabularies
import Stylesheet.Proofs.Versions
import Stylesheet.Proofs.JsonText
import Stylesheet.Proofs.JsonLines
import Stylesheet.Proofs.TokenFaults
import Stylesheet.Proofs.DocumentFaults
import Stylesheet.Proofs.LoadFaults
import Stylesheet.Proofs.DefaultFile
import Stylesheet.Proofs.Checks
import Stylesheet.Proofs.MethodNames
import Stylesheet.Proofs.Readings
import Stylesheet.Proofs.AddedWords
