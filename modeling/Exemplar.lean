import Exemplar.Builder.Call
import Exemplar.Samples.Reader
import Exemplar.Proofs.Builder.Failure
import Exemplar.Proofs.Builder.Grounded
import Exemplar.Proofs.Builder.Independence
import Exemplar.Proofs.Builder.Inline
import Exemplar.Proofs.Builder.Kinds
import Exemplar.Proofs.Builder.Log
import Exemplar.Proofs.Builder.Lookup
import Exemplar.Proofs.Builder.Repeated
import Exemplar.Proofs.Builder.Target
import Exemplar.Proofs.Builder.Tree
import Exemplar.Proofs.Calendar.Grammar
import Exemplar.Proofs.Calendar.Literal
import Exemplar.Proofs.Calendar.Translation
import Exemplar.Proofs.Calendar.Shift
import Exemplar.Proofs.Generator.Example
import Exemplar.Proofs.Path.Rendering
import Exemplar.Proofs.Pattern.Anchor
import Exemplar.Proofs.Pattern.Specimen
import Exemplar.Proofs.Registry.Decoding
import Exemplar.Proofs.Calendar.Numeral
import Exemplar.Proofs.Calendar.Timestamp
import Exemplar.Proofs.Calendar.Written
import Exemplar.Proofs.Calendar.Spelling
import Exemplar.Proofs.Calendar.Meaning
import Exemplar.Proofs.Calendar.Totals
import Exemplar.Proofs.Generator.Deferral
import Exemplar.Proofs.Calendar.Recognition
import Exemplar.Proofs.Pattern.Readable
import Exemplar.Proofs.Samples.Partial
