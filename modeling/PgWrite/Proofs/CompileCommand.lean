import PgWrite.Proofs.JsonLine
import PgWrite.Proofs.Names
import PgWrite.Proofs.RequestFaults
import PgWrite.Proofs.RequestNames

/-!
# The command that compiles a document

A document is answered with one line that describes the compiled query, or with an error message.
It is not answered if an integer in it has too many digits or its values lie too deep in one
another, if an entry of a mapping that is given as a list is no pair, if a name is no text, or if
the reuse policy is given by something that is no text. Nor is it answered if the output cannot
write the line, as UTF-8 cannot if half of a surrogate pair is in it. These are all the documents
that are not answered.
-/

namespace PgWrite

/-! ## Names that can be written -/

namespace Transaction

end Transaction

namespace Cli

/-! ## The command line -/

end Cli

end PgWrite
