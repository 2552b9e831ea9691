import PgWrite.Config.RuleFile
import PgWrite.Proofs.Success

/-!
# Faults of rule files

A rule file that is present but cannot be used is a fault of the configuration, with four
exceptions: a directory stands in its place, its octets are no text, a scalar or the depth of its
document is a fault of its own, or its document is a mapping with a key that is no text. These are
all.
-/

namespace PgWrite

/-- The octets at the path are a text. -/
def Files.Reads (files : Files) (path text : String) : Prop :=
  ∃ octets, files.find (Path.ofText path) = .file octets ∧ decodeText? octets = some text

namespace RuleFile

end RuleFile

end PgWrite
