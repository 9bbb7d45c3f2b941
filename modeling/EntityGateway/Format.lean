/-
Formats of texts as the gateway uses them.

Of an address of electronic mail the gateway asks little, and looks for that itself. Which texts are UUIDs and which are
timestamps is the business of readers, and the gateway only asks them. Nothing else is supposed of them.
-/

namespace EntityGateway.Format

/-- readers of texts that are in a format -/
class Readers where
  isUuid : String → Bool
  isTimestamp : String → Bool

end EntityGateway.Format
