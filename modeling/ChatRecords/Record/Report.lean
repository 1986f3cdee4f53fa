import ChatRecords.Log.Entry
import ChatRecords.Record.Decoding
import ChatRecords.Record.Kind

/-!
# What decoding reports

Every mask with bits without a name is reported on its own at the lowest level, whether or not
the record is refused in the end; a record that was decoded is reported once more with all of
its warnings, at a level of choice.

## Main definitions

* `Decoding.maskEntries`: the entries about masks.
* `Decoding.logEntries`: the entries about a record.
-/

namespace ChatRecords
namespace Decoding

variable {α : Type}

/-- Whether some mask had bits without a name. -/
def lossy (d : Decoding α) : Bool := !d.warnings.isEmpty

/-- The entries about masks, one for each warning. -/
def maskEntries (d : Decoding α) : List Log.Entry :=
  d.warnings.map fun w => .of .debug "discord_models.bitfield" w.detail

/-- The entry about a decoded record with warnings. -/
def summaryEntry (kind : RecordKind) (level : Int) (warnings : List LossyFlags) : Log.Entry :=
  ⟨"discord_models.codec", level,
    "Lossy flag decode for " ++ kind.name ++ ": " ++
      "; ".intercalate (warnings.map LossyFlags.render)⟩

/-- The entries about a record: those about its masks, and one about the record if it was decoded
and there are warnings. -/
def logEntries (kind : RecordKind) (level : Int) (d : Decoding α) : List Log.Entry :=
  d.maskEntries ++
    match d.outcome with
    | .ok _ => if d.lossy then [summaryEntry kind level d.warnings] else []
    | .error _ => []

end Decoding
end ChatRecords
