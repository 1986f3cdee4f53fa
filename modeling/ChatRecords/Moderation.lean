import ChatRecords.Record.Construction

/-!
# Moderation

## Main definitions

* `ModerationRule.exempts`: whether a rule leaves out a channel or the holder of some roles.
* `AuditLog.entriesFor`: the entries of a log about one kind of action.
-/

namespace ChatRecords
namespace ModerationRule

def idNumbers (field : String) (rule : Record) : List Int :=
  (rule.get field).items.filterMap fun v => v.id?.map fun x => (x.raw : Int)

/-- Whether a rule leaves out a channel, or a member who holds some roles. -/
def exempts (rule : Record) (roles : List Int) (channel : Option Int) : Bool :=
  (match channel with
    | some id => (idNumbers "exempt_channels" rule).contains id
    | none => false) ||
  roles.any fun id => (idNumbers "exempt_roles" rule).contains id

end ModerationRule

namespace AuditLog

/-- The entries of a log about one kind of action. -/
def entriesFor (log : Record) (action : Code) : List Record :=
  (log.get "audit_log_entries").records.filter fun entry =>
    (entry.get "action_type").code? = some action

end AuditLog
end ChatRecords
