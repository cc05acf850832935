import UsageMeter.Proofs.Logging.Body
import UsageMeter.Proofs.Logging.Carriers

/-!
Levels of loggers, told from the history. A logger has the level of the setup that was configured on
it last, whichever setups it carries besides, and each of them hears what passes that level and its
own.
-/
namespace UsageMeter.Logging
namespace Router
variable {r : Router}

/-! ## The level of a logger -/

end Router

/-! ## Source and severity -/

/-- A record says where it comes from and how severe it is. -/
structure Record.Stems (scope severity : String) (r : Record) : Prop where
  scope : r.get "name" = .str scope
  severity : r.get "levelname" = .str severity

theorem Record.Stems.structured {scope severity : String} (r r' : Record) (resource : Resource)
    (h : r.structured resource = .ok r') (hr : r.Stems scope severity) :
    r'.Stems scope severity := by
  obtain ⟨message, time, -, -, rfl⟩ := exists_of_structured_eq_ok h
  refine ⟨?_, ?_⟩
  · rw [get, get?_restructured (by decide) (by decide) (by decide)]
    exact hr.scope
  · rw [get, get?_restructured (by decide) (by decide) (by decide)]
    exact hr.severity

theorem Call.written_record {c : Call} {record : Record} (h : c.record = .ok record) :
    record.written = (Timestamp.writtenOfValue c.created).mapError RecordError.timestamp := by
  rw [Record.written, Record.get, Call.get?_record h (by decide), Call.bare, Record.get?_make]
  rfl

theorem Router.mem_handedTo_iff {r : Router} {c : Call} {i : Nat} {d : Delivered} :
    d ∈ r.handedTo c i ↔ (i, d) ∈ r.handedBy c := by
  rw [handedTo, List.mem_map]
  constructor
  · rintro ⟨e, he, rfl⟩
    obtain ⟨hm, hi⟩ := List.mem_filter.1 he
    rwa [← of_decide_eq_true hi]
  · intro hm
    exact ⟨(i, d), List.mem_filter.2 ⟨hm, decide_eq_true rfl⟩, rfl⟩

namespace Router

end Router

end UsageMeter.Logging
