import RecordTemplate.MissingField
import RecordTemplate.Text.Quoted

/-!
What is noted down when a template has no output for a record. A log is a value: what is logged is
returned beside the result.
-/

set_option autoImplicit false
set_option relaxedAutoImplicit false

namespace RecordTemplate

inductive LogEntry
  /-- The template with this source had no output. -/
  | noOutput (source : String) (missing : MissingField)
  /-- The template with this source, at this place in a list, had no output. -/
  | noOutputAt (index : Nat) (source : String) (missing : MissingField)
  deriving DecidableEq, Repr

namespace LogEntry

/-- The source of the template without output. -/
def source : LogEntry → String
  | noOutput source _ | noOutputAt _ source _ => source

/-- What the record lacks. -/
def missing : LogEntry → MissingField
  | noOutput _ missing | noOutputAt _ _ missing => missing

/-- The place of the template, if it stands in a list. -/
def index? : LogEntry → Option Nat
  | noOutput _ _ => none
  | noOutputAt index _ _ => some index

def message : LogEntry → String
  | noOutput source missing =>
    "template " ++ Text.quote source ++ " produced no value: " ++ missing.message
  | noOutputAt index source missing =>
    "template #" ++ toString index ++ " (" ++ Text.quote source ++ ") produced no value: " ++
      missing.message

/-- A message quotes the source behind the place in the list, if there is one, and ends in the
message of what is missing. -/
theorem exists_message_eq (entry : LogEntry) :
    ∃ lead between, entry.message =
        lead ++ Text.quote entry.source ++ between ++ entry.missing.message ∧
      ∀ index ∈ entry.index?, (toString index).toList <:+: lead.toList := by
  cases entry with
  | noOutput source missing =>
    exact ⟨"template ", " produced no value: ", rfl, by simp [index?]⟩
  | noOutputAt index source missing =>
    refine ⟨"template #" ++ toString index ++ " (", ") produced no value: ", rfl, ?_⟩
    intro other hother
    obtain rfl := Option.some.inj hother
    rw [String.toList_append, String.toList_append]
    exact List.infix_append _ _ _

end LogEntry

/-- A result and what was logged on the way to it. -/
structure Logged (α : Type) where
  value : α
  log : List LogEntry
  deriving DecidableEq, Repr

/-- The results of a list of logged computations, and their logs one after the other. -/
def Logged.sequence {α : Type} (results : List (Logged α)) : Logged (List α) :=
  ⟨results.map Logged.value, results.flatMap Logged.log⟩

end RecordTemplate
