/-!
Writing to something that may refuse. A writer is handed one fragment of text after the other and
accepts or refuses each. A computation that writes goes on after an accepted fragment; a refusal
ends it, unless it is caught, and is its result then. It can also abort, when a text that is to be
written cannot be formed.
-/

set_option autoImplicit false
set_option relaxedAutoImplicit false

namespace RecordTemplate

/-! ### Writers -/

/-- The refusal of a fragment. A writer gives no reason. -/
inductive WriteError
  | refused
  deriving DecidableEq, Repr

/-- The writers whose states are of a type. A fragment leads to another state also when it is
refused: a part of it may have been written. -/
class Writer (σ : Type) where
  accept : String → σ → Except WriteError Unit × σ

/-- A text to which everything can be appended. -/
instance : Writer String where
  accept fragment text := (.ok (), text ++ fragment)

/-- A writer with room for a number of characters. -/
structure BoundedWriter where
  text : String
  room : Nat
  deriving DecidableEq, Repr

/-- A fragment that has not enough room is refused, but its first characters fill the room. -/
instance : Writer BoundedWriter where
  accept fragment writer :=
    if fragment.length ≤ writer.room then
      (.ok (), ⟨writer.text ++ fragment, writer.room - fragment.length⟩)
    else
      (.error .refused, ⟨writer.text ++ String.ofList (fragment.toList.take writer.room), 0⟩)

/-! ### Computations that write -/

/-- Computations that write to a writer. They end well, or with a refusal, or abort. -/
abbrev Writing (σ : Type) : Type → Type :=
  ExceptT WriteError (StateT σ Option)

/-- What a writer has accepted, and whether that was all there is to write. -/
structure Written where
  text : String
  complete : Bool
  deriving DecidableEq, Repr

namespace Writing

variable {σ α : Type}

/-- The result and the writer at the end, unless the computation aborts. -/
def runOn (writing : Writing σ α) (writer : σ) : Option (Except WriteError α × σ) :=
  (ExceptT.run writing).run writer

/-- A fragment is handed to the writer, and what the writer says is the result. -/
def write [Writer σ] (fragment : String) : Writing σ Unit :=
  fun writer ↦ some (Writer.accept fragment writer)

/-- A value that has to be there, or else the computation aborts. -/
def demand (value? : Option α) : Writing σ α :=
  fun writer ↦ value?.map fun value ↦ (.ok value, writer)

/-- The whole text that a computation writes, unless it aborts. A text refuses nothing, so the result
is not looked at. -/
def text? (writing : Writing String Unit) : Option String :=
  (writing.runOn "").map Prod.snd

/-- The outcome of writing to a writer with room for a number of characters. -/
def writeUpTo (limit : Nat) (writing : Writing BoundedWriter Unit) : Option Written :=
  (writing.runOn ⟨"", limit⟩).map fun (result, writer) ↦ ⟨writer.text, result.isOk⟩

end Writing

end RecordTemplate
