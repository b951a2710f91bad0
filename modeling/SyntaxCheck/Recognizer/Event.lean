import SyntaxCheck.Derivation.Basic
import SyntaxCheck.Token.Basic

/-!
# What happens while a text is checked

* `Event` - one thing that happens;
* `Event.step?` - what a record keeps of an event;
* `Event.steps` - what a record keeps of a run.
-/

namespace SyntaxCheck

/-- What a program defines. -/
inductive DefinitionSort
  | function
  | type
  deriving DecidableEq

/-- One thing that happens while a text is checked. -/
inductive Event
  /-- A token was scanned; the end of the input may be scanned more than once. -/
  | scanned (token : Token)
  /-- A rule was entered at the place of the current token. -/
  | entered (rule : Rule) (span : Span)
  /-- The name of a definition was taken. -/
  | defined (sort : DefinitionSort) (name : Token)
  /-- Part of an expression was recognized. -/
  | grouped (step : Step)
  /-- The whole input was recognized, up to its end at this place. -/
  | completed (span : Span)
  deriving DecidableEq

namespace Event

/-- What a record keeps of an event. -/
def step? : Event → Option Step
  | .entered rule _ => some (.enter rule)
  | .grouped step => some step
  | _ => none

/-- What a record keeps of the events of a run. -/
def steps (events : List Event) : Derivation :=
  events.filterMap step?

@[simp] theorem steps_nil : steps [] = [] := rfl

@[simp] theorem steps_append (a b : List Event) : steps (a ++ b) = steps a ++ steps b :=
  List.filterMap_append

end Event

end SyntaxCheck
