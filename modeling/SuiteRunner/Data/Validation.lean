import SuiteRunner.Data.Schema
import SuiteRunner.Data.Written

/-!
A validator: it finds the violations of a schema in data, demand by demand. A message that quotes data fails where
they cannot be written, and then there is no answer at all.
-/

namespace SuiteRunner

/-- The violation by the data as a whole, if there is one. -/
def violationIf (violated : Bool) (message : Except Fault Text) : Except Fault (List Violation) :=
  if violated then message.map fun t => [⟨[], t⟩] else .ok []

/-- The text by which keys are ordered. -/
def Scalar.sortText : Scalar → Except Fault Text
  | .text t => .ok t
  | .date d => .ok d.text
  | .dateTime t => .ok t.text
  | s => s.written

/-- The message about keys that are not allowed. -/
def unexpectedKeys (keys : List Scalar) : Except Fault Text := do
  let named ← keys.mapM fun key => do return (← key.sortText, ← key.written)
  let sorted := named.mergeSort fun a b => ! b.1.precedes a.1
  return "Additional properties are not allowed (".toList ++ commaSeparated (sorted.map Prod.snd) ++
    (if keys.length = 1 then " was".toList else " were".toList) ++ " unexpected)".toList

/-- What is found in each of two parts. -/
def inBoth (first others : Except Fault (List Violation)) : Except Fault (List Violation) :=
  first.bind fun found => others.map (found ++ ·)

mutual

/-- The violations of one demand. -/
def Demand.violations : Demand → Data → Except Fault (List Violation)
  | .kind kind, data =>
    violationIf (! kind.holds data) (data.written.map (· ++ " is not of type ".toList ++ kind.name.quoted))
  | .pattern pattern, .scalar (.text t) =>
    violationIf (! pattern.holds t) (.ok (t.quoted ++ " does not match ".toList ++ pattern.source.quoted))
  | .pattern _, _ => .ok []
  | .nonempty kind, data =>
    violationIf (kind.holds data && ! data.isTrue) (data.written.map (· ++ " should be non-empty".toList))
  | .oneOf values, data =>
    violationIf (! (data.text?.any fun t => values.contains t))
      (data.written.map (· ++ " is not one of ".toList ++ inBrackets (commaSeparated (values.map Text.quoted))))
  | .required names, .map fields =>
    .ok ((names.filter fun name => (fields.lookup (.text name)).isNone).map fun name =>
      ⟨[], name.quoted ++ " is a required property".toList⟩)
  | .required _, _ => .ok []
  | .closed names, .map fields =>
    let others := (fields.map Prod.fst).filter fun key => ! names.any fun name => key == .text name
    violationIf (! others.isEmpty) (unexpectedKeys others)
  | .closed _, _ => .ok []
  | .properties properties, data => propertyViolations properties data
  | .items demands, .list items =>
    (items.zipIdx.map fun (item, i) => (schemaViolations demands item).map (List.map (Violation.under (.index i)))).foldr
      inBoth (.ok [])
  | .items _, _ => .ok []

/-- The violations of all demands, in the order of the demands. -/
def schemaViolations : List Demand → Data → Except Fault (List Violation)
  | [], _ => .ok []
  | demand :: rest, data => inBoth (demand.violations data) (schemaViolations rest data)

/-- The violations of the values under the names that occur. -/
def propertyViolations : List (Text × List Demand) → Data → Except Fault (List Violation)
  | [], _ => .ok []
  | (name, demands) :: rest, data =>
    inBoth
      (match data.field? name with
      | none => .ok []
      | some value => (schemaViolations demands value).map (List.map (Violation.under (.name name))))
      (propertyViolations rest data)

end

end SuiteRunner
