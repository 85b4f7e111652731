import NodeFlags.Schema.Cluster
import NodeFlags.Yaml.Reading

/-!
# Cluster definitions in YAML

A definition is the only document of a text. What the document holds is read as far
as it goes, so a problem with its data is reported before a flaw further on in the
text. A text without documents is an empty record.
-/

namespace NodeFlags

/-- Read a definition from a text in YAML. -/
def Definition.readYaml (text : String) : Except ReadError Definition :=
  let document := Yaml.Document.read text
  let root := document.root.getD .blank
  match ((Yaml.Scope.ofRoot root).reader.definition ⟨"", root⟩).run 0 with
  | .error e => .error e
  | .ok (d, _) => if document.complete then .ok d else .error .malformed

end NodeFlags
