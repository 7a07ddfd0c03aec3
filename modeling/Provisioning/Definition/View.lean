import Provisioning.Resource.Definition

/-!
The definition of the view behind an output port.
-/
namespace Provisioning

def OutputPortSpec.definition (s : OutputPortSpec) (comment : Option String) : ViewDefinition :=
  ⟨s.catalog, s.schema, s.view, s.source.fullName, comment⟩

end Provisioning
