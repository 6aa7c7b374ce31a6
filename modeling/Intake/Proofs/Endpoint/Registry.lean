import Intake.Endpoint
import Intake.Proofs.Lookup

/-!
# Looking up parameters

An endpoint finds each of its parameters by its id and by its name, since both are unique.
-/

namespace Intake

namespace Endpoint

variable {e : Endpoint} {p : Parameter}

theorem parameter?_eq_some_iff {id : ParameterId} :
    e.parameter? id = some p ↔ p ∈ e.parameters ∧ p.id = id :=
  find?_eq_some_iff_of_nodup Parameter.id e.wellFormed.ids_distinct

theorem named?_eq_some_iff {name : String} :
    e.named? name = some p ↔ p ∈ e.parameters ∧ p.name = name :=
  find?_eq_some_iff_of_nodup Parameter.name e.wellFormed.names_distinct

theorem parameter?_of_mem (h : p ∈ e.parameters) : e.parameter? p.id = some p :=
  parameter?_eq_some_iff.mpr ⟨h, rfl⟩

theorem mem_of_parameter? {id : ParameterId} (h : e.parameter? id = some p) :
    p ∈ e.parameters ∧ p.id = id :=
  parameter?_eq_some_iff.mp h

theorem named?_of_mem (h : p ∈ e.parameters) : e.named? p.name = some p :=
  named?_eq_some_iff.mpr ⟨h, rfl⟩

/-- Every default gives one value. -/
def ConstantDefaults (e : Endpoint) : Prop :=
  ∀ p ∈ e.parameters, ∀ d, p.default = some d → ∃ v, d = .fixed v

end Endpoint

/-! ## An endpoint of searches -/

namespace Parameter

/-- How many results are asked for, always the same number. -/
def limit : Parameter :=
  { id := ⟨1⟩, name := "limit", kind := .integer, mutability := .constant }

/-- The order of the results, always the same one. -/
def order : Parameter :=
  { id := ⟨2⟩, name := "order", kind := .string, mutability := .constant
    default := some (.fixed (.string "rising")) }

def label : Parameter := { id := ⟨3⟩, name := "label", necessity := .optional }

end Parameter

namespace Endpoint

def search : Endpoint :=
  ⟨"search", .clientStream, [.limit, .order, .label], (fault?_eq_none_iff _ _).mp (by decide)⟩

theorem search_constantDefaults : search.ConstantDefaults := by
  intro p hp d hd
  simp only [search, List.mem_cons, List.not_mem_nil, or_false] at hp
  rcases hp with rfl | rfl | rfl
  · cases hd
  · cases hd
    exact ⟨_, rfl⟩
  · cases hd

end Endpoint

end Intake
