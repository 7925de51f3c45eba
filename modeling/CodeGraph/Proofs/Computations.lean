/-
This file proves when a computation that may fail gives a result: in every part of it, a result is
given and passed on.
-/

namespace CodeGraph

/-- A computation in two parts succeeds if both of them do. -/
theorem bind_eq_ok {fault first second : Type} {computation : Except fault first}
    {next : first → Except fault second} {result : second} :
    computation >>= next = .ok result ↔
      ∃ value, computation = .ok value ∧ next value = .ok result := by
  cases computation with
  | error error => refine ⟨fun same => ?_, fun ⟨_, same, _⟩ => ?_⟩ <;> cases same
  | ok value =>
    exact ⟨fun same => ⟨value, rfl, same⟩, fun ⟨_, same, finish⟩ => Except.ok.inj same ▸ finish⟩

/-- A step that cannot fail adds nothing to a computation. -/
theorem pure_eq_ok {fault value : Type} {first result : value} :
    (pure first : Except fault value) = .ok result ↔ first = result :=
  ⟨Except.ok.inj, congrArg Except.ok⟩

end CodeGraph
