namespace MeshDiscovery

variable {ε ε' α β : Type} {first : Except ε α}

theorem bind_eq_ok {next : α → Except ε β} {result : β} (done : first.bind next = .ok result) :
    ∃ value, first = .ok value ∧ next value = .ok result := by
  cases first with
  | error problem => cases done
  | ok value => exact ⟨value, rfl, done⟩

theorem map_eq_ok {f : α → β} {result : β} (done : first.map f = .ok result) :
    ∃ value, first = .ok value ∧ f value = result := by
  cases first with
  | error problem => cases done
  | ok value => exact ⟨value, rfl, Except.ok.inj done⟩

theorem mapError_eq_ok {f : ε → ε'} {result : α} (done : first.mapError f = .ok result) :
    first = .ok result := by
  cases first with
  | error problem => cases done
  | ok value => exact congrArg Except.ok (Except.ok.inj done)

/-- A result is there if something is seen of it. -/
theorem exists_of_seen {f : α → β} {seen : β} (look : first.toOption.map f = some seen) :
    ∃ value, first = .ok value ∧ f value = seen := by
  cases first with
  | error problem => cases look
  | ok value => exact ⟨value, rfl, Option.some.inj look⟩

end MeshDiscovery
