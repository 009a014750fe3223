namespace MeshDiscovery.Text

variable {p : Char → Bool} {first rest : List Char}

theorem takeWhile_append_of_stops (inside : ∀ c ∈ first, p c = true)
    (stops : ∀ c ∈ rest.head?, p c = false) : (first ++ rest).takeWhile p = first := by
  rw [List.takeWhile_append_of_pos inside]
  cases rest with
  | nil => simp
  | cons c _ => simp [stops c rfl]

theorem dropWhile_append_of_stops (inside : ∀ c ∈ first, p c = true)
    (stops : ∀ c ∈ rest.head?, p c = false) : (first ++ rest).dropWhile p = rest := by
  rw [List.dropWhile_append_of_pos inside]
  cases rest with
  | nil => rfl
  | cons c _ => simp [stops c rfl]

section Separator

variable {separator : Char} (absent : separator ∉ first)

include absent

private theorem ne_separator (c : Char) (member : c ∈ first) : decide (c ≠ separator) = true :=
  decide_eq_true fun same => absent (same ▸ member)

theorem takeWhile_append_separator :
    (first ++ separator :: rest).takeWhile (· ≠ separator) = first :=
  takeWhile_append_of_stops (ne_separator absent) (by simp)

theorem dropWhile_append_separator :
    (first ++ separator :: rest).dropWhile (· ≠ separator) = separator :: rest :=
  dropWhile_append_of_stops (ne_separator absent) (by simp)

/-- Texts that are joined by a separator are the same exactly if their parts are, as long as the
first parts do not contain it. -/
theorem append_separator_inj {other tail : List Char} (missing : separator ∉ other) :
    first ++ separator :: rest = other ++ separator :: tail ↔ first = other ∧ rest = tail := by
  constructor
  · intro same
    have taken := congrArg (List.takeWhile (· ≠ separator)) same
    have dropped := congrArg (List.dropWhile (· ≠ separator)) same
    rw [takeWhile_append_separator absent, takeWhile_append_separator missing] at taken
    rw [dropWhile_append_separator absent, dropWhile_append_separator missing] at dropped
    exact ⟨taken, (List.cons.inj dropped).2⟩
  · rintro ⟨rfl, rfl⟩
    rfl

end Separator

variable {separator : Char} {text : List Char}

theorem notMem_takeWhile : separator ∉ text.takeWhile (· ≠ separator) := fun member => by
  simpa using List.all_eq_true.mp List.all_takeWhile separator member

theorem eq_append_of_dropWhile {c : Char}
    (behind : text.dropWhile (· ≠ separator) = c :: rest) :
    c = separator ∧ text = text.takeWhile (· ≠ separator) ++ separator :: rest := by
  have stops := List.head?_dropWhile_not (· ≠ separator) text
  have whole := List.takeWhile_append_dropWhile (p := (· ≠ separator)) (l := text)
  rw [behind] at stops whole
  obtain rfl : c = separator := by simpa using stops
  exact ⟨rfl, whole.symm⟩

end MeshDiscovery.Text
