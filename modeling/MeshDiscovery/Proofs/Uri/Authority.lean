import Mathlib.Data.List.Basic
import MeshDiscovery.Proofs.Result
import MeshDiscovery.Uri.Authority

namespace MeshDiscovery.Authority

/-- User information ends with an at sign. It may be left out. -/
def IsUserInfo (user : List Char) : Prop :=
  user = [] ∨ ∃ info, user = info ++ ['@']

/-- The authority has a colon where its host should begin. -/
def LacksHost (authority : List Char) : Prop :=
  ∃ user port, authority = user ++ ':' :: port ∧ IsUserInfo user ∧ '@' ∉ port

variable {authority : List Char}

theorem at_notMem_afterUserInfo (authority : List Char) : '@' ∉ afterUserInfo authority := by
  intro member
  have inside := List.all_eq_true.mp List.all_takeWhile '@' (List.mem_reverse.mp member)
  simp at inside

theorem exists_userInfo (authority : List Char) :
    ∃ user, authority = user ++ afterUserInfo authority ∧ IsUserInfo user := by
  have whole := List.takeWhile_append_dropWhile (p := (· ≠ '@')) (l := authority.reverse)
  have stop := List.head?_dropWhile_not (· ≠ '@') authority.reverse
  have joined : authority = (authority.reverse.dropWhile (· ≠ '@')).reverse ++
      afterUserInfo authority := by
    rw [afterUserInfo, ← List.reverse_append, whole, List.reverse_reverse]
  refine ⟨_, joined, ?_⟩
  cases left : authority.reverse.dropWhile (· ≠ '@') with
  | nil => exact .inl rfl
  | cons c info =>
    rw [left] at stop
    obtain rfl : c = '@' := by simpa using stop
    exact .inr ⟨info.reverse, List.reverse_cons⟩

theorem afterUserInfo_append {user place : List Char} (before : IsUserInfo user)
    (absent : '@' ∉ place) : afterUserInfo (user ++ place) = place := by
  have inside : ∀ c ∈ place.reverse, decide (c ≠ '@') = true := fun c member =>
    decide_eq_true fun same => absent (same ▸ List.mem_reverse.mp member)
  unfold afterUserInfo
  rw [List.reverse_append, List.takeWhile_append_of_pos inside]
  rcases before with rfl | ⟨info, rfl⟩
  · simp
  · simp

theorem Scan.afterAt_step {scan next : Scan} {c : Char} (stepped : scan.step c = .ok next) :
    next.afterAt = decide (c = '@') := by
  unfold Scan.step at stepped
  dsimp only at stepped
  split at stepped
  case h_1 | h_2 | h_3 =>
    split at stepped
    · cases stepped
    · cases stepped
      rfl
  case h_4 | h_5 =>
    cases stepped
    rfl
  case h_6 other _ _ =>
    split at stepped
    · cases stepped
      exact (decide_eq_false (by assumption)).symm
    · cases stepped

theorem Scan.not_isEnd_of_step {scan next : Scan} {c : Char} (stepped : scan.step c = .ok next) :
    isEnd c = false := by
  by_cases ends : c = '/' ∨ c = '?' ∨ c = '#'
  · rcases ends with rfl | rfl | rfl <;> cases stepped
  · simpa [isEnd, and_assoc] using ends

private theorem scanned {start scan : Scan} (read : authority.foldlM Scan.step start = .ok scan) :
    (∀ c ∈ authority, isEnd c = false) ∧
      scan.afterAt = (authority.getLast?.map fun c => decide (c = '@')).getD start.afterAt := by
  induction authority generalizing start with
  | nil =>
    cases read
    exact ⟨by simp, rfl⟩
  | cons c rest ih =>
    rw [List.foldlM_cons] at read
    obtain ⟨next, stepped, later⟩ := bind_eq_ok read
    obtain ⟨plain, last⟩ := ih later
    refine ⟨List.forall_mem_cons.mpr ⟨Scan.not_isEnd_of_step stepped, plain⟩, ?_⟩
    rw [last, Scan.afterAt_step stepped, List.getLast?_cons]
    cases rest.getLast? <;> rfl

/-- A text that passes as an authority has no character that ends it, and does not end with an at
sign. -/
theorem of_check (checked : check authority = .ok ()) :
    (∀ c ∈ authority, isEnd c = false) ∧ authority.getLast? ≠ some '@' := by
  unfold check at checked
  cases read : authority.foldlM Scan.step {} with
  | error problem =>
    rw [read] at checked
    cases checked
  | ok scan =>
    obtain ⟨plain, last⟩ := scanned read
    refine ⟨plain, fun atEnd => ?_⟩
    rw [atEnd] at last
    have pending : scan.mayEnd = false := by simp [Scan.mayEnd, last]
    simp [read, pending] at checked

theorem host_eq_nil_iff (authority : List Char) :
    host authority = [] ↔
      afterUserInfo authority = [] ∨ ∃ port, afterUserInfo authority = ':' :: port := by
  unfold host
  split
  · rename_i bracketed
    simp [bracketed]
  · cases afterUserInfo authority with
    | nil => simp
    | cons c rest =>
      by_cases colon : c = ':'
      · simp [colon]
      · simp [colon]

/-- The host of an authority is empty exactly if it begins with the colon of the port. -/
theorem host_eq_nil_iff_lacksHost (checked : check authority = .ok ()) (nonempty : authority ≠ []) :
    host authority = [] ↔ LacksHost authority := by
  rw [host_eq_nil_iff]
  obtain ⟨user, joined, before⟩ := exists_userInfo authority
  constructor
  · rintro (nothing | ⟨port, colon⟩)
    · -- Nothing is left only if the authority is user information alone.
      rw [nothing, List.append_nil] at joined
      rcases before with rfl | ⟨info, rfl⟩
      · exact absurd joined nonempty
      · exact absurd (by rw [joined]; simp) (of_check checked).2
    · have absent := at_notMem_afterUserInfo authority
      rw [colon] at joined absent
      exact ⟨user, port, joined, before, fun member => absent (List.mem_cons_of_mem _ member)⟩
  · rintro ⟨user, port, rfl, before, absent⟩
    exact .inr ⟨port, afterUserInfo_append before (by simpa using absent)⟩

end MeshDiscovery.Authority
