import MeshDiscovery.Proofs.Result
import MeshDiscovery.Proofs.Text.Separator
import MeshDiscovery.Proofs.Uri.Authority
import MeshDiscovery.Uri

/-!
Which texts name a host. A text that is accepted as a URI is a path alone, an authority alone, or a
scheme with an authority and whatever follows it; and all but the first have a host, which is empty
if the authority begins with its port.
-/

namespace MeshDiscovery.Uri

/-- The text names an authority: it is one, or a scheme with one behind it. -/
inductive NamesAuthority : List Char → List Char → Prop where
  | alone {authority : List Char} (plain : ∀ c ∈ authority, Authority.isEnd c = false) :
      NamesAuthority authority authority
  | afterScheme {scheme authority rest : List Char} (named : ∀ c ∈ scheme, isSchemeChar c = true)
      (plain : ∀ c ∈ authority, Authority.isEnd c = false)
      (ends : ∀ c ∈ rest.head?, Authority.isEnd c = true) :
      NamesAuthority (scheme ++ "://".toList ++ (authority ++ rest)) authority

namespace NamesAuthority

private theorem not_plain {scheme tail : List Char} :
    ¬ ∀ c ∈ scheme ++ "://".toList ++ tail, Authority.isEnd c = false := by
  intro plain
  have slash : '/' ∈ scheme ++ "://".toList ++ tail :=
    List.mem_append_left _ (List.mem_append_right _ (by decide))
  exact absurd (plain '/' slash) (by decide)

private theorem colon_notMem {scheme : List Char} (named : ∀ c ∈ scheme, isSchemeChar c = true) :
    ':' ∉ scheme :=
  fun member => absurd (named ':' member) (by decide)

private theorem eq_of_same_text {text other left right : List Char} (same : text = other)
    (first : NamesAuthority text left) (second : NamesAuthority other right) : left = right := by
  cases first with
  | alone plain =>
    cases second with
    | alone _ => exact same
    | afterScheme => exact absurd (same ▸ plain) not_plain
  | @afterScheme scheme _ rest named plain ends =>
    cases second with
    | alone plain => exact absurd (same ▸ plain) not_plain
    | @afterScheme other _ tail named' plain' ends' =>
      have joined (front back : List Char) :
          front ++ "://".toList ++ back = front ++ ':' :: ('/' :: '/' :: back) := by simp
      rw [joined, joined, Text.append_separator_inj (colon_notMem named) (colon_notMem named')]
        at same
      have behind : left ++ rest = right ++ tail := by simpa using same.2
      have taken := congrArg (List.takeWhile fun c => !Authority.isEnd c) behind
      rwa [Text.takeWhile_append_of_stops (by simpa using plain) (by simpa using ends),
        Text.takeWhile_append_of_stops (by simpa using plain') (by simpa using ends')] at taken

theorem unique {text left right : List Char} (first : NamesAuthority text left)
    (second : NamesAuthority text right) : left = right :=
  eq_of_same_text rfl first second

end NamesAuthority

def IsPath (text : List Char) : Prop :=
  text = ['*'] ∨ ∃ rest, text = '/' :: rest

private theorem lower_of_upper {code : UInt32} (upper : 'A'.val ≤ code ∧ code ≤ 'Z'.val) :
    'a'.val ≤ code + ('a'.val - 'A'.val) ∧ code + ('a'.val - 'A'.val) ≤ 'z'.val := by
  have low : 65 ≤ code.toNat := UInt32.le_iff_toNat_le.mp upper.1
  have high : code.toNat ≤ 90 := UInt32.le_iff_toNat_le.mp upper.2
  have distance : ('a'.val - 'A'.val).toNat = 32 := rfl
  have moved : (code + ('a'.val - 'A'.val)).toNat = code.toNat + 32 := by
    rw [UInt32.toNat_add, distance]
    exact Nat.mod_eq_of_lt (by omega)
  constructor
  · show 97 ≤ (code + ('a'.val - 'A'.val)).toNat
    omega
  · show (code + ('a'.val - 'A'.val)).toNat ≤ 122
    omega

private theorem toLower_cases (c : Char) :
    c.toLower = c ∨ c.isAlpha = true ∧ c.toLower.isAlpha = true := by
  unfold Char.toLower
  split
  · rename_i upper
    obtain ⟨above, below⟩ := lower_of_upper upper
    exact .inr ⟨Bool.or_eq_true_iff.mpr (.inl (decide_eq_true upper)),
      Bool.or_eq_true_iff.mpr (.inr (Bool.and_eq_true_iff.mpr
        ⟨decide_eq_true above, decide_eq_true below⟩))⟩
  · exact .inl rfl

private theorem isSchemeChar_of_toLower {c : Char} (named : isSchemeChar c.toLower = true) :
    isSchemeChar c = true := by
  rcases toLower_cases c with same | ⟨letter, _⟩
  · rwa [same] at named
  · simp [isSchemeChar, Char.isAlphanum, letter]

private theorem eq_of_map_toLower {written expected : List Char}
    (others : ∀ c ∈ expected, (!c.isAlpha) = true) (same : written.map Char.toLower = expected) :
    written = expected := by
  rw [← same, ← List.map_id written, List.map_map]
  refine List.map_congr_left fun c member => ?_
  rcases toLower_cases c with unchanged | ⟨_, letter⟩
  · exact unchanged.symm
  · have inside : c.toLower ∈ expected := by
      rw [← same]
      exact List.mem_map_of_mem (by simpa using member)
    simpa [letter] using others _ inside

private theorem dropBeginning?_eq_some {name text rest : List Char}
    (named : ∀ c ∈ name, isSchemeChar c = true)
    (found : dropBeginning? (name ++ "://".toList) text = some rest) :
    ∃ scheme, text = scheme ++ "://".toList ++ rest ∧ ∀ c ∈ scheme, isSchemeChar c = true := by
  unfold dropBeginning? at found
  split at found
  · rename_i begins
    obtain ⟨scheme, slashes, taken, same, sameSlashes⟩ := List.map_eq_append_iff.mp begins
    obtain rfl := eq_of_map_toLower (List.all_eq_true.mp (by decide)) sameSlashes
    cases found
    refine ⟨scheme, ?_, fun c member => ?_⟩
    · rw [← taken, List.take_append_drop]
    · have inside : c.toLower ∈ name := by
        rw [← same]
        exact List.mem_map_of_mem member
      exact isSchemeChar_of_toLower (named _ inside)
  · cases found

private theorem splitOtherScheme_eq_ok {text rest : List Char} {scheme : Option String}
    (split : splitOtherScheme text = .ok (scheme, rest)) :
    (scheme = none ∧ rest = text) ∨ scheme.isSome = true ∧
      ∃ written, text = written ++ "://".toList ++ rest ∧
        ∀ c ∈ written, isSchemeChar c = true := by
  unfold splitOtherScheme at split
  dsimp only at split
  split at split
  · rename_i behind slashed
    split at split
    · cases split
      exact .inl ⟨rfl, rfl⟩
    · split at split
      · cases split
      · cases split
        refine .inr ⟨rfl, text.takeWhile isSchemeChar, ?_, ?_⟩
        · have whole := List.takeWhile_append_dropWhile (p := isSchemeChar) (l := text)
          rw [slashed] at whole
          rw [List.append_assoc]
          exact whole.symm
        · exact List.all_eq_true.mp List.all_takeWhile
  · cases split
    exact .inl ⟨rfl, rfl⟩

/-- A text is left as it is, or it has a scheme in front of what is left. -/
theorem splitScheme_eq_ok {text rest : List Char} {scheme : Option String}
    (split : splitScheme text = .ok (scheme, rest)) :
    (scheme = none ∧ rest = text) ∨ scheme.isSome = true ∧
      ∃ written, text = written ++ "://".toList ++ rest ∧
        ∀ c ∈ written, isSchemeChar c = true := by
  have http : "http://".toList = "http".toList ++ "://".toList := by decide
  have https : "https://".toList = "https".toList ++ "://".toList := by decide
  unfold splitScheme at split
  rw [http, https] at split
  split at split
  · rename_i found
    cases split
    exact .inr ⟨rfl, dropBeginning?_eq_some (List.all_eq_true.mp (by decide)) found⟩
  · split at split
    · rename_i found
      cases split
      exact .inr ⟨rfl, dropBeginning?_eq_some (List.all_eq_true.mp (by decide)) found⟩
    · exact splitOtherScheme_eq_ok split

private theorem ofParts_eq_ok {scheme : Option String} {text : List Char} {uri : Uri}
    (parsed : ofParts scheme text = .ok uri) :
    let authority := text.takeWhile fun c => !Authority.isEnd c
    uri.authority = String.ofList authority ∧ Authority.check authority = .ok () ∧
      (scheme = none → authority = text) ∧ (scheme.isSome = true → authority ≠ []) := by
  intro authority
  unfold ofParts at parsed
  dsimp only at parsed
  split at parsed
  · cases parsed
  · rename_i checked
    have whole : authority ++ text.dropWhile (fun c => !Authority.isEnd c) = text :=
      List.takeWhile_append_dropWhile
    split at parsed
    · split at parsed
      · rename_i nothing
        cases parsed
        rw [List.isEmpty_iff.mp nothing, List.append_nil] at whole
        exact ⟨rfl, checked, fun _ => whole, nofun⟩
      · cases parsed
    · split at parsed
      · cases parsed
      · rename_i nonempty
        obtain ⟨_, -, rfl⟩ := map_eq_ok parsed
        exact ⟨rfl, checked, nofun, fun _ empty => nonempty (List.isEmpty_iff.mpr empty)⟩

private theorem ofAuthority_eq_ok {text : List Char} {uri : Uri}
    (parsed : ofAuthority text = .ok uri) :
    Authority.check text = .ok () ∧ uri = ⟨none, String.ofList text, "", none⟩ := by
  unfold ofAuthority at parsed
  cases checked : Authority.check text with
  | error problem =>
    rw [checked] at parsed
    cases parsed
  | ok passed =>
    rw [checked] at parsed
    exact ⟨rfl, (Except.ok.inj parsed).symm⟩

private theorem authority_of_isPath {text : String} {uri : Uri} (parsed : parse text = .ok uri)
    (path : IsPath text.toList) : uri.authority = "" := by
  unfold parse at parsed
  split at parsed
  · cases parsed
  · rcases path with star | ⟨rest, slash⟩
    · rw [star] at parsed
      cases parsed
      rfl
    · rw [slash] at parsed
      obtain ⟨_, -, rfl⟩ := map_eq_ok parsed
      rfl

private theorem authority_of_not_isPath {text : String} {uri : Uri} (parsed : parse text = .ok uri)
    (other : ¬ IsPath text.toList) :
    NamesAuthority text.toList uri.authority.toList ∧
      Authority.check uri.authority.toList = .ok () ∧ uri.authority.toList ≠ [] := by
  unfold parse at parsed
  split at parsed
  · cases parsed
  · split at parsed
    case h_1 => cases parsed
    case h_2 star => exact absurd (.inl star) other
    case h_3 rest slash => exact absurd (.inr ⟨rest, slash⟩) other
    case h_4 c _ _ whole =>
      split at parsed
      · cases parsed
      · rename_i plain
        obtain ⟨checked, rfl⟩ := ofAuthority_eq_ok parsed
        rw [String.toList_ofList, whole]
        exact ⟨.alone (by simpa using plain), checked, by simp⟩
    case h_5 nonempty _ _ _ =>
      split at parsed
      · cases parsed
      · rename_i scheme rest found
        obtain ⟨same, checked, alone, behind⟩ := ofParts_eq_ok parsed
        have plain := (Authority.of_check checked).1
        rw [same, String.toList_ofList]
        rcases splitScheme_eq_ok found with ⟨rfl, rfl⟩ | ⟨present, scheme, whole, named⟩
        · have whole := alone rfl
          rw [whole] at plain checked ⊢
          exact ⟨.alone plain, checked, nonempty⟩
        · have ends : ∀ c ∈ (rest.dropWhile fun c => !Authority.isEnd c).head?,
              Authority.isEnd c = true := by
            intro c first
            have stop := List.head?_dropWhile_not (fun c => !Authority.isEnd c) rest
            rw [Option.mem_def.mp first] at stop
            simpa using stop
          have names := NamesAuthority.afterScheme named plain ends
          rw [List.takeWhile_append_dropWhile] at names
          exact ⟨whole ▸ names, checked, behind present⟩

/-- A URI has a host unless it is a path alone. -/
theorem host?_eq_none_iff {text : String} {uri : Uri} (parsed : parse text = .ok uri) :
    uri.host? = none ↔ IsPath text.toList := by
  have nowhere : uri.host? = none ↔ uri.authority = "" := by
    unfold host?
    split <;> simp_all
  rw [nowhere]
  refine ⟨fun empty => ?_, authority_of_isPath parsed⟩
  by_contra other
  obtain ⟨_, _, nonempty⟩ := authority_of_not_isPath parsed other
  exact nonempty (by rw [empty]; rfl)

/-- The host of a URI is the one of the authority that its text names, and it is empty exactly if
that authority begins with its port. -/
theorem host_eq_empty_iff {text host : String} {uri : Uri} (parsed : parse text = .ok uri)
    (hosted : uri.host? = some host) :
    host = "" ↔
      ∃ authority, NamesAuthority text.toList authority ∧ Authority.LacksHost authority := by
  have other : ¬ IsPath text.toList := by
    rw [← host?_eq_none_iff parsed, hosted]
    simp
  obtain ⟨names, checked, nonempty⟩ := authority_of_not_isPath parsed other
  have own : host = "" ↔ Authority.LacksHost uri.authority.toList := by
    rw [← Authority.host_eq_nil_iff_lacksHost checked nonempty]
    unfold host? at hosted
    split at hosted
    · cases hosted
    · cases hosted
      rw [← String.toList_inj, String.toList_ofList]
      rfl
  rw [own]
  constructor
  · exact fun lacks => ⟨_, names, lacks⟩
  · rintro ⟨authority, named, lacks⟩
    exact names.unique named ▸ lacks

end MeshDiscovery.Uri
