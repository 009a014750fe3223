import Mathlib.Data.List.Forall2
import MeshDiscovery.CommandLine.Arguments
import MeshDiscovery.Proofs.Result
import MeshDiscovery.Proofs.Text.Separator

/-!
The metadata of a command line. The texts for it are attached to the option or are the arguments
behind it, and whatever else the line has, its arguments are read with the pairs that these texts
are split into, in the order of the line.
-/

namespace MeshDiscovery.CommandLine

/-- A text is a pair that is written with the first of its equals signs between key and value. -/
structure IsPair (text : String) (pair : String × String) : Prop where
  spelled : text = pair.1 ++ "=" ++ pair.2
  key : pair.1 ≠ ""
  first : '=' ∉ pair.1.toList

theorem splitPair?_eq_some_iff {text : String} {pair : String × String} :
    splitPair? text = some pair ↔ IsPair text pair := by
  constructor
  · intro split
    simp only [splitPair?] at split
    split at split
    · rename_i value behind
      split at split
      · cases split
      · rename_i named
        cases split
        refine ⟨?_, by simpa using named, ?_⟩
        · rw [← String.toList_inj]
          simpa using (Text.eq_append_of_dropWhile behind).2
        · rw [String.toList_ofList]
          exact Text.notMem_takeWhile
    · cases split
  · rintro ⟨rfl, key, first⟩
    have spelled : (pair.1 ++ "=" ++ pair.2).toList = pair.1.toList ++ '=' :: pair.2.toList := by
      simp
    have named : pair.1.toList.isEmpty = false := by simpa using key
    simp only [splitPair?, spelled, Text.takeWhile_append_separator first,
      Text.dropWhile_append_separator first, named, String.ofList_toList]
    rfl

/-- The text that an option for metadata is given by an argument, or else by the one behind it. -/
def metadataText? (argument : String) (following : Option String) : Option String :=
  match Token.read argument with
  | .long name attached =>
    if name = Setting.metadata.longName then attached.or following else none
  | _ => none

/-- A long name with what is attached to it is written with two dashes in front and an equals sign
between. -/
theorem Token.spelled_of_long {argument name : String} {attached : Option String}
    (read : Token.read argument = .long name attached) :
    argument = "--" ++ name ++ attached.elim "" ("=" ++ ·) := by
  unfold Token.read at read
  split at read
  · cases read
  · rename_i text _ dashes
    rw [Token.long.injEq] at read
    obtain ⟨rfl, rfl⟩ := read
    rw [← String.toList_inj, dashes]
    unfold splitAttached
    cases behind : text.dropWhile (· ≠ '=') with
    | nil =>
      have whole := List.takeWhile_append_dropWhile (p := (· ≠ '=')) (l := text)
      rw [behind, List.append_nil] at whole
      simpa using whole.symm
    | cons separator value => simpa using (Text.eq_append_of_dropWhile behind).2
  · cases read
  · cases read

theorem metadataText?_eq_some_iff {argument text : String} {following : Option String} :
    metadataText? argument following = some text ↔
      argument = "--metadata=" ++ text ∨ argument = "--metadata" ∧ following = some text := by
  constructor
  · intro given
    unfold metadataText? at given
    split at given
    · rename_i name attached read
      have spelled := Token.spelled_of_long read
      split at given
      · rename_i named
        subst named
        cases attached with
        | none => exact .inr ⟨spelled, given⟩
        | some value =>
          obtain rfl := Option.some.inj given
          exact .inl (spelled.trans String.append_assoc)
      · cases given
    · cases given
  · rintro (rfl | ⟨rfl, rfl⟩)
    · have absent : '=' ∉ "metadata".toList := by decide
      have spelled : ("--metadata=" ++ text).toList =
          '-' :: '-' :: ("metadata".toList ++ '=' :: text.toList) := by
        simp
      have parts : splitAttached ("metadata".toList ++ '=' :: text.toList) =
          ("metadata", some text) := by
        rw [splitAttached, Text.takeWhile_append_separator absent,
          Text.dropWhile_append_separator absent, String.ofList_toList]
        exact congrArg (fun value => ("metadata", some value)) String.ofList_toList
      have read : Token.read ("--metadata=" ++ text) = .long "metadata" (some text) := by
        rw [Token.read, spelled]
        change Token.long (splitAttached ("metadata".toList ++ '=' :: text.toList)).1
          (splitAttached ("metadata".toList ++ '=' :: text.toList)).2 = _
        rw [parts]
      rw [metadataText?, read]
      rfl
    · rfl

/-- The texts that a line gives for metadata, in order. -/
def metadataTexts : List String → List String
  | [] => []
  | argument :: rest => (metadataText? argument rest.head?).toList ++ metadataTexts rest

/-- The arguments have gone on to others with the metadata of some more texts. -/
def Gains (texts : List String) (before after : Arguments) : Prop :=
  ∃ pairs, List.Forall₂ IsPair texts pairs ∧ after.metadata = before.metadata ++ pairs

namespace Gains

variable {first second : List String} {arguments next last : Arguments}

theorem refl (arguments : Arguments) : Gains [] arguments arguments :=
  ⟨[], .nil, (List.append_nil _).symm⟩

theorem trans (earlier : Gains first arguments next) (later : Gains second next last) :
    Gains (first ++ second) arguments last := by
  obtain ⟨pairs, split, told⟩ := earlier
  obtain ⟨others, splits, tells⟩ := later
  refine ⟨pairs ++ others, List.rel_append split splits, ?_⟩
  rw [tells, told, List.append_assoc]

theorem of_same (same : next.metadata = arguments.metadata) : Gains [] arguments next :=
  ⟨[], .nil, by rw [same, List.append_nil]⟩

end Gains

/-- The texts for metadata that an option has when it is settled: just its value if it is for
metadata. -/
def Setting.metadataTexts (setting : Setting) (value : Option String) : List String :=
  if setting = .metadata then value.toList else []

private theorem Arguments.set_ne_ok {arguments : Arguments} {setting : Setting} {letter : Char}
    (lettered : setting.letter? = some letter) (flag : setting.takesValue = false) (value : String)
    (next : Arguments) : arguments.set setting value ≠ .ok next := by
  match setting, lettered, flag with
  | .help, _, _ => nofun
  | .version, _, _ => nofun

theorem Arguments.set_gains {arguments next : Arguments} {setting : Setting} {value : String}
    (done : arguments.set setting value = .ok next) :
    Gains (setting.metadataTexts (some value)) arguments next := by
  cases setting with
  | metadata =>
    simp only [set] at done
    split at done
    · rename_i pair split
      refine ⟨[pair], .cons (splitPair?_eq_some_iff.mp split) .nil, ?_⟩
      rw [← Except.ok.inj done]
    · cases done
  | summaryInterval =>
    simp only [set] at done
    split at done
    · cases done
      exact Gains.of_same rfl
    · cases done
  | help | version => cases done
  | logPretty | server | nodeId | nodeCluster | watchRoute | watchCluster | metricsAddr =>
    cases done
    exact Gains.of_same rfl

namespace Reading

variable {reading next settled last : Reading} {setting : Setting} {attached : Option String}

theorem give_eq_ok {value : String} (given : reading.give setting value = .ok next) :
    reading.arguments.set setting value = .ok next.arguments ∧ next.pending = reading.pending := by
  unfold give at given
  split at given
  · cases given
  · obtain ⟨arguments, set, rfl⟩ := map_eq_ok given
    exact ⟨set, rfl⟩

/-- An option settles the one before it. Then it waits for its value, or it is settled at once. -/
theorem meet_eq_ok (met : reading.meet setting attached = .ok next) :
    ∃ settled, reading.settle = .ok settled ∧
      (next = { settled with pending := some ⟨setting, none⟩ } ∧ attached = none ∧
          setting.takesValue = true ∨
        settled.give setting (attached.getD "") = .ok next ∧
          (attached = none → setting.takesValue = false)) := by
  obtain ⟨settled, done, met⟩ := bind_eq_ok met
  refine ⟨settled, done, ?_⟩
  split at met
  · exact .inr ⟨met, nofun⟩
  · split at met
    · rename_i waits
      exact .inl ⟨(Except.ok.inj met).symm, rfl, waits⟩
    · rename_i flag
      exact .inr ⟨met, fun _ => Bool.eq_false_iff.mpr flag⟩

/-- The texts for metadata of the option that is pending, with the argument that follows. -/
def pendingTexts (reading : Reading) (following : Option String) : List String :=
  match reading.pending with
  | none => []
  | some ⟨setting, value⟩ => setting.metadataTexts (value.or following)

theorem pendingTexts_of_free (free : reading.pending = none) (following : Option String) :
    reading.pendingTexts following = [] := by
  rw [pendingTexts, free]

/-- The texts for metadata that are not settled when a line is still to be read. -/
def owed (reading : Reading) (line : List String) : List String :=
  reading.pendingTexts line.head? ++ metadataTexts line

/-- An option is settled with the value that it was given, whatever follows. -/
theorem settle_gains (done : reading.settle = .ok settled) (following : Option String) :
    Gains (reading.pendingTexts following) reading.arguments settled.arguments ∧
      settled.pending = none := by
  unfold settle at done
  split at done
  · rename_i free
    rw [← Except.ok.inj done, pendingTexts_of_free free]
    exact ⟨Gains.refl _, free⟩
  · cases done
  · rename_i setting value pending
    obtain ⟨set, same⟩ := give_eq_ok done
    rw [pendingTexts, pending]
    exact ⟨Arguments.set_gains set, same⟩

/-- An option that begins is settled with what is attached to it, or its text is what follows. -/
theorem meet_gains (met : reading.meet setting attached = .ok next)
    (argument following : Option String) :
    ∃ texts, Gains texts reading.arguments next.arguments ∧
      reading.pendingTexts argument ++ setting.metadataTexts (attached.or following) =
        texts ++ next.pendingTexts following := by
  obtain ⟨settled, done, ⟨rfl, rfl, -⟩ | ⟨given, flag⟩⟩ := meet_eq_ok met
  · exact ⟨_, (settle_gains done argument).1, rfl⟩
  · obtain ⟨gained, free⟩ := settle_gains done argument
    obtain ⟨set, same⟩ := give_eq_ok given
    refine ⟨_, gained.trans (Arguments.set_gains set), ?_⟩
    rw [pendingTexts_of_free (same.trans free), List.append_nil]
    cases attached with
    | some value => rfl
    | none =>
      have other : setting ≠ .metadata := by
        rintro rfl
        exact absurd (flag rfl) (by decide)
      simp only [Setting.metadataTexts, if_neg other]

theorem takeLong_gains {argument name : String}
    (taken : reading.takeLong argument name attached = .ok next) (following : Option String) :
    ∃ texts, Gains texts reading.arguments next.arguments ∧
      reading.pendingTexts (some argument) ++
          (if name = Setting.metadata.longName then attached.or following else none).toList =
        texts ++ next.pendingTexts following := by
  unfold takeLong at taken
  split at taken
  · cases taken
  · rename_i setting known
    split at taken
    · cases taken
    · obtain ⟨texts, gained, same⟩ := meet_gains taken (some argument) following
      have named : setting.longName = name := by simpa using List.find?_some known
      have metadata : setting = .metadata ↔ name = Setting.metadata.longName := by
        constructor
        · rintro rfl
          exact named.symm
        · rintro rfl
          exact Option.some.inj (known.symm.trans (Setting.ofLongName?_longName _))
      refine ⟨texts, gained, ?_⟩
      rw [← same, Setting.metadataTexts]
      simp only [metadata]
      split <;> rfl

/-- No letter is for metadata, and one without a value is the last. -/
theorem takeLetters_gains {argument : String} {letter : Char} {rest : List Char}
    (taken : reading.takeLetters argument (letter :: rest) = .ok next)
    (following : Option String) :
    ∃ texts, Gains texts reading.arguments next.arguments ∧
      reading.pendingTexts (some argument) = texts ++ next.pendingTexts following := by
  unfold takeLetters at taken
  split at taken
  · cases taken
  · rename_i setting known
    have lettered : setting.letter? = some letter := by simpa using List.find?_some known
    split at taken
    · have other : setting ≠ .metadata := by
        rintro rfl
        cases lettered
      obtain ⟨texts, gained, same⟩ := meet_gains taken (some argument) following
      exact ⟨texts, gained, by simpa [Setting.metadataTexts, other] using same⟩
    · rename_i flag
      obtain ⟨after, met, -⟩ := bind_eq_ok taken
      obtain ⟨settled, -, ⟨-, -, waits⟩ | ⟨given, -⟩⟩ := meet_eq_ok met
      · exact absurd waits flag
      · exact absurd (give_eq_ok given).1
          (Arguments.set_ne_ok lettered (Bool.eq_false_iff.mpr flag) _ _)

/-- What an argument settles and what it leaves to be settled is what there was to settle. Only the
end of the options leaves everything as it was. -/
theorem take_gains {argument : String} {rest : List String}
    (taken : reading.take argument = .ok next) :
    (Token.read argument = .endOfOptions ∧ next = { reading with ended := true }) ∨
      ∃ texts, Gains texts reading.arguments next.arguments ∧
        reading.owed (argument :: rest) = texts ++ next.owed rest := by
  unfold take at taken
  split at taken
  · cases taken
  · split at taken
    · rename_i token
      exact .inl ⟨token, (Except.ok.inj taken).symm⟩
    · rename_i name attached token
      obtain ⟨texts, gained, same⟩ := takeLong_gains taken rest.head?
      refine .inr ⟨texts, gained, ?_⟩
      rw [owed, owed, metadataTexts, metadataText?, token, ← List.append_assoc, ← List.append_assoc,
        ← same]
      rfl
    · rename_i first letters token
      obtain ⟨texts, gained, same⟩ := takeLetters_gains taken rest.head?
      refine .inr ⟨texts, gained, ?_⟩
      rw [owed, owed, metadataTexts, metadataText?, token, ← List.append_assoc texts, ← same]
      rfl
    · rename_i token
      unfold takePlain at taken
      split at taken
      · rename_i setting pending
        refine .inr ⟨[], Gains.of_same ?_, ?_⟩
        · rw [← Except.ok.inj taken]
        · rw [← Except.ok.inj taken, owed, owed, metadataTexts, metadataText?, token, pendingTexts,
            pendingTexts, pending]
          rfl
      · cases taken

private theorem take_of_ended (ended : reading.ended = true) (argument : String) :
    reading.take argument = .error (.unknown argument) := by
  rw [take, if_pos ended]

/-- A line settles every text that it gives for metadata, in order. The induction is on the line. -/
theorem gains_of_line {line : List String} (read : line.foldlM take reading = .ok last)
    (done : last.settle = .ok settled) :
    Gains (reading.owed line) reading.arguments settled.arguments := by
  induction line generalizing reading with
  | nil =>
    cases read
    rw [owed, metadataTexts, List.append_nil]
    exact (settle_gains done none).1
  | cons argument rest ih =>
    rw [List.foldlM_cons] at read
    obtain ⟨next, taken, later⟩ := bind_eq_ok read
    rcases take_gains taken with ⟨token, rfl⟩ | ⟨texts, gained, same⟩
    · -- Nothing may follow the end of the options, so the line ends here.
      cases rest with
      | nil =>
        cases later
        rw [owed, metadataTexts, metadataText?, token, metadataTexts]
        simpa [pendingTexts] using (settle_gains done (some argument)).1
      | cons other _ =>
        rw [List.foldlM_cons] at later
        obtain ⟨_, unread, _⟩ := bind_eq_ok later
        rw [take_of_ended rfl] at unread
        cases unread
    · rw [same]
      exact gained.trans (ih later)

end Reading

theorem metadata_of_line {line : List String} {arguments : Arguments}
    (read : Arguments.read line = .ok arguments) :
    List.Forall₂ IsPair (metadataTexts line) arguments.metadata := by
  obtain ⟨last, folded, settling⟩ := bind_eq_ok read
  obtain ⟨settled, done, rfl⟩ := map_eq_ok settling
  obtain ⟨pairs, split, told⟩ := Reading.gains_of_line folded done
  rw [told]
  exact split

end MeshDiscovery.CommandLine
