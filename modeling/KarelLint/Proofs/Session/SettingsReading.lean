import KarelLint.Proofs.Session.History
import Mathlib.Algebra.Group.Nat.Defs

/-! How the settings of a client are read. Every JSON value has a meaning: it sets a limit in one of
three ways, or it leaves the default. An answer of the client holds such a value as the first item of
an array, and settles the question that it answers once. -/

set_option autoImplicit false

namespace KarelLint

theorem Json.nat64?_eq_some_iff {value : Json} {number : Nat} :
    value.nat64? = some number ↔ value = .int number ∧ number < 2 ^ 64 := by
  rw [Json.nat64?, Option.map_eq_some_iff]
  constructor
  · intro read
    obtain ⟨integer, found, same⟩ := read
    cases value with
    | int written =>
        obtain ⟨within, rfl⟩ : (0 ≤ written ∧ written ≤ Text.maxWord64) ∧ written = integer := by
          simpa [Json.intWithin?] using found
        have bound : written ≤ 18446744073709551615 := within.2
        exact ⟨congrArg Json.int (by omega), by omega⟩
    | null => cases found
    | bool truth => cases found
    | decimal mantissa exponent => cases found
    | str text => cases found
    | arr items => cases found
    | obj members => cases found
  · intro written
    obtain ⟨rfl, small⟩ := written
    have bound : (number : Int) ≤ Text.maxWord64 := by
      show (number : Int) ≤ 18446744073709551615
      omega
    refine ⟨number, ?_, Int.toNat_natCast number⟩
    rw [Json.intWithin?, if_pos ⟨Int.natCast_nonneg number, bound⟩]

namespace Session

/-! ## The limit that a value sets -/

namespace Settings

/-- The two keys under which an object can set the limit. -/
def limitKeys : List String :=
  ["maxNumberOfProblems", "maxDiagnostics"]

/-- A JSON value sets a limit of 64 bits: as an object with one of the two keys and without the
other, or as an array with the limit as its only item. -/
inductive SetsLimit (limit : Nat) : Json → Prop where
  | numberOfProblems {members : Json.Members} (small : limit < 2 ^ 64)
      (found : members.lookup "maxNumberOfProblems" = some (.int limit))
      (missing : members.lookup "maxDiagnostics" = none) : SetsLimit limit (.obj members)
  | diagnostics {members : Json.Members} (small : limit < 2 ^ 64)
      (missing : members.lookup "maxNumberOfProblems" = none)
      (found : members.lookup "maxDiagnostics" = some (.int limit)) : SetsLimit limit (.obj members)
  | item (small : limit < 2 ^ 64) : SetsLimit limit (.arr [.int limit])

theorem SetsLimit.limit?_eq_some {limit : Nat} {value : Json} (sets : SetsLimit limit value) :
    limit? value = some limit := by
  cases sets with
  | numberOfProblems small found missing =>
      rw [limit?, found, missing]
      exact Json.nat64?_eq_some_iff.mpr ⟨rfl, small⟩
  | diagnostics small missing found =>
      rw [limit?, missing, found]
      exact Json.nat64?_eq_some_iff.mpr ⟨rfl, small⟩
  | item small => exact Json.nat64?_eq_some_iff.mpr ⟨rfl, small⟩

theorem setsLimit_of_limit? {limit : Nat} {value : Json} (read : limit? value = some limit) :
    SetsLimit limit value := by
  unfold limit? at read
  -- An object, an array with one item, or anything else; of the objects, those with just one key.
  split at read
  · split at read
    · next held found missing =>
        obtain ⟨rfl, small⟩ := Json.nat64?_eq_some_iff.mp read
        exact .numberOfProblems small found missing
    · next held missing found =>
        obtain ⟨rfl, small⟩ := Json.nat64?_eq_some_iff.mp read
        exact .diagnostics small missing found
    · cases read
  · obtain ⟨rfl, small⟩ := Json.nat64?_eq_some_iff.mp read
    exact .item small
  · cases read

theorem limit?_eq_some_iff {limit : Nat} {value : Json} :
    limit? value = some limit ↔ SetsLimit limit value :=
  ⟨setsLimit_of_limit?, SetsLimit.limit?_eq_some⟩

theorem limit_ofJson_iff {value : Json} {limit : Nat} :
    (ofJson value).limit = limit ↔
      SetsLimit limit value ∨ limit = 1000 ∧ ∀ other, ¬ SetsLimit other value := by
  simp only [← limit?_eq_some_iff]
  unfold ofJson
  cases limit? value with
  | none =>
      constructor
      · intro default
        exact .inr ⟨default.symm, fun other => Option.some_ne_none other ∘ Eq.symm⟩
      · intro read
        rcases read with set | ⟨default, _⟩
        · cases set
        · exact default.symm
  | some held =>
      constructor
      · intro same
        exact .inl (congrArg some same)
      · intro read
        rcases read with set | ⟨_, unset⟩
        · exact Option.some.inj set
        · exact absurd rfl (unset held)

/-- The members under other keys do not matter. -/
theorem ofJson_filter_limitKeys (members : Json.Members) :
    ofJson (.obj (members.filter fun member => limitKeys.contains member.1)) =
      ofJson (.obj members) := by
  have kept (key : String) (known : limitKeys.contains key = true) :
      (members.filter fun member => limitKeys.contains member.1).lookup key =
        members.lookup key := by
    rw [OrderedMap.lookup_filter_key limitKeys.contains, if_pos known]
  rw [ofJson, ofJson, limit?, limit?, kept _ (by decide), kept _ (by decide)]

end Settings

/-! ## The answer to a question -/

namespace Configuration

/-- A configuration has settled a question: it holds the settings of the document, the question is no
longer open, and the rest is as before. -/
structure Settles (before after : Configuration) (id : RequestId) (uri : Uri)
    (settings : Settings) : Prop where
  cached : ∀ other, after.cached.get? other =
    if other = uri then some settings else before.cached.get? other
  pending : ∀ other, after.pending.lookup other =
    if other = id then none else before.pending.lookup other
  unchanged : after = { before with cached := after.cached, pending := after.pending }

theorem settles_of_pending (configuration : Configuration) (id : RequestId) (uri : Uri)
    (settings : Settings) :
    configuration.Settles
      { configuration with
        cached := configuration.cached.insert uri settings
        pending := configuration.pending.filter fun question => question.1 != id }
      id uri settings where
  cached other := by
    rw [OrderedMap.get?_insert]
    simp only [beq_iff_eq]
  pending other := by
    rw [OrderedMap.lookup_filter_ne]
    simp only [beq_iff_eq]
  unchanged := rfl

/-- A question that is settled takes no second answer. -/
theorem Settles.receive_again {before after : Configuration} {id : RequestId} {uri : Uri}
    {settings : Settings} (settles : before.Settles after id uri settings)
    (current : id ∉ before.superseded) (result : Json) :
    after.receive id result = (after, none) := by
  have late : id ∉ after.superseded := by
    rw [settles.unchanged]
    exact current
  have missing : after.pending.lookup id = none := by
    rw [settles.pending, if_pos rfl]
  exact receive_of_unknown late missing result

theorem answered_eq_default {result : Json} (empty : ∀ item later, result ≠ .arr (item :: later)) :
    answered result = { limit := 1000 } := by
  unfold answered
  split
  · next item later => exact absurd rfl (empty item later)
  · rfl

/-- Every value of the configuration has one meaning. A JSON value sets a limit or leaves the
default, whatever its other members are. An answer to an open question yields the settings in the
first item of its array, or the default, for the document that waits; it settles this question and
touches nothing else, and the same answer given again is not heard. -/
theorem settings_read_exactly :
    (∀ (value : Json) (limit : Nat), (Settings.ofJson value).limit = limit ↔
      Settings.SetsLimit limit value ∨
        limit = 1000 ∧ ∀ other, ¬ Settings.SetsLimit other value) ∧
    (∀ members : Json.Members,
      Settings.ofJson (.obj (members.filter fun member => Settings.limitKeys.contains member.1)) =
        Settings.ofJson (.obj members)) ∧
    ∀ (configuration : Configuration) (id : RequestId) (uri : Uri) (result : Json),
      id ∉ configuration.superseded → configuration.pending.lookup id = some uri →
      ∃ after settings,
        configuration.receive id result = (after, some (uri, settings)) ∧
        (∀ item later, result = .arr (item :: later) → settings = Settings.ofJson item) ∧
        ((∀ item later, result ≠ .arr (item :: later)) → settings = { limit := 1000 }) ∧
        configuration.Settles after id uri settings ∧
        ∀ again, after.receive id again = (after, none) := by
  refine ⟨fun _ _ => Settings.limit_ofJson_iff, Settings.ofJson_filter_limitKeys, ?_⟩
  intro configuration id uri result current waiting
  have settles := configuration.settles_of_pending id uri (answered result)
  refine ⟨_, answered result, receive_of_pending current waiting result, ?first, answered_eq_default,
    settles, settles.receive_again current⟩
  case first =>
    intro item later written
    rw [written]
    rfl

/-- Two open questions, whose identities are the number 1 and the text "1". -/
def twoQuestions : Configuration where
  perDocument := true
  pending := [(.number 1, Server.sampleUri), (.text "1", Server.secondUri)]
  superseded := [.number 0]

/-- The answer is an array, and its first item is an array that sets the limit. -/
theorem settings_read_exactly_twoQuestions :
    let result := Json.arr [.arr [.int 5], .arr [.int 7]]
    RequestId.text "1" ∉ twoQuestions.superseded ∧
    twoQuestions.pending.lookup (.text "1") = some Server.secondUri ∧
    ∃ after settings,
      twoQuestions.receive (.text "1") result = (after, some (Server.secondUri, settings)) ∧
      settings.limit = 5 ∧
      twoQuestions.Settles after (.text "1") Server.secondUri settings ∧
      ∀ again, after.receive (.text "1") again = (after, none) := by
  intro result
  have current : RequestId.text "1" ∉ twoQuestions.superseded := by decide
  have waiting : twoQuestions.pending.lookup (.text "1") = some Server.secondUri := by decide
  obtain ⟨limits, _, answers⟩ := settings_read_exactly
  obtain ⟨after, settings, received, first, _, settles, again⟩ :=
    answers twoQuestions (.text "1") Server.secondUri result current waiting
  refine ⟨current, waiting, after, settings, received, ?_, settles, again⟩
  rw [first _ _ rfl]
  exact (limits _ 5).mpr (.inl (.item (by decide)))

end Configuration

end Session

end KarelLint
