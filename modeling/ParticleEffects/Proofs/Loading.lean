import Mathlib.Data.List.Basic

namespace ParticleEffects

/-!
Lists whose entries are loaded one after the other, where each of them may be
missing, and what is known of computations that succeeded.
-/

variable {α β γ : Type}

theorem mapM_cons_eq_some_iff {load : α -> Option β} {entry : α} {rest : List α}
    {loaded : List β} :
    (entry :: rest).mapM load = some loaded ↔ Exists fun first => Exists fun others =>
      load entry = some first ∧ rest.mapM load = some others ∧ first :: others = loaded := by
  simp only [List.mapM_cons, Option.bind_eq_bind, Option.bind_eq_some_iff, Option.pure_def,
    Option.some.injEq]
  constructor
  · rintro ⟨first, foundFirst, others, foundOthers, same⟩
    exact ⟨first, others, foundFirst, foundOthers, same⟩
  · rintro ⟨first, others, foundFirst, foundOthers, same⟩
    exact ⟨first, foundFirst, others, foundOthers, same⟩

theorem mapM_congr {load load' : α -> Option β} {entries : List α}
    (agree : forall entry, entry ∈ entries -> load entry = load' entry) :
    entries.mapM load = entries.mapM load' := by
  induction entries with
  | nil => rfl
  | cons entry rest inductionHypothesis =>
    rw [List.mapM_cons, List.mapM_cons, agree entry List.mem_cons_self,
      inductionHypothesis fun other present => agree other (List.mem_cons_of_mem _ present)]

theorem exists_mapM {load : α -> Option β} {entries : List α}
    (each : forall entry, entry ∈ entries -> Exists fun loaded => load entry = some loaded) :
    Exists fun loaded => entries.mapM load = some loaded := by
  induction entries with
  | nil => exact ⟨[], rfl⟩
  | cons entry rest inductionHypothesis =>
    rcases each entry List.mem_cons_self with ⟨first, foundFirst⟩
    rcases inductionHypothesis fun other present =>
      each other (List.mem_cons_of_mem _ present) with ⟨others, foundOthers⟩
    exact ⟨first :: others,
      mapM_cons_eq_some_iff.mpr ⟨first, others, foundFirst, foundOthers, rfl⟩⟩

theorem exists_mem_of_mapM {load : α -> Option β} {entries : List α} {loaded : List β}
    (found : entries.mapM load = some loaded) {result : β} (member : result ∈ loaded) :
    Exists fun entry => entry ∈ entries ∧ load entry = some result := by
  induction entries generalizing loaded with
  | nil => cases found; cases member
  | cons entry rest inductionHypothesis =>
    rcases mapM_cons_eq_some_iff.mp found with ⟨first, others, foundFirst, foundOthers, rfl⟩
    rcases List.mem_cons.mp member with rfl | later
    · exact ⟨entry, List.mem_cons_self, foundFirst⟩
    · rcases inductionHypothesis foundOthers later with ⟨other, present, foundOther⟩
      exact ⟨other, List.mem_cons_of_mem _ present, foundOther⟩

theorem exists_loaded_of_mapM {load : α -> Option β} {entries : List α} {loaded : List β}
    (found : entries.mapM load = some loaded) {entry : α} (member : entry ∈ entries) :
    Exists fun result => result ∈ loaded ∧ load entry = some result := by
  induction entries generalizing loaded with
  | nil => cases member
  | cons first rest inductionHypothesis =>
    rcases mapM_cons_eq_some_iff.mp found with ⟨result, others, foundFirst, foundOthers, rfl⟩
    rcases List.mem_cons.mp member with rfl | later
    · exact ⟨result, List.mem_cons_self, foundFirst⟩
    · rcases inductionHypothesis foundOthers later with ⟨other, present, foundOther⟩
      exact ⟨other, List.mem_cons_of_mem _ present, foundOther⟩

/-- What is kept of each entry is kept of the list. -/
theorem map_eq_map_of_mapM {load : α -> Option β} (before : α -> γ) (after : β -> γ)
    (kept : forall {entry loaded}, load entry = some loaded -> after loaded = before entry)
    {entries : List α} {loaded : List β} (found : entries.mapM load = some loaded) :
    loaded.map after = entries.map before := by
  induction entries generalizing loaded with
  | nil => cases found; rfl
  | cons entry rest inductionHypothesis =>
    rcases mapM_cons_eq_some_iff.mp found with ⟨first, others, foundFirst, foundOthers, rfl⟩
    rw [List.map_cons, List.map_cons, kept foundFirst, inductionHypothesis foundOthers]

theorem length_mapM {load : α -> Option β} {entries : List α} {loaded : List β}
    (found : entries.mapM load = some loaded) : loaded.length = entries.length := by
  have same := map_eq_map_of_mapM (fun _ => ()) (fun _ => ()) (fun _ => rfl) found
  simpa using congrArg List.length same

theorem mapM_append_eq_some {load : α -> Option β} {first second : List α} {loaded others : List β}
    (foundFirst : first.mapM load = some loaded) (foundSecond : second.mapM load = some others) :
    (first ++ second).mapM load = some (loaded ++ others) := by
  rw [List.mapM_append, foundFirst, foundSecond]
  rfl

theorem mapM_append_eq_some_iff {load : α -> Option β} {first second : List α} {results : List β} :
    (first ++ second).mapM load = some results ↔
      Exists fun loaded => Exists fun others => first.mapM load = some loaded ∧
        second.mapM load = some others ∧ loaded ++ others = results := by
  simp [List.mapM_append, Option.bind_eq_some_iff]

theorem mapM_insertIdx {load : α -> Option β} {entry : α} {result : β}
    (foundEntry : load entry = some result) {entries : List α} :
    forall {loaded : List β}, entries.mapM load = some loaded ->
      forall place : Nat, (entries.insertIdx place entry).mapM load =
        some (loaded.insertIdx place result) := by
  induction entries with
  | nil =>
    intro loaded found place
    cases found
    cases place with
    | zero => exact mapM_cons_eq_some_iff.mpr ⟨result, [], foundEntry, rfl, rfl⟩
    | succ earlier => rfl
  | cons first rest inductionHypothesis =>
    intro loaded found place
    rcases mapM_cons_eq_some_iff.mp found with ⟨loadedFirst, others, foundFirst, foundOthers, rfl⟩
    cases place with
    | zero => exact mapM_cons_eq_some_iff.mpr ⟨result, _, foundEntry, found, rfl⟩
    | succ earlier =>
      exact mapM_cons_eq_some_iff.mpr
        ⟨loadedFirst, _, foundFirst, inductionHypothesis foundOthers earlier, rfl⟩

theorem mapM_set {load : α -> Option β} {entry : α} {result : β}
    (foundEntry : load entry = some result) {entries : List α} :
    forall {loaded : List β}, entries.mapM load = some loaded ->
      forall place : Nat, (entries.set place entry).mapM load = some (loaded.set place result) := by
  induction entries with
  | nil => intro loaded found place; cases found; rfl
  | cons first rest inductionHypothesis =>
    intro loaded found place
    rcases mapM_cons_eq_some_iff.mp found with ⟨loadedFirst, others, foundFirst, foundOthers, rfl⟩
    cases place with
    | zero => exact mapM_cons_eq_some_iff.mpr ⟨result, others, foundEntry, foundOthers, rfl⟩
    | succ earlier =>
      exact mapM_cons_eq_some_iff.mpr
        ⟨loadedFirst, _, foundFirst, inductionHypothesis foundOthers earlier, rfl⟩

/-- Where what was loaded is split, so is what it was loaded from. -/
theorem exists_split_of_mapM {load : α -> Option β} {result : β} {later : List β} {earlier : List β} :
    forall {entries : List α}, entries.mapM load = some (earlier ++ result :: later) ->
      Exists fun before => Exists fun entry => Exists fun after =>
        entries = before ++ entry :: after ∧ before.mapM load = some earlier ∧
          load entry = some result := by
  induction earlier with
  | nil =>
    intro entries found
    cases entries with
    | nil => cases found
    | cons entry rest =>
      rcases mapM_cons_eq_some_iff.mp found with ⟨first, others, foundFirst, _, same⟩
      cases same
      exact ⟨[], entry, rest, rfl, rfl, foundFirst⟩
  | cons loaded others inductionHypothesis =>
    intro entries found
    cases entries with
    | nil => cases found
    | cons entry rest =>
      rcases mapM_cons_eq_some_iff.mp found with ⟨first, remaining, foundFirst, foundRest, same⟩
      cases same
      rcases inductionHypothesis foundRest with ⟨before, split, after, rfl, foundBefore, foundSplit⟩
      exact ⟨entry :: before, split, after, rfl,
        mapM_cons_eq_some_iff.mpr ⟨loaded, others, foundFirst, foundBefore, rfl⟩, foundSplit⟩

theorem getElem?_of_mapM {load : α -> Option β} {entries : List α} :
    forall {loaded : List β}, entries.mapM load = some loaded ->
      forall n : Nat, loaded[n]? = entries[n]?.bind load := by
  induction entries with
  | nil => intro loaded found n; cases found; rfl
  | cons entry rest inductionHypothesis =>
    intro loaded found n
    rcases mapM_cons_eq_some_iff.mp found with ⟨first, others, foundFirst, foundOthers, rfl⟩
    cases n with
    | zero => exact foundFirst.symm
    | succ earlier => exact inductionHypothesis foundOthers earlier

theorem ok_bind {ε : Type} (value : α) (next : α -> Except ε β) :
    (Except.ok value >>= next) = next value := rfl

theorem bind_eq_ok_iff {ε : Type} {first : Except ε α} {next : α -> Except ε β} {result : β} :
    (first >>= next) = .ok result ↔
      Exists fun value => first = .ok value ∧ next value = .ok result := by
  constructor
  · intro succeeds
    cases first with
    | error failure => cases succeeds
    | ok value => exact ⟨value, rfl, succeeds⟩
  · rintro ⟨value, rfl, succeeds⟩
    exact succeeds

theorem toOption_eq_some_iff {ε : Type} {computed : Except ε α} {value : α} :
    computed.toOption = some value ↔ computed = .ok value := by
  cases computed <;> simp [Except.toOption]

theorem exists_mem_of_mapM_ok {ε : Type} {read : α -> Except ε β} {entries : List α} :
    forall {results : List β}, entries.mapM read = .ok results ->
      forall {result : β}, result ∈ results ->
      Exists fun entry => entry ∈ entries ∧ read entry = .ok result := by
  induction entries with
  | nil =>
    intro results found result member
    cases found
    cases member
  | cons entry rest inductionHypothesis =>
    intro results found result member
    rw [List.mapM_cons] at found
    rcases bind_eq_ok_iff.mp found with ⟨first, foundFirst, foundRest⟩
    rcases bind_eq_ok_iff.mp foundRest with ⟨others, foundOthers, same⟩
    cases same
    rcases List.mem_cons.mp member with rfl | later
    · exact ⟨entry, List.mem_cons_self, foundFirst⟩
    · rcases inductionHypothesis foundOthers later with ⟨other, present, foundOther⟩
      exact ⟨other, List.mem_cons_of_mem _ present, foundOther⟩

end ParticleEffects
