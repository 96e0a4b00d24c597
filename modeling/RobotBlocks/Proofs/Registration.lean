import RobotBlocks.Gamepad.Builtin

/-!
# Registering profiles

Profiles are registered one after the other, and some of these calls are refused. `Registry.attempt`
is one call and `Registry.attempts` a run of calls; a refused call is passed over. What a call does
is told by three lemmas, one for each outcome: `register_of_known`, `register_of_lost` and
`register_of_new`. A registry is only ever appended to, so whatever is found in it is found after
any further run (`find?_attempts`).

A declaration that delegates is resolved once, against the profiles of the moment. `ComesTo` says to
which tables a declaration comes against given profiles; since these never change, it says the same
at every later moment. The main statement is `delegation_is_stable`.
-/

set_option autoImplicit false

namespace RobotBlocks

/-- The profile from which a declaration takes its tables, if it takes them from one. -/
def Declaration.base? : Declaration → Option Controller
  | .tables _ => none
  | .sameAs base => some base
  | .derivedFrom derivation => some derivation.base

/-- The tables that a declaration comes to against the profiles of a registry. -/
inductive Declaration.ComesTo (registry : Registry) : Declaration → ControlTables → Prop
  | tables (tables : ControlTables) : ComesTo registry (.tables tables) tables
  | sameAs {base : Controller} {profile : Profile} (found : registry.resolve base = .ok profile) :
    ComesTo registry (.sameAs base) profile.tables
  | derivedFrom {derivation : Derivation} {profile : Profile}
    (found : registry.resolve derivation.base = .ok profile) :
    ComesTo registry (.derivedFrom derivation) (derivation.apply profile.tables)

namespace Registry

/-- There is a profile of the controller. -/
def Knows (registry : Registry) (controller : Controller) : Prop :=
  ∃ profile, registry.resolve controller = .ok profile

/-- The controllers that have a profile. -/
def controllers (registry : Registry) : List Controller :=
  registry.profiles.map Profile.controller

/-- Registers a profile in a registry that is changed in place. -/
def registerInPlace (controller : Controller) (declaration : Declaration) :
    ExceptT Fault (StateM Registry) Unit := do
  let registry ← get
  match registry.find? controller with
  | some _ => throw (.duplicateProfile controller)
  | none =>
    match registry.tablesOf declaration with
    | .error fault => throw fault
    | .ok tables =>
      modify fun registry =>
        ⟨Keyed.upsert Profile.controller ⟨controller, tables⟩ registry.profiles⟩

/-- Calls of `registerInPlace`, each with what it registers; a refused call is passed over. -/
def attempt (registry : Registry) (call : Controller × Declaration) : Registry :=
  ((registerInPlace call.1 call.2).run.run registry).2

/-- A run of calls. -/
def attempts (registry : Registry) (calls : List (Controller × Declaration)) : Registry :=
  calls.foldl attempt registry

section Lookups

variable {registry : Registry} {controller : Controller}

/-- A controller resolves to the profile that is found for it. -/
theorem resolve_eq_ok_iff {profile : Profile} :
    registry.resolve controller = .ok profile ↔ registry.find? controller = some profile := by
  unfold resolve
  cases registry.find? controller with
  | none => simp
  | some found => simp

/-- No profile is found for an unknown controller. -/
theorem find?_of_notKnown (unknown : ¬registry.Knows controller) :
    registry.find? controller = none := by
  cases found : registry.find? controller with
  | none => rfl
  | some profile => exact absurd ⟨profile, resolve_eq_ok_iff.mpr found⟩ unknown

/-- An unknown controller is refused by its name. -/
theorem resolve_of_notKnown (unknown : ¬registry.Knows controller) :
    registry.resolve controller = .error (.unknownProfile controller) := by
  unfold resolve
  rw [find?_of_notKnown unknown]

/-- A controller is known exactly if it is listed. -/
theorem knows_iff_mem_controllers :
    registry.Knows controller ↔ controller ∈ registry.controllers := by
  have absent : registry.find? controller = none ↔ controller ∉ registry.controllers :=
    Keyed.find?_eq_none_iff
  unfold Knows
  cases found : registry.find? controller with
  | none => simpa [resolve, found] using absent.mp found
  | some profile => simpa [resolve, found] using absent

/-- A profile added for a new controller is the one that this controller resolves to. -/
theorem resolve_append_self (new : ¬registry.Knows controller) (tables : ControlTables) :
    resolve ⟨registry.profiles ++ [⟨controller, tables⟩]⟩ controller =
      .ok ⟨controller, tables⟩ := by
  have absent := find?_of_notKnown new
  rw [resolve_eq_ok_iff]
  unfold find? Keyed.find? at absent ⊢
  rw [List.find?_append, absent]
  simp

/-- A profile that is added makes no difference to other controllers. -/
theorem resolve_append_of_ne {other : Controller} (different : other ≠ controller)
    (tables : ControlTables) :
    resolve ⟨registry.profiles ++ [⟨controller, tables⟩]⟩ other = registry.resolve other := by
  have same : find? ⟨registry.profiles ++ [⟨controller, tables⟩]⟩ other = registry.find? other := by
    unfold find? Keyed.find?
    rw [List.find?_append]
    simp [Ne.symm different]
  unfold resolve
  rw [same]

end Lookups

/-! ## One call -/

section Call

variable {registry : Registry} {controller : Controller} {declaration : Declaration}

/-- A known controller is not registered again. -/
theorem register_of_known (known : registry.Knows controller) :
    registry.register controller declaration = .error (.duplicateProfile controller) := by
  obtain ⟨profile, found⟩ := known
  unfold register
  rw [resolve_eq_ok_iff.mp found]

/-- A new controller whose base is unknown is refused by the name of the base. -/
theorem register_of_lost {base : Controller} (new : ¬registry.Knows controller)
    (delegates : declaration.base? = some base) (lost : ¬registry.Knows base) :
    registry.register controller declaration = .error (.unknownProfile base) := by
  have refused : registry.tablesOf declaration = .error (.unknownProfile base) := by
    cases declaration with
    | tables tables => simp [Declaration.base?] at delegates
    | sameAs other =>
      obtain rfl : other = base := by simpa [Declaration.base?] using delegates
      simp [tablesOf, resolve_of_notKnown lost, Except.map]
    | derivedFrom derivation =>
      obtain rfl : derivation.base = base := by simpa [Declaration.base?] using delegates
      simp [tablesOf, resolve_of_notKnown lost, Except.map]
  unfold register
  rw [find?_of_notKnown new, refused]
  rfl

/-- Tables are found for a declaration that does not delegate to a profile that is not there. -/
theorem exists_comesTo (present : ∀ base, declaration.base? = some base → registry.Knows base) :
    ∃ tables, declaration.ComesTo registry tables := by
  cases declaration with
  | tables tables => exact ⟨tables, .tables tables⟩
  | sameAs base =>
    obtain ⟨profile, found⟩ := present base rfl
    exact ⟨profile.tables, .sameAs found⟩
  | derivedFrom derivation =>
    obtain ⟨profile, found⟩ := present derivation.base rfl
    exact ⟨derivation.apply profile.tables, .derivedFrom found⟩

/-- The tables that a declaration comes to are those that are looked up for it. -/
theorem tablesOf_of_comesTo {tables : ControlTables} (comes : declaration.ComesTo registry tables) :
    registry.tablesOf declaration = .ok tables := by
  cases comes with
  | tables => rfl
  | sameAs found => simp [tablesOf, found, Except.map]
  | derivedFrom found => simp [tablesOf, found, Except.map]

/-- A new controller is registered with the tables that its declaration comes to, behind all others.
-/
theorem register_of_new {tables : ControlTables} (new : ¬registry.Knows controller)
    (comes : declaration.ComesTo registry tables) :
    registry.register controller declaration =
      .ok ⟨registry.profiles ++ [⟨controller, tables⟩]⟩ := by
  unfold register
  rw [find?_of_notKnown new, tablesOf_of_comesTo comes]
  rfl

/-- What a call comes to: the controller has a profile, or the base has none, or the profile is
appended. -/
theorem register_cases (registry : Registry) (controller : Controller) (declaration : Declaration) :
    (registry.Knows controller ∧
      registry.register controller declaration = .error (.duplicateProfile controller)) ∨
    (¬registry.Knows controller ∧ ∃ base, declaration.base? = some base ∧ ¬registry.Knows base ∧
      registry.register controller declaration = .error (.unknownProfile base)) ∨
    (¬registry.Knows controller ∧ (∀ base, declaration.base? = some base → registry.Knows base) ∧
      ∃ tables, declaration.ComesTo registry tables ∧
        registry.register controller declaration =
          .ok ⟨registry.profiles ++ [⟨controller, tables⟩]⟩) := by
  by_cases known : registry.Knows controller
  · exact Or.inl ⟨known, register_of_known known⟩
  · by_cases present : ∀ base, declaration.base? = some base → registry.Knows base
    · obtain ⟨tables, comes⟩ := exists_comesTo present
      exact Or.inr (Or.inr ⟨known, present, tables, comes, register_of_new known comes⟩)
    · simp only [Classical.not_forall] at present
      obtain ⟨base, delegates, lost⟩ := present
      exact Or.inr (Or.inl ⟨known, base, delegates, lost, register_of_lost known delegates lost⟩)

/-- Registering in place ends in the registry that registering gives, or leaves the registry as it
was. -/
theorem registerInPlace_run (registry : Registry) (controller : Controller)
    (declaration : Declaration) :
    (registerInPlace controller declaration).run.run registry =
      match registry.register controller declaration with
      | .ok after => (.ok (), after)
      | .error fault => (.error fault, registry) := by
  unfold register
  -- Both sides look the controller up first; what was read back from the state is `registry`.
  cases found : registry.find? controller with
  | some profile =>
    show StateT.run (ExceptT.run (match registry.find? controller with
      | some _ => _
      | none => _)) registry = _
    rw [found]
    rfl
  | none =>
    show StateT.run (ExceptT.run (match registry.find? controller with
      | some _ => _
      | none => _)) registry = _
    rw [found]
    dsimp only
    cases registry.tablesOf declaration with
    | error fault => rfl
    | ok tables =>
      have appended := Keyed.upsert_of_notMem Profile.controller ⟨controller, tables⟩
        registry.profiles (Keyed.find?_eq_none_iff.mp found)
      show (Except.ok (), Registry.mk (Keyed.upsert Profile.controller _ registry.profiles)) = _
      rw [appended]
      rfl

end Call

/-! ## Runs of calls -/

section Run

variable {registry : Registry}

/-- A call leaves the registry as it is if it is refused, and otherwise what registering gives. -/
theorem attempt_eq (registry : Registry) (call : Controller × Declaration) :
    registry.attempt call =
      match registry.register call.1 call.2 with
      | .ok after => after
      | .error _ => registry := by
  unfold attempt
  rw [registerInPlace_run]
  cases registry.register call.1 call.2 with
  | ok after => rfl
  | error fault => rfl

/-- What is registered was not there before, and stands behind all others. -/
theorem exists_of_register {after : Registry} {controller : Controller} {declaration : Declaration}
    (accepted : registry.register controller declaration = .ok after) :
    registry.find? controller = none ∧
      ∃ tables, after = ⟨registry.profiles ++ [⟨controller, tables⟩]⟩ := by
  unfold register at accepted
  cases found : registry.find? controller with
  | some profile => simp [found] at accepted
  | none =>
    refine ⟨rfl, ?_⟩
    cases came : registry.tablesOf declaration with
    | error fault => simp [found, came, Except.map] at accepted
    | ok tables =>
      rw [found, came] at accepted
      exact ⟨tables, (Except.ok.inj accepted).symm⟩

/-- A profile that is found is found after one more call. -/
theorem find?_attempt (registry : Registry) (call : Controller × Declaration)
    {controller : Controller} {profile : Profile}
    (found : registry.find? controller = some profile) :
    (registry.attempt call).find? controller = some profile := by
  rw [attempt_eq]
  cases accepted : registry.register call.1 call.2 with
  | error fault => exact found
  | ok after =>
    obtain ⟨-, tables, rfl⟩ := exists_of_register accepted
    unfold find? Keyed.find? at found ⊢
    rw [List.find?_append, found]
    rfl

/-- A profile that is found is found after any run of calls. -/
theorem find?_attempts (calls : List (Controller × Declaration)) {controller : Controller}
    {profile : Profile} (found : registry.find? controller = some profile) :
    (registry.attempts calls).find? controller = some profile := by
  induction calls generalizing registry with
  | nil => exact found
  | cons call rest ih => exact ih (find?_attempt registry call found)

/-- A controller resolves to the same profile after any run of calls. -/
theorem resolve_attempts (calls : List (Controller × Declaration)) {controller : Controller}
    {profile : Profile} (found : registry.resolve controller = .ok profile) :
    (registry.attempts calls).resolve controller = .ok profile :=
  resolve_eq_ok_iff.mpr (find?_attempts calls (resolve_eq_ok_iff.mp found))

/-- What a declaration comes to is the same at every later moment. -/
theorem comesTo_attempts (calls : List (Controller × Declaration)) {declaration : Declaration}
    {tables : ControlTables} (comes : declaration.ComesTo registry tables) :
    declaration.ComesTo (registry.attempts calls) tables := by
  cases comes with
  | tables => exact .tables tables
  | sameAs found => exact .sameAs (resolve_attempts calls found)
  | derivedFrom found => exact .derivedFrom (resolve_attempts calls found)

/-- An accepted call adds one controller, and leaves all others as they are. What it adds stays, and
stays what its declaration comes to. -/
theorem added_of_new {controller : Controller} {declaration : Declaration} {tables : ControlTables}
    (new : ¬registry.Knows controller) (comes : declaration.ComesTo registry tables) :
    let after := registry.attempt (controller, declaration)
    after.controllers = registry.controllers ++ [controller] ∧
      after.size = registry.size + 1 ∧
      (∀ other, other ≠ controller → after.resolve other = registry.resolve other) ∧
      ∀ later, (after.attempts later).resolve controller = .ok ⟨controller, tables⟩ ∧
        declaration.ComesTo (after.attempts later) tables := by
  intro after
  have afterEq : after = ⟨registry.profiles ++ [⟨controller, tables⟩]⟩ := by
    show registry.attempt (controller, declaration) = _
    rw [attempt_eq, register_of_new new comes]
  have found : after.resolve controller = .ok ⟨controller, tables⟩ := by
    rw [afterEq]
    exact resolve_append_self new tables
  have comesAfter : declaration.ComesTo after tables :=
    comesTo_attempts [(controller, declaration)] comes
  refine ⟨?_, ?_, ?_, fun later => ?_⟩
  · simp [afterEq, controllers]
  · simp [afterEq, size]
  · intro other different
    rw [afterEq]
    exact resolve_append_of_ne different tables
  · exact ⟨resolve_attempts later found, comesTo_attempts later comesAfter⟩

/-- Registering declarations that are all accepted is the run of the calls. -/
theorem attempts_of_registerAll {declarations : List (Controller × Declaration)} {after : Registry}
    (accepted : registry.registerAll declarations = .ok after) :
    registry.attempts declarations = after := by
  induction declarations generalizing registry with
  | nil => exact Except.ok.inj accepted
  | cons call rest ih =>
    unfold registerAll at accepted
    rw [List.foldlM_cons] at accepted
    cases first : registry.register call.1 call.2 with
    | error fault =>
      rw [first] at accepted
      exact absurd accepted (by simp [bind, Except.bind])
    | ok next =>
      rw [first] at accepted
      have here : registry.attempt call = next := by rw [attempt_eq, first]
      show (registry.attempt call).attempts rest = after
      rw [here]
      exact ih accepted

end Run

/-- The built-in registry is what a run of calls makes of the empty one, each call accepted. -/
theorem builtin_eq_attempts : builtin = .ok (attempts {} Builtin.declarations) := by
  have accepted : builtin.isOk = true := by decide
  cases made : builtin with
  | error fault =>
    rw [made] at accepted
    cases accepted
  | ok registry => rw [attempts_of_registerAll made]

/-- Registering only appends, and what delegation gave once it gives at every later moment. Take any
run of calls on any registry, such as the empty one, from which the built-in one comes by a run of
accepted calls, and one call after it.

The call is accepted exactly when its controller has no profile and the profile that it delegates
to, if any, is there. A controller with a profile is reported first, then a base without one. A
refused call leaves the registry as it was. An accepted call adds the one controller, and all others
resolve as before. After any later calls the new profile has the same tables still, and these are
what its declaration comes to against the profiles of that moment: its own tables, those of the
profile that it is the same as, or its derivation applied to those of its base. Any profile that was
there before stays as well. -/
theorem delegation_is_stable :
    builtin = .ok (attempts {} Builtin.declarations) ∧
    ∀ (start : Registry) (calls : List (Controller × Declaration)) (controller : Controller)
      (declaration : Declaration),
      let registry := start.attempts calls
      let outcome := ((registerInPlace controller declaration).run.run registry).1
      let after := registry.attempt (controller, declaration)
      (outcome = .ok () ↔ ¬registry.Knows controller ∧
        ∀ base, declaration.base? = some base → registry.Knows base) ∧
      (outcome = .error (.duplicateProfile controller) ↔ registry.Knows controller) ∧
      (∀ base, outcome = .error (.unknownProfile base) ↔
        ¬registry.Knows controller ∧ declaration.base? = some base ∧ ¬registry.Knows base) ∧
      (outcome ≠ .ok () → after = registry) ∧
      (outcome = .ok () →
        after.controllers = registry.controllers ++ [controller] ∧
        after.size = registry.size + 1 ∧
        (∀ other, other ≠ controller → after.resolve other = registry.resolve other) ∧
        ∃ tables, ∀ later,
          (after.attempts later).resolve controller = .ok ⟨controller, tables⟩ ∧
          declaration.ComesTo (after.attempts later) tables) ∧
      ∀ other profile, registry.resolve other = .ok profile →
        ∀ later, (registry.attempts later).resolve other = .ok profile := by
  refine ⟨builtin_eq_attempts, ?_⟩
  intro start calls controller declaration registry outcome after
  have run := registerInPlace_run registry controller declaration
  have stays : ∀ other profile, registry.resolve other = .ok profile →
      ∀ later, (registry.attempts later).resolve other = .ok profile :=
    fun other profile found later => resolve_attempts later found
  -- The controller is known, or it is new and the base is missing, or the declaration is accepted.
  rcases registry.register_cases controller declaration with
    ⟨known, refused⟩ | ⟨new, base, delegates, lost, refused⟩ |
      ⟨new, present, tables, comes, accepted⟩
  · rw [refused] at run
    have outcomeEq : outcome = .error (.duplicateProfile controller) := congrArg Prod.fst run
    have afterEq : after = registry := congrArg Prod.snd run
    refine ⟨?_, ?_, ?_, fun _ => afterEq, ?_, stays⟩
    · simp [outcomeEq, known]
    · simp [outcomeEq, known]
    · simp [outcomeEq, known]
    · simp [outcomeEq]
  · rw [refused] at run
    have outcomeEq : outcome = .error (.unknownProfile base) := congrArg Prod.fst run
    have afterEq : after = registry := congrArg Prod.snd run
    refine ⟨?_, ?_, ?_, fun _ => afterEq, ?_, stays⟩
    · simp [outcomeEq, delegates, lost]
    · simp [outcomeEq, new]
    · intro other
      rw [outcomeEq, delegates]
      constructor
      · intro same
        obtain rfl : base = other := by simpa using same
        exact ⟨new, rfl, lost⟩
      · rintro ⟨-, same, -⟩
        obtain rfl : base = other := by simpa using same
        rfl
    · simp [outcomeEq]
  · rw [accepted] at run
    have outcomeEq : outcome = .ok () := congrArg Prod.fst run
    obtain ⟨controllers, size, others, added⟩ := added_of_new new comes
    refine ⟨?_, ?_, ?_, ?_, fun _ => ⟨controllers, size, others, tables, added⟩, stays⟩
    · simpa [outcomeEq, new] using present
    · simp [outcomeEq, new]
    · intro base
      rw [outcomeEq]
      constructor
      · intro same
        cases same
      · rintro ⟨-, delegates, lost⟩
        exact absurd (present base delegates) lost
    · simp [outcomeEq]

/-- A gamepad is derived from a common one, and a third is declared to be the same as the second,
after it was refused to be the same as itself. Whatever is registered later, the third has the
tables of the second, which are those of the first without its lights. -/
theorem delegation_is_stable_of_refused_calls :
    let common : ControlTables := { leds := some .empty, rumble := some .empty }
    let calls : List (Controller × Declaration) :=
      [(.generic, .tables common),
        (.playStation4, .derivedFrom { base := .generic, without := [.led] }),
        (.playStation5, .sameAs .playStation5)]
    let registry := attempts {} calls
    let after := registry.attempt (.playStation5, .sameAs .playStation4)
    ¬registry.Knows .playStation5 ∧ registry.Knows .playStation4 ∧
      registry.attempt (.playStation4, .sameAs .xbox) = registry ∧
      after.controllers = [.generic, .playStation4, .playStation5] ∧
      ∀ later, (after.attempts later).resolve .playStation5 =
        .ok ⟨.playStation5, { rumble := some .empty }⟩ := by
  intro common calls registry after
  have new : ¬registry.Knows .playStation5 := by
    rw [knows_iff_mem_controllers]
    decide
  have known : registry.Knows .playStation4 := by
    rw [knows_iff_mem_controllers]
    decide
  obtain ⟨-, again, -, refused, -⟩ :=
    delegation_is_stable.2 {} calls .playStation4 (.sameAs .xbox)
  obtain ⟨accepted, -, -, -, added, stays⟩ :=
    delegation_is_stable.2 {} calls .playStation5 (.sameAs .playStation4)
  have present : ∀ base, (Declaration.sameAs .playStation4).base? = some base →
      registry.Knows base := by
    intro base same
    obtain rfl : .playStation4 = base := by simpa [Declaration.base?] using same
    exact known
  obtain ⟨controllers, -, -, tables, resolved⟩ := added (accepted.mpr ⟨new, present⟩)
  have unchanged : registry.attempt (.playStation4, .sameAs .xbox) = registry := by
    apply refused
    rw [again.mpr known]
    simp
  refine ⟨new, known, unchanged, controllers, fun later => ?_⟩
  obtain ⟨third, comes⟩ := resolved later
  have second : (after.attempts later).resolve .playStation4 =
      .ok ⟨.playStation4, { rumble := some .empty }⟩ :=
    stays .playStation4 _ rfl ((.playStation5, .sameAs .playStation4) :: later)
  cases comes with
  | sameAs found =>
    rw [second] at found
    obtain rfl := Except.ok.inj found
    exact third

end Registry

end RobotBlocks
