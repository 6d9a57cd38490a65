import MediaMarkup.Proofs.TitleNames

/-!
Reading the directives of a title. Their keys are valid and no pair lacks its value, so that none of
them fails: there is one reading for each of them, and interpreting them gives the effects of all
readings in order (`Directive.interpret_of_titled`).
-/

namespace MediaMarkup

namespace Directive

/-- A directive as titles hold them: its key is valid, and a pair has its value. -/
structure IsTitled (directive : Directive) : Prop where
  valid : isValidKey directive.key.toList = true
  valued : ∀ key, directive ≠ .unset key

variable {directive : Directive} {kind : String} {directives : List Directive} {sized : Bool}

theorem isTitled_of_ofToken? {token : List Char} (read : ofToken? token = some directive) :
    directive.IsTitled := by
  refine ⟨isValidKey_of_ofToken? read, ?_⟩
  rintro key rfl
  unfold ofToken? at read
  dsimp only at read
  split at read
  · split at read <;> cases read
  · cases read

theorem isTitled_of_readDirectives {text : List Char} :
    ∀ directive ∈ Title.readDirectives text, directive.IsTitled := by
  intro directive mem
  rw [Title.readDirectives, List.mem_filterMap] at mem
  obtain ⟨token, -, read⟩ := mem
  exact isTitled_of_ofToken? read

theorem isTitled_of_parse? {title : Option String} :
    ∀ directive ∈ (Title.parse? title).directives, directive.IsTitled := by
  cases title with
  | none => rintro directive ⟨⟩
  | some title => exact isTitled_of_readDirectives

end Directive

/-! ## Readings -/

namespace Reading

variable {directive : Directive} {kind : String} {directives : List Directive} {sized : Bool}

theorem failure?_ofMarked (mark : Char) (name : List Char) (directive : Directive) :
    (ofMarked mark name directive).failure? = none := by
  unfold ofMarked
  split
  · rfl
  · split <;> rfl

theorem failure?_ofPlainFlag (kind key : String) : (ofPlainFlag kind key).failure? = none := by
  unfold ofPlainFlag
  split
  · rfl
  · split <;> rfl

theorem failure?_ofFlag (kind : String) (sized : Bool) (key : String) :
    (ofFlag kind sized key).failure? = none := by
  unfold ofFlag
  split
  · split
    · exact failure?_ofPlainFlag kind key
    · rfl
  · split
    · rfl
    · exact failure?_ofPlainFlag kind key

theorem failure?_ofLength (name value : String) : (ofLength name value).failure? = none := by
  unfold ofLength
  split
  · rfl
  · split <;> rfl

theorem failure?_ofPair (key value : String) : (ofPair key value).failure? = none := by
  unfold ofPair
  split
  · rfl
  · split
    · rfl
    · split
      · exact failure?_ofLength key value
      · rfl

/-- A directive of a title does not fail. -/
theorem failure?_ofDirective (titled : directive.IsTitled) :
    (ofDirective kind sized directive).failure? = none := by
  have keyed := Directive.ne_nil_of_isValidKey titled.valid
  unfold ofDirective
  split
  · rename_i empty
    exact absurd empty keyed
  · split
    · exact failure?_ofMarked _ _ _
    · cases directive with
      | flag key => exact failure?_ofFlag kind sized key
      | pair key value => exact failure?_ofPair key value
      | unset key => exact absurd rfl (titled.valued key)

theorem failure?_all (kind : String) (sized : Bool)
    (titled : ∀ directive ∈ directives, directive.IsTitled) :
    (all kind sized directives).findSome? failure? = none := by
  induction directives generalizing sized with
  | nil => rfl
  | cons directive rest ih =>
    rw [List.forall_mem_cons] at titled
    have works : (ofDirective kind sized directive).failure? = none :=
      failure?_ofDirective titled.1
    rw [all]
    split
    · rename_i cause reading
      rw [reading] at works
      cases works
    · exact ih _ titled.2
    · rw [List.findSome?_cons, works]
      exact ih _ titled.2

/-- What holds of the reading of each directive holds of the readings of all. -/
theorem forall₂_all {holds : Directive → Reading → Prop}
    (titled : ∀ directive ∈ directives, directive.IsTitled)
    (each : ∀ sized, ∀ directive ∈ directives, holds directive (ofDirective kind sized directive)) :
    List.Forall₂ holds directives (all kind sized directives) := by
  induction directives generalizing sized with
  | nil => exact .nil
  | cons directive rest ih =>
    obtain ⟨later, all_eq, -⟩ := all_cons (failure?_all kind sized titled)
    rw [List.forall_mem_cons] at titled
    rw [all_eq]
    exact .cons (each sized directive List.mem_cons_self)
      (ih titled.2 fun sized directive mem => each sized directive (List.mem_cons_of_mem _ mem))

/-- What holds of every effect that each directive has holds of all effects. -/
theorem forall_all (kind : String) (sized : Bool) {holds : Effect → Prop}
    (titled : ∀ directive ∈ directives, directive.IsTitled)
    (each : ∀ sized, ∀ directive ∈ directives,
      ∀ effect ∈ (ofDirective kind sized directive).effectsOf, holds effect) :
    ∀ effect ∈ (all kind sized directives).flatMap effectsOf, holds effect := by
  induction directives generalizing sized with
  | nil => rintro effect ⟨⟩
  | cons directive rest ih =>
    obtain ⟨later, all_eq, -⟩ := all_cons (failure?_all kind sized titled)
    rw [List.forall_mem_cons] at titled
    rw [all_eq, List.flatMap_cons, List.forall_mem_append]
    exact ⟨each sized directive List.mem_cons_self,
      ih _ titled.2 fun sized directive mem => each sized directive (List.mem_cons_of_mem _ mem)⟩

end Reading

namespace Directive

variable {kind : String} {directives : List Directive}

/-- The effects that each of the directives has. -/
def shares (kind : String) (directives : List Directive) : List (List Effect) :=
  (readings kind directives).map Reading.effectsOf

/-- Interpreting the directives of a title does not fail. -/
theorem interpret_of_titled (titled : ∀ directive ∈ directives, directive.IsTitled) :
    interpret kind directives = .ok (shares kind directives).flatten := by
  have works : (readings kind directives).findSome? Reading.failure? = none :=
    Reading.failure?_all kind false titled
  simp only [interpret, works, shares, List.flatMap_def]

end Directive

end MediaMarkup
