import MediaMarkup.Proofs.Entries
import MediaMarkup.Proofs.Host

/-!
Which options make settings, whatever names and values are given. What is read of options depends
only on the value of each name and on the names in code point order, hence not on the order in which
the options are given (`Settings.ofOptions_perm`). Unknown names are reported before values that do
not fit, and these in a fixed order (`Settings.ofOptions_of_known`). Main statement: options are
accepted just when all of them are known and fit, unless one has the settings' own name
(`acceptedWhenValid_iff`).
-/

namespace MediaMarkup

namespace Settings

variable {options options' : Entries Value}

/-- A name that is given and is no option. -/
def IsUnknown (options : Entries Value) (name : String) : Prop :=
  name ∈ options.names ∧ name ∉ optionNames

/-- An option that is known has a value that fits: a truth value, or the name of a position. -/
def Fits (name : String) (value : Value) : Prop :=
  (∃ flag : Flag, name = flag.name) ∧ (∃ b, value = .boolean b) ∨
    name = positionName ∧ ∃ position : CaptionPosition, value = .text position.name

/-- Whether a flag is given something else than a truth value. -/
def misreads (options : Entries Value) (flag : Flag) : Bool :=
  match options.get? flag.name with
  | none => false
  | some (.boolean _) => false
  | some _ => true

/-! ## Unknown names -/

theorem mem_unknownNames {name : String} :
    name ∈ unknownNames options ↔ IsUnknown options name := by
  rw [unknownNames, List.mem_mergeSort, List.mem_filter, IsUnknown]
  simp

theorem pairwise_le_unknownNames (options : Entries Value) :
    (unknownNames options).Pairwise (· ≤ ·) := by
  have transitive (a b c : String) :
      decide (a ≤ b) = true → decide (b ≤ c) = true → decide (a ≤ c) = true := by
    rw [decide_eq_true_eq, decide_eq_true_eq, decide_eq_true_eq]
    exact String.le_trans
  have total (a b : String) : (decide (a ≤ b) || decide (b ≤ a)) = true := by
    rw [Bool.or_eq_true, decide_eq_true_eq, decide_eq_true_eq]
    exact String.le_total a b
  exact (List.pairwise_mergeSort transitive total _).imp of_decide_eq_true

/-- Distinct names are reported once, in code point order. -/
theorem pairwise_unknownNames (distinct : options.names.Nodup) :
    (unknownNames options).Pairwise (· < ·) := by
  have once : (unknownNames options).Nodup :=
    (List.mergeSort_perm _ _).nodup_iff.mpr (distinct.filter _)
  exact ((pairwise_le_unknownNames options).and once).imp fun both =>
    Std.lt_of_le_of_ne both.1 both.2

theorem unknownNames_perm (same : options'.Perm options) :
    unknownNames options' = unknownNames options := by
  have perm : (unknownNames options').Perm (unknownNames options) :=
    (List.mergeSort_perm _ _).trans
      (((same.map Prod.fst).filter _).trans (List.mergeSort_perm _ _).symm)
  exact perm.eq_of_pairwise (fun a b _ _ first second => String.le_antisymm first second)
    (pairwise_le_unknownNames options') (pairwise_le_unknownNames options)

theorem unknownNames_eq_nil :
    unknownNames options = [] ↔ ¬∃ name, IsUnknown options name := by
  rw [List.eq_nil_iff_forall_not_mem, not_exists]
  exact forall_congr' fun name => not_congr mem_unknownNames

/-- The order in which options are given does not matter. -/
theorem ofOptions_perm (distinct : options.names.Nodup) (same : options'.Perm options) :
    ofOptions options' = ofOptions options := by
  simp only [ofOptions, readFlag, readPosition, unknownNames_perm same,
    Entries.get?_perm distinct same]

/-! ## Values -/

/-- The defaults, overridden by the options that fit. -/
def given (options : Entries Value) : Settings :=
  let flag (flag : Flag) : Bool :=
    match options.get? flag.name with
    | some (.boolean b) => b
    | _ => flag.get default
  let captionPosition :=
    ((options.get? positionName).bind CaptionPosition.ofValue?).getD default.captionPosition
  ⟨flag .enable, captionPosition, flag .videoControls, flag .audioControls, flag .unravelParagraphs⟩

theorem get_given (options : Entries Value) (flag : Flag) :
    flag.get (given options) =
      match options.get? flag.name with
      | some (.boolean b) => b
      | _ => flag.get default := by
  cases flag <;> rfl

theorem readFlag_eq (options : Entries Value) (flag : Flag) :
    readFlag options flag =
      if misreads options flag then .error (.notBoolean flag)
      else .ok (flag.get (given options)) := by
  rw [readFlag, misreads, get_given]
  rcases options.get? flag.name with _ | value
  · rfl
  · cases value <;> rfl

theorem ofValue?_eq_none_iff {value : Value} :
    CaptionPosition.ofValue? value = none ↔ misplaced (some value) = true := by
  cases value with
  | text name =>
    rw [CaptionPosition.ofValue?, List.find?_eq_none, misplaced]
    simp only [List.forall_mem_cons, List.not_mem_nil, false_implies, implies_true, and_true,
      decide_eq_true_eq, Bool.and_eq_true, ne_eq, @eq_comm _ name]
  | _ => exact iff_of_true rfl rfl

theorem readPosition_eq_given (options : Entries Value) :
    readPosition options =
      if misplaced (options.get? positionName) then .error .badPosition
      else .ok (given options).captionPosition := by
  rw [readPosition, given]
  rcases options.get? positionName with _ | value
  · rfl
  · cases read : CaptionPosition.ofValue? value with
    | none => simp [read, ofValue?_eq_none_iff.mp read]
    | some position =>
      have placed : misplaced (some value) = false := by
        rw [← Bool.not_eq_true, ← ofValue?_eq_none_iff, read]
        exact Option.some_ne_none position
      simp [read, placed]

/-- **What is read of known options.** The first flag in order that is given no truth value is
reported, else the caption position. -/
theorem ofOptions_of_known (known : ¬∃ name, IsUnknown options name) :
    ofOptions options =
      match Flag.all.find? (misreads options) with
      | some flag => .error (.notBoolean flag)
      | none =>
        if misplaced (options.get? positionName) then .error .badPosition
        else .ok (given options) := by
  have notOwn : (options.get? ownName).isSome = false := by
    rw [← Bool.not_eq_true, Entries.isSome_get?]
    exact fun mem => known ⟨ownName, mem, by decide⟩
  rw [ofOptions, notOwn, unknownNames_eq_nil.mpr known]
  simp only [readFlag_eq, readPosition_eq_given, Flag.all, List.find?_cons, List.find?_nil]
  cases misreads options .enable with
  | true => rfl
  | false =>
    cases misreads options .videoControls with
    | true => rfl
    | false =>
      cases misreads options .audioControls with
      | true => rfl
      | false =>
        cases misreads options .unravelParagraphs with
        | true => rfl
        | false => cases misplaced (options.get? positionName) <;> rfl

/-! ## Options that fit -/

/-- A value stands for a position if it is the text of its name. -/
theorem ofValue?_eq_some_iff {value : Value} {position : CaptionPosition} :
    CaptionPosition.ofValue? value = some position ↔ value = .text position.name := by
  constructor
  · intro read
    cases value with
    | text name =>
      have named := List.find?_some read
      rw [decide_eq_true_eq] at named
      rw [named]
    | _ => cases read
  · rintro rfl
    cases position <;> rfl

theorem fits_flag_iff {flag : Flag} {value : Value} :
    Fits flag.name value ↔ ∃ b, value = .boolean b := by
  constructor
  · rintro (⟨-, truth⟩ | ⟨position, -⟩)
    · exact truth
    · exact absurd position (HostOptions.flag_ne_position flag)
  · exact fun truth => .inl ⟨⟨flag, rfl⟩, truth⟩

theorem fits_position_iff {value : Value} :
    Fits positionName value ↔ ∃ position, CaptionPosition.ofValue? value = some position := by
  simp only [ofValue?_eq_some_iff]
  constructor
  · rintro (⟨⟨flag, name⟩, -⟩ | ⟨-, position⟩)
    · exact absurd name.symm (HostOptions.flag_ne_position flag)
    · exact position
  · exact fun position => .inr ⟨rfl, position⟩

theorem mem_optionNames_of_fits {name : String} {value : Value} (fits : Fits name value) :
    name ∈ optionNames := by
  rcases fits with ⟨⟨flag, rfl⟩, -⟩ | ⟨rfl, -⟩
  · exact HostOptions.flag_mem flag
  · decide

theorem mem_optionNames_of_mem (fit : ∀ entry ∈ options, Fits entry.1 entry.2) {name : String}
    (mem : name ∈ options.names) : name ∈ optionNames := by
  obtain ⟨entry, given, rfl⟩ := List.mem_map.mp mem
  exact mem_optionNames_of_fits (fit entry given)

theorem misreads_eq_false_iff {flag : Flag} :
    misreads options flag = false ↔
      ∀ value, options.get? flag.name = some value → Fits flag.name value := by
  simp only [misreads, fits_flag_iff]
  rcases options.get? flag.name with _ | value
  · simp
  · cases value <;> simp

theorem misplaced_eq_false_iff :
    misplaced (options.get? positionName) = false ↔
      ∀ value, options.get? positionName = some value → Fits positionName value := by
  simp only [fits_position_iff, ← Option.isSome_iff_exists]
  rcases options.get? positionName with _ | value
  · exact iff_of_true rfl nofun
  · rw [← Bool.not_eq_true, ← ofValue?_eq_none_iff, ← Option.not_isSome_iff_eq_none, not_not]
    simp

/-- Options are all known and fit if nothing can be reported. -/
theorem all_fit_iff (distinct : options.names.Nodup) :
    (∀ entry ∈ options, Fits entry.1 entry.2) ↔
      (¬∃ name, IsUnknown options name) ∧ Flag.all.find? (misreads options) = none ∧
        misplaced (options.get? positionName) = false := by
  have everyFlag (flag : Flag) : flag ∈ Flag.all := by cases flag <;> decide
  simp only [List.find?_eq_none, Bool.not_eq_true, misreads_eq_false_iff, misplaced_eq_false_iff]
  constructor
  · intro fit
    have fits (name : String) (value : Value) (here : options.get? name = some value) :
        Fits name value := fit (name, value) (Entries.mem_of_get? here)
    refine ⟨?_, fun flag _ => fits flag.name, fits positionName⟩
    rintro ⟨name, given, unknown⟩
    exact unknown (mem_optionNames_of_mem fit given)
  · rintro ⟨known, flags, position⟩ ⟨name, value⟩ mem
    have here := Entries.get?_of_mem distinct mem
    have listed : name ∈ optionNames := Decidable.byContradiction fun unlisted =>
      known ⟨name, List.mem_map_of_mem mem, unlisted⟩
    rcases HostOptions.position_or_flag listed with rfl | ⟨flag, rfl⟩
    · exact position value here
    · exact flags flag (everyFlag flag) value here

/-! ## Settings as entries -/

theorem names_toEntries (settings : Settings) : settings.toEntries.names = optionNames := rfl

theorem get?_toEntries_flag (settings : Settings) (flag : Flag) :
    settings.toEntries.get? flag.name = some (.boolean (flag.get settings)) := by
  cases flag <;> rfl

theorem get?_toEntries_position (settings : Settings) :
    settings.toEntries.get? positionName = some (.text settings.captionPosition.name) := rfl

/-- Options that fit stand over the defaults. -/
theorem toEntries_given (distinct : options.names.Nodup)
    (fit : ∀ entry ∈ options, Fits entry.1 entry.2) :
    (given options).toEntries = Entries.putAll default.toEntries options := by
  have fits (name : String) (value : Value) (here : options.get? name = some value) :
      Fits name value := fit (name, value) (Entries.mem_of_get? here)
  have listed : ∀ name ∈ options.names, name ∈ default.toEntries.names :=
    fun _ mem => mem_optionNames_of_mem fit mem
  have distinct' : (given options).toEntries.names.Nodup := by
    rw [names_toEntries]
    decide
  refine Entries.ext distinct' (Entries.names_putAll listed).symm fun name mem => ?_
  rw [Entries.get?_putAll distinct]
  rw [names_toEntries] at mem
  rcases HostOptions.position_or_flag mem with rfl | ⟨flag, rfl⟩
  · rw [get?_toEntries_position, get?_toEntries_position, given]
    cases here : options.get? positionName with
    | none => rfl
    | some value =>
      obtain ⟨position, read⟩ := fits_position_iff.mp (fits positionName value here)
      rw [Option.bind_some, read, ofValue?_eq_some_iff.mp read]
      rfl
  · rw [get?_toEntries_flag, get?_toEntries_flag, get_given]
    cases here : options.get? flag.name with
    | none => rfl
    | some value =>
      obtain ⟨b, rfl⟩ := fits_flag_iff.mp (fits flag.name value here)
      rfl

/-! ## Which options make settings -/

/-- Options make settings just when all of them are known and fit, and otherwise it is reported what
is wrong with them. -/
structure AcceptedWhenValid (options : Entries Value) : Prop where
  accepted : (∃ settings, ofOptions options = .ok settings) ↔
    ∀ entry ∈ options, Fits entry.1 entry.2
  /-- Settings hold the given values over the defaults. -/
  overridden : ∀ settings, ofOptions options = .ok settings →
    settings.toEntries = Entries.putAll default.toEntries options
  /-- Unknown names are reported before anything else: all of them once in code point order, and the
  least is to blame. -/
  unknown : (∃ name, IsUnknown options name) → ∃ first others,
    ofOptions options = .error (.unknownOptions first others) ∧
    (Error.unknownOptions first others).option? = some first ∧
    (Error.unknownOptions first others).message =
      "Unknown option : " ++ ", ".intercalate (first :: others) ∧
    (first :: others).Pairwise (· < ·) ∧
    ∀ name, name ∈ first :: others ↔ IsUnknown options name
  /-- Of the flags that are given no truth value the first is to blame. -/
  misread : (¬∃ name, IsUnknown options name) →
    ∀ flag, Flag.all.find? (misreads options) = some flag →
      ofOptions options = .error (.notBoolean flag) ∧
      (Error.notBoolean flag).option? = some flag.name
  /-- What is left is the caption position. -/
  misplaced : (¬∃ name, IsUnknown options name) → Flag.all.find? (misreads options) = none →
    (¬∀ entry ∈ options, Fits entry.1 entry.2) →
      ofOptions options = .error .badPosition ∧ Error.badPosition.option? = some positionName
  anyOrder : ∀ options' : Entries Value, options'.Perm options →
    ofOptions options' = ofOptions options

theorem ofOptions_of_ownName (own : ownName ∈ options.names) :
    ofOptions options = .error .ownName := by
  rw [ofOptions, Entries.isSome_get?.mpr own, if_pos rfl]

/-- Without the settings' own name, unknown names are reported as such. -/
theorem ofOptions_of_unknown (notOwn : ownName ∉ options.names)
    (unknown : ∃ name, IsUnknown options name) :
    ∃ first others, unknownNames options = first :: others ∧
      ofOptions options = .error (.unknownOptions first others) := by
  have notOwn' : (options.get? ownName).isSome = false := by
    rwa [← Bool.not_eq_true, Entries.isSome_get?]
  cases reported : unknownNames options with
  | nil => exact absurd unknown (unknownNames_eq_nil.mp reported)
  | cons first others =>
    refine ⟨first, others, rfl, ?_⟩
    rw [ofOptions, notOwn', reported]
    rfl

/-- **Options that fit are accepted.** -/
theorem ofOptions_of_fit (distinct : options.names.Nodup)
    (fit : ∀ entry ∈ options, Fits entry.1 entry.2) :
    ofOptions options = .ok (given options) := by
  obtain ⟨known, flags, position⟩ := (all_fit_iff distinct).mp fit
  simp [ofOptions_of_known known, flags, position]

/-- Only options that fit are accepted. -/
theorem fit_of_ofOptions (distinct : options.names.Nodup) {settings : Settings}
    (accepted : ofOptions options = .ok settings) : ∀ entry ∈ options, Fits entry.1 entry.2 := by
  have notOwn : ownName ∉ options.names := by
    intro own
    rw [ofOptions_of_ownName own] at accepted
    cases accepted
  have known : ¬∃ name, IsUnknown options name := by
    intro unknown
    obtain ⟨first, others, -, refused⟩ := ofOptions_of_unknown notOwn unknown
    rw [refused] at accepted
    cases accepted
  rw [ofOptions_of_known known] at accepted
  rw [all_fit_iff distinct]
  cases flags : Flag.all.find? (misreads options) with
  | some flag => simp [flags] at accepted
  | none =>
    cases position : Settings.misplaced (options.get? positionName) with
    | true => simp [flags, position] at accepted
    | false => exact ⟨known, rfl, rfl⟩

/-- **Options are accepted just when they are valid**, and the outcome is the one expected, in any
order: unless one of them has the settings' own name, which is not reported as unknown. -/
theorem acceptedWhenValid_iff (options : Entries Value) (distinct : options.names.Nodup) :
    AcceptedWhenValid options ↔ ownName ∉ options.names := by
  constructor
  · intro valid own
    have unlisted : ownName ∉ optionNames := by decide
    obtain ⟨first, others, refused, -⟩ := valid.unknown ⟨ownName, own, unlisted⟩
    rw [ofOptions_of_ownName own] at refused
    cases refused
  · intro notOwn
    refine ⟨⟨?_, fun fit => ⟨_, ofOptions_of_fit distinct fit⟩⟩, ?_, ?_, ?_, ?_,
      fun _ same => ofOptions_perm distinct same⟩
    · rintro ⟨settings, accepted⟩
      exact fit_of_ofOptions distinct accepted
    · intro settings accepted
      have fit := fit_of_ofOptions distinct accepted
      rw [ofOptions_of_fit distinct fit] at accepted
      cases accepted
      exact toEntries_given distinct fit
    · intro unknown
      obtain ⟨first, others, reported, refused⟩ := ofOptions_of_unknown notOwn unknown
      refine ⟨first, others, refused, rfl, rfl, ?_⟩
      rw [← reported]
      exact ⟨pairwise_unknownNames distinct, fun _ => mem_unknownNames⟩
    · intro known flag first
      exact ⟨by rw [ofOptions_of_known known, first], rfl⟩
    · intro known flags unfit
      have position : Settings.misplaced (options.get? positionName) = true := by
        rw [all_fit_iff distinct] at unfit
        exact (Bool.not_eq_false _).mp fun position => unfit ⟨known, flags, position⟩
      refine ⟨?_, rfl⟩
      simp [ofOptions_of_known known, flags, position]

/-- Names that are no option on both sides of those that are, a number for a flag, and a position
that is none. -/
def severalFaults : Entries Value :=
  [("zoom", .null), (Flag.audioControls.name, .integer 1), (positionName, .text "beside"),
    ("align", .text "left")]

theorem acceptedWhenValid_iff_severalFaults :
    severalFaults.names.Nodup ∧ AcceptedWhenValid severalFaults ∧
      ofOptions severalFaults = .error (.unknownOptions "align" ["zoom"]) := by
  have distinct : severalFaults.names.Nodup := by decide
  have unlisted : severalFaults.names.filter (fun name => !optionNames.contains name) =
      ["zoom", "align"] := by decide
  have sorted : unknownNames severalFaults = ["align", "zoom"] := by
    rw [unknownNames, unlisted]
    simp [List.mergeSort]
  refine ⟨distinct, (acceptedWhenValid_iff severalFaults distinct).mpr (by decide), ?_⟩
  rw [ofOptions, sorted]
  rfl

/-- An option with the settings' own name is no option, and is not reported as unknown. -/
theorem not_acceptedWhenValid_ownName :
    IsUnknown [(ownName, .integer 1)] ownName ∧ ¬AcceptedWhenValid [(ownName, .integer 1)] := by
  have unknown : IsUnknown [(ownName, .integer 1)] ownName := ⟨by decide, by decide⟩
  refine ⟨unknown, fun valid => ?_⟩
  obtain ⟨first, others, refused, -⟩ := valid.unknown ⟨ownName, unknown⟩
  rw [ofOptions_of_ownName List.mem_cons_self] at refused
  cases refused

end Settings

end MediaMarkup
