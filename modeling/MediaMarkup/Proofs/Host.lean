import MediaMarkup.Host
import MediaMarkup.Proofs.Asked

/-!
What becomes of a document in a host, whatever options the host is given: which of them cannot be
set, when the options that were set make no settings, and which settings the document is enriched
with otherwise.
-/

namespace MediaMarkup

/-! ## Setting options -/

namespace HostOptions

/-- Why an option cannot be set: there is none of its name, or it is on or off and the word for it
says neither. -/
def refusal? (given : String × Value) : Option Error :=
  if given.1 ∉ Settings.optionNames then some (.unknown given.1)
  else if given.1 = Settings.positionName then none
  else
    match given.2 with
    | .text word =>
      if word.toList.map Char.toLower ∈ (trueWords ++ falseWords).map String.toList then none
      else some (.notBoolean word)
    | _ => none

/-- The truth value that an option is taken for. -/
def truth : Value → Bool
  | .text word => word.toList.map Char.toLower ∈ trueWords.map String.toList
  | value => isTrue value

/-- What is kept of a value that an option is set to. -/
def taken (name : String) (value : Value) : Value :=
  if name = Settings.positionName then value else .boolean (truth value)

variable {given : List (String × Value)} {name : String} {value : Value}

theorem get?_defaults_flag (flag : Settings.Flag) :
    defaults.get? flag.name = some (.boolean (flag.get .default)) := by
  cases flag <;> rfl

theorem names_defaults : Entries.names defaults = Settings.optionNames := rfl

/-- An option is the caption position or on or off. -/
theorem position_or_flag (listed : name ∈ Settings.optionNames) :
    name = Settings.positionName ∨ ∃ flag : Settings.Flag, name = flag.name := by
  simp only [Settings.optionNames, List.mem_cons, List.not_mem_nil, or_false] at listed
  rcases listed with h | h | h | h | h
  · exact .inr ⟨_, h⟩
  · exact .inl h
  · exact .inr ⟨_, h⟩
  · exact .inr ⟨_, h⟩
  · exact .inr ⟨_, h⟩

theorem flag_ne_position (flag : Settings.Flag) : flag.name ≠ Settings.positionName := by
  cases flag <;> decide

theorem flag_mem (flag : Settings.Flag) : flag.name ∈ Settings.optionNames := by
  cases flag <;> decide

/-- A flag is set to the truth value of its word unless the word is refused. -/
theorem readBoolean_eq (flag : Settings.Flag) (value : Value) :
    readBoolean value =
      match refusal? (flag.name, value) with
      | some cause => .error cause
      | none => .ok (truth value) := by
  have same (words : List String) (word : List Char) :
      String.ofList word ∈ words ↔ word ∈ words.map String.toList := by
    rw [List.mem_map]
    constructor
    · exact fun mem => ⟨_, mem, String.toList_ofList⟩
    · rintro ⟨text, mem, rfl⟩
      rwa [String.ofList_toList]
  cases value with
  | text word =>
    simp only [readBoolean, readWord, refusal?, flag_mem, flag_ne_position, truth, same,
      not_true_eq_false, ↓reduceIte, List.map_append, List.mem_append]
    split
    · simp [*]
    · split <;> simp [*]
  | _ => simp [readBoolean, refusal?, flag_mem, flag_ne_position, truth]

/-- **One option.** It is refused, or it is set to what is kept of its value. -/
theorem set_eq {options : Entries Value} (fresh : options.get? name = defaults.get? name) :
    set options name value =
      match refusal? (name, value) with
      | some cause => .error cause
      | none => .ok (options.put name (taken name value)) := by
  by_cases listed : name ∈ Settings.optionNames
  · rcases position_or_flag listed with rfl | ⟨flag, rfl⟩
    · have old : options.get? Settings.positionName = some (.text _) := fresh
      simp [set, old, refusal?, listed, taken]
    · rw [get?_defaults_flag] at fresh
      rw [set, fresh]
      simp only [readBoolean_eq flag, taken, flag_ne_position, ↓reduceIte]
      cases refusal? (flag.name, value) <;> rfl
  · have missing : options.get? name = none := by
      rw [fresh, ← Option.not_isSome_iff_eq_none, Entries.isSome_get?]
      exact listed
    simp [set, missing, refusal?, listed]

/-- **All options.** The first that is refused stops the others, and without one every option is set
to what is kept of its value. -/
theorem foldlM_set_eq {options : Entries Value} (distinct : (Entries.names given).Nodup)
    (fresh : ∀ name ∈ Entries.names given, options.get? name = defaults.get? name) :
    given.foldlM (fun options entry => set options entry.1 entry.2) options =
      match given.findSome? refusal? with
      | some cause => .error cause
      | none => .ok (options.putAll (given.map fun entry => (entry.1, taken entry.1 entry.2))) := by
  induction given generalizing options with
  | nil => rfl
  | cons entry given ih =>
    rw [Entries.names, List.map_cons, List.nodup_cons] at distinct
    rw [Entries.names, List.map_cons, List.forall_mem_cons] at fresh
    rw [List.foldlM_cons, set_eq fresh.1, List.findSome?_cons]
    cases refused : refusal? (entry.1, entry.2) with
    | some cause => rfl
    | none =>
      have later : ∀ name ∈ Entries.names given,
          (options.put entry.1 (taken entry.1 entry.2)).get? name = defaults.get? name := by
        intro name mem
        have ne : name ≠ entry.1 := fun same => distinct.1 (same ▸ mem)
        rw [Entries.get?_put_of_ne ne, fresh.2 name mem]
      exact ih distinct.2 later

theorem setAll_eq (distinct : (Entries.names given).Nodup) :
    setAll given =
      if Settings.ownName ∈ Entries.names given then .error .ownName
      else
        match given.findSome? refusal? with
        | some cause => .error cause
        | none =>
          .ok (defaults.putAll (given.map fun entry => (entry.1, taken entry.1 entry.2))) := by
  simp only [setAll, Entries.isSome_get?, foldlM_set_eq distinct fun _ _ => rfl]

theorem mem_of_not_refused (accepted : given.findSome? refusal? = none)
    (mem : name ∈ Entries.names given) : name ∈ Settings.optionNames := by
  obtain ⟨entry, present, rfl⟩ := List.mem_map.mp mem
  have kept := List.findSome?_eq_none_iff.mp accepted entry present
  refine Decidable.byContradiction fun unlisted => ?_
  rw [refusal?, if_pos unlisted] at kept
  cases kept

end HostOptions

/-! ## From options to settings -/

namespace Settings

/-- Whether a caption position is given that is none. -/
def misplaced : Option Value → Bool
  | none => false
  | some (.text name) => name ≠ CaptionPosition.above.name && name ≠ CaptionPosition.below.name
  | some _ => true

/-- The default settings, overridden by what a host is given. -/
def overridden (given : Entries Value) : Settings :=
  let flag (flag : Flag) : Bool :=
    match given.get? flag.name with
    | some value => HostOptions.truth value
    | none => flag.get default
  let captionPosition :=
    match given.get? positionName with
    | some (.text name) => if name = CaptionPosition.above.name then .above else .below
    | _ => default.captionPosition
  ⟨flag .enable, captionPosition, flag .videoControls, flag .audioControls, flag .unravelParagraphs⟩

variable {given options : Entries Value}

/-- Options that are all there, with truth values where they belong, make settings once the caption
position is read. -/
theorem ofOptions_eq {settings : Settings} (listed : options.names = optionNames)
    (flags : ∀ flag : Flag, options.get? flag.name = some (.boolean (flag.get settings))) :
    ofOptions options =
      (readPosition options).map fun captionPosition => { settings with captionPosition } := by
  have noOwnName : (options.get? ownName).isSome = false := by
    rw [← Bool.not_eq_true, Entries.isSome_get?, listed]
    decide
  have noOther : unknownNames options = [] := by
    have allListed : optionNames.filter (fun name => !optionNames.contains name) = [] := by decide
    rw [unknownNames, listed, allListed, List.mergeSort_nil]
  have read (flag : Flag) : readFlag options flag = .ok (flag.get settings) := by
    rw [readFlag, flags flag]
  simp only [ofOptions, noOwnName, noOther, read, Bool.false_eq_true, ↓reduceIte]
  cases readPosition options <;> rfl

/-- The position is the one given, and the default without one. -/
theorem readPosition_eq
    (placed : options.get? positionName =
      (given.get? positionName).or (HostOptions.defaults.get? positionName)) :
    readPosition options =
      if misplaced (given.get? positionName) then .error .badPosition
      else .ok (overridden given).captionPosition := by
  rw [readPosition, placed, overridden]
  rcases given.get? positionName with _ | value
  · rfl
  · cases value with
    | text name =>
      by_cases above : name = CaptionPosition.above.name
      · subst above
        rfl
      · by_cases below : name = CaptionPosition.below.name
        · subst below
          rfl
        · simp [CaptionPosition.ofValue?, misplaced, above, below, Ne.symm above, Ne.symm below]
    | _ => rfl

/-- The settings that a host's options make. -/
theorem ofOptions_putAll (distinct : (Entries.names given).Nodup)
    (accepted : given.findSome? HostOptions.refusal? = none) :
    ofOptions (HostOptions.defaults.putAll
        (given.map fun entry => (entry.1, HostOptions.taken entry.1 entry.2))) =
      if misplaced (given.get? positionName) then .error .badPosition
      else .ok (overridden given) := by
  have sameNames : Entries.names
      (given.map fun entry => (entry.1, HostOptions.taken entry.1 entry.2)) =
        Entries.names given := by
    simp [Entries.names, Function.comp_def]
  have listed := Entries.names_putAll fun name mem =>
    HostOptions.names_defaults ▸ HostOptions.mem_of_not_refused accepted (sameNames ▸ mem)
  have kept (name : String) : (HostOptions.defaults.putAll
      (given.map fun entry => (entry.1, HostOptions.taken entry.1 entry.2))).get? name =
        ((given.get? name).map (HostOptions.taken name)).or (HostOptions.defaults.get? name) := by
    rw [Entries.get?_putAll (sameNames ▸ distinct), Entries.get?_map]
  have flags (flag : Flag) : (HostOptions.defaults.putAll
      (given.map fun entry => (entry.1, HostOptions.taken entry.1 entry.2))).get? flag.name =
        some (.boolean (flag.get (overridden given))) := by
    have each : flag.get (overridden given) =
        match given.get? flag.name with
        | some value => HostOptions.truth value
        | none => flag.get default := by
      cases flag <;> rfl
    rw [kept, HostOptions.get?_defaults_flag, each]
    cases given.get? flag.name <;> simp [HostOptions.taken, HostOptions.flag_ne_position]
  have placed := kept positionName
  have asGiven : HostOptions.taken positionName = id := rfl
  rw [asGiven, Option.map_id, id] at placed
  rw [ofOptions_eq (listed.trans HostOptions.names_defaults) flags, readPosition_eq placed]
  split <;> rfl

end Settings

/-! ## Running the pass -/

namespace Host

/-- **A host's pass is enriching with the defaults overridden.** An option with the settings' own
name stops the loading before any other is set, else the first option that cannot be set stops it,
else a caption position that is none; each time the document is left as it is. Otherwise the host
has what enriching the document leaves. -/
theorem run_eq_enrich (given : List (String × Value)) (tree : Node)
    (distinct : (Entries.names given).Nodup) :
    run given tree =
      if Settings.ownName ∈ Entries.names given then .untouched (.options .ownName) tree
      else
        match given.findSome? HostOptions.refusal? with
        | some cause => .untouched (.options cause) tree
        | none =>
          if Settings.misplaced (Entries.get? Settings.positionName given) then
            .untouched (.settings .badPosition) tree
          else .ofEnriched (tree.enrich (.overridden given)) := by
  rw [run, load, HostOptions.setAll_eq distinct]
  by_cases own : Settings.ownName ∈ Entries.names given
  · simp only [own, ↓reduceIte]
  · cases refused : given.findSome? HostOptions.refusal? with
    | some cause => simp only [own, ↓reduceIte]
    | none =>
      simp only [own, Settings.ofOptions_putAll distinct refused, ↓reduceIte]
      cases Settings.misplaced (Entries.get? Settings.positionName given) <;> rfl

/-- Options in any order, a word and a number among them, and a position that is one. -/
def mixedOptions : List (String × Value) :=
  [(Settings.positionName, .text "above"), (Settings.Flag.audioControls.name, .integer 1),
    (Settings.Flag.unravelParagraphs.name, .text "Off")]

def bracketedPicture : Node := .around "div" [.picture "[x.png]" "^c"]

theorem run_eq_enrich_mixedOptions :
    (Entries.names mixedOptions).Nodup ∧
      run mixedOptions bracketedPicture =
        .ofEnriched (bracketedPicture.enrich ⟨true, .above, false, true, false⟩) := by
  have distinct : (Entries.names mixedOptions).Nodup := by decide
  exact ⟨distinct, run_eq_enrich mixedOptions bracketedPicture distinct⟩

/-- An option with the settings' own name is not reported as unknown. -/
theorem run_ownName_notUnknown :
    [(Settings.ownName, Value.null)].findSome? HostOptions.refusal? =
        some (.unknown Settings.ownName) ∧
      (run [(Settings.ownName, .null)] bracketedPicture).failure ≠
        some (.options (.unknown Settings.ownName)) := by
  decide +kernel

end Host

end MediaMarkup
