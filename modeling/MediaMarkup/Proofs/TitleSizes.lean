import MediaMarkup.Proofs.Forall2
import MediaMarkup.Proofs.Readings

/-!
The sizes that a title gives. A size is a run of decimal digits, with a percent sign behind it or
nothing; behind a run of digits `px` is dropped, and a width or a height of any other form becomes a
declaration. A line break at the end of a value is overlooked when the form is looked at, and then
taken over with the rest of the value. Main statement: that is the only way in which a size comes to
be anything but digits and a percent sign (`cleanSizes_iff`).
-/

namespace MediaMarkup

/-! ## The form of a size -/

namespace Size

/-- A run of decimal digits. -/
structure IsDigits (text : List Char) : Prop where
  nonempty : text ≠ []
  decimal : ∀ c ∈ text, Text.isDecimal c = true

/-- A size as attributes hold it: digits, and one percent sign or nothing. -/
inductive IsClean : List Char → Prop
  | plain {digits : List Char} (isDigits : IsDigits digits) : IsClean digits
  | percent {digits : List Char} (isDigits : IsDigits digits) : IsClean (digits ++ ['%'])

/-- A text gives a size: itself, or the digits in front of `px`. -/
inductive Gives : List Char → List Char → Prop
  | itself {size : List Char} (clean : IsClean size) : Gives size size
  | pixels {digits : List Char} (isDigits : IsDigits digits) : Gives (digits ++ ['p', 'x']) digits

variable {text size digits rest : List Char}

theorem Gives.clean (gives : Gives text size) : IsClean size := by
  cases gives with
  | itself clean => exact clean
  | pixels isDigits => exact .plain isDigits

theorem IsClean.nonempty (clean : IsClean size) : size ≠ [] := by
  cases clean with
  | plain isDigits => exact isDigits.nonempty
  | percent isDigits => simp

theorem Gives.nonempty (gives : Gives text size) : text ≠ [] := by
  cases gives with
  | itself clean => exact clean.nonempty
  | pixels isDigits => simp

/-- A clean size ends with a digit or a percent sign. -/
theorem IsClean.last (clean : IsClean (text ++ [c])) : Text.isDecimal c = true ∨ c = '%' := by
  generalize whole : text ++ [c] = size at clean
  cases clean with
  | plain isDigits =>
    subst whole
    exact .inl (isDigits.decimal c (by simp))
  | percent isDigits => exact .inr (List.append_inj_right' whole rfl |> List.singleton_inj.mp)

end Size

namespace Effect

open Size

variable {text size digits rest value : List Char}

/-! ## Taking a size off a text -/

/-- What is taken off a text gives a size, unless it is empty. -/
theorem takeSize_cases (cs : List Char) :
    (takeSize cs).1 = [] ∨
      ∃ size, Gives (takeSize cs).1 size ∧ cs = (takeSize cs).1 ++ (takeSize cs).2 := by
  unfold takeSize
  dsimp only
  split
  · exact .inl rfl
  · rename_i nonempty
    have isDigits : IsDigits (cs.takeWhile Text.isDecimal) :=
      ⟨by simpa using nonempty, fun c mem => List.all_eq_true.mp List.all_takeWhile c mem⟩
    have whole := List.takeWhile_append_dropWhile (p := Text.isDecimal) (l := cs)
    right
    split
    · rename_i rest behind
      exact ⟨_, .pixels isDigits, by rw [List.append_assoc, List.cons_append, List.cons_append,
        List.nil_append, ← behind, whole]⟩
    · rename_i rest behind
      exact ⟨_, .itself (.percent isDigits), by rw [List.append_assoc, List.cons_append,
        List.nil_append, ← behind, whole]⟩
    · exact ⟨_, .itself (.plain isDigits), whole.symm⟩

/-- Digits are taken up to a character that is none. -/
theorem span_digits (isDigits : IsDigits digits)
    (ends : ∀ c ∈ rest.head?, Text.isDecimal c = false) :
    (digits ++ rest).takeWhile Text.isDecimal = digits ∧
      (digits ++ rest).dropWhile Text.isDecimal = rest := by
  rw [List.takeWhile_append_of_pos isDigits.decimal, List.dropWhile_append_of_pos isDigits.decimal]
  cases rest with
  | nil => simp
  | cons c rest => simp [ends c rfl]

/-- A text that gives a size is taken off whole in front of the end. -/
theorem takeSize_of_gives (gives : Gives text size) (ends : rest ∈ [[], ['\n']]) :
    takeSize (text ++ rest) = (text, rest) := by
  simp only [List.mem_cons, List.not_mem_nil, or_false] at ends
  have noPercent : Text.isDecimal '%' = false := by decide +kernel
  have noLetter : Text.isDecimal 'p' = false := by decide +kernel
  have noBreak : Text.isDecimal '\n' = false := by decide +kernel
  cases gives with
  | @pixels digits isDigits =>
    have span := @span_digits _ (['p', 'x'] ++ rest) isDigits (by simpa using noLetter)
    rw [takeSize, List.append_assoc, span.1, span.2]
    simp [isDigits.nonempty]
  | itself clean =>
    cases clean with
    | @percent digits isDigits =>
      have span := @span_digits _ (['%'] ++ rest) isDigits (by simpa using noPercent)
      rw [takeSize, List.append_assoc, span.1, span.2]
      simp [isDigits.nonempty]
    | plain isDigits =>
      have stops : ∀ c ∈ rest.head?, Text.isDecimal c = false := by
        rcases ends with rfl | rfl
        · simp
        · simpa using noBreak
      have span := span_digits isDigits stops
      rw [takeSize, span.1, span.2]
      rcases ends with rfl | rfl <;> simp [isDigits.nonempty]

theorem atEnd_iff : atEnd rest = true ↔ rest ∈ [[], ['\n']] := by
  simp [atEnd]

/-- A value has the form of a size if it gives one, a line break at its end left aside. -/
theorem isSize_iff :
    isSize value = true ↔
      ∃ text size, Gives text size ∧ (value = text ∨ value = text ++ ['\n']) := by
  constructor
  · intro sized
    simp only [isSize, Bool.and_eq_true, Bool.not_eq_true', List.isEmpty_eq_false_iff,
      atEnd_iff] at sized
    rcases takeSize_cases value with empty | ⟨size, gives, whole⟩
    · exact absurd empty sized.1
    · have ends := sized.2
      simp only [List.mem_cons, List.not_mem_nil, or_false] at ends
      refine ⟨_, size, gives, ?_⟩
      rcases ends with ends | ends
      · rw [ends, List.append_nil] at whole
        exact .inl whole
      · rw [ends] at whole
        exact .inr whole
  · rintro ⟨text, size, gives, form⟩
    obtain ⟨rest, ends, rfl⟩ : ∃ rest ∈ [[], ['\n']], value = text ++ rest := by
      rcases form with rfl | rfl
      · exact ⟨[], by simp, by simp⟩
      · exact ⟨['\n'], by simp, rfl⟩
    simp [isSize, takeSize_of_gives gives ends, gives.nonempty, atEnd_iff.mpr ends]

/-! ## Writing a size -/

theorem plainSize_of_last {c : Char} (other : c ≠ 'x') :
    plainSize (text ++ [c]) = text ++ [c] := by
  unfold plainSize
  rw [if_neg]
  rw [List.isSuffixOf_iff_suffix]
  rintro ⟨before, whole⟩
  have ends := congrArg List.getLast? whole
  rw [List.getLast?_append_of_ne_nil _ (by simp), List.getLast?_concat] at ends
  exact other (Option.some.inj ends).symm

/-- What a text gives is written without `px`. -/
theorem plainSize_of_gives (gives : Gives text size) : plainSize text = size := by
  cases gives with
  | pixels isDigits => simp [plainSize]
  | itself clean =>
    rcases List.eq_nil_or_concat' text with empty | ⟨before, last, rfl⟩
    · exact absurd empty clean.nonempty
    · apply plainSize_of_last
      rintro rfl
      have noLetter : Text.isDecimal 'x' = false := by decide +kernel
      rcases clean.last with digit | percent
      · rw [noLetter] at digit
        cases digit
      · cases percent

theorem ofSize_of_ne_nil (name : String) (nonempty : text ≠ []) :
    ofSize name text = [⟨.dimension, name, .ofList (plainSize text)⟩] := by
  rw [ofSize, if_neg (by simpa using nonempty)]

end Effect

/-! ## What directives come to -/

/-- The attributes that hold a size. -/
def sides : List String := ["width", "height"]

/-- What a value given for a width or a height comes to: a size if it gives one, else a
declaration. -/
inductive Sized (name value : String) : List Effect → Prop
  | empty (isEmpty : value = "") : Sized name value []
  | size {size : List Char} (gives : Size.Gives value.toList size) :
    Sized name value [⟨.dimension, name, .ofList size⟩]
  | declaration (nonempty : value ≠ "") (other : ∀ size, ¬Size.Gives value.toList size) :
    Sized name value [⟨.style, name, Reading.spaced value⟩]

namespace Directive

/-- The effects of a directive keep sizes clean: every size is clean, and what is given for a width
or a height and gives no size is a declaration. -/
structure KeepsSizes (directive : Directive) (share : List Effect) : Prop where
  clean : ∀ effect ∈ share, effect.category = .dimension → Size.IsClean effect.value.toList
  sized : ∀ name value, directive = .pair name value → name ∈ sides → Sized name value share

/-- A width or a height with a line break behind a text that gives a size. -/
def EndsInBreak (directive : Directive) : Prop :=
  ∃ name value text size, directive = .pair name value ∧ name ∈ sides ∧
    Size.Gives text size ∧ value.toList = text ++ ['\n']

/-- The directives of a title keep sizes clean. -/
def CleanSizes (kind : String) (directives : List Directive) : Prop :=
  List.Forall₂ KeepsSizes directives (shares kind directives)

end Directive

namespace Reading

open Size

variable {effect : Effect} {directive : Directive} {kind name value : String} {sized : Bool}

theorem clean_takeSize {cs : List Char} (mem : effect ∈ Effect.ofSize name (Effect.takeSize cs).1) :
    IsClean effect.value.toList := by
  rcases Effect.takeSize_cases cs with empty | ⟨size, gives, -⟩
  · rw [empty] at mem
    cases mem
  · rw [Effect.ofSize_of_ne_nil name gives.nonempty, List.mem_singleton] at mem
    rw [mem, String.toList_ofList, Effect.plainSize_of_gives gives]
    exact gives.clean

/-- The sizes of a flag are clean, for they are read one by one. -/
theorem clean_ofFlag {key : String} (mem : effect ∈ (ofFlag kind sized key).effectsOf)
    (dimension : effect.category = .dimension) : IsClean effect.value.toList := by
  unfold ofFlag at mem
  split at mem
  · rename_i width height found
    split at mem
    · exact absurd (category_ofPlainFlag mem) (by simp [dimension])
    · cases sized with
      | true => cases found
      | false =>
        obtain ⟨rest, rfl, rfl⟩ : ∃ rest, width = (Effect.takeSize key.toList).1 ∧
            height = (Effect.takeSize rest).1 := by
          simp only [Bool.false_eq_true, ↓reduceIte, Effect.dimensions?] at found
          split at found
          · rename_i c rest behind
            split at found
            · split at found
              · cases found
                exact ⟨rest, rfl, rfl⟩
              · cases found
            · cases found
          · cases found
        rcases List.mem_append.mp mem with mem | mem <;> exact clean_takeSize mem
  · split at mem
    · cases mem
    · exact absurd (category_ofPlainFlag mem) (by simp [dimension])

/-- What a width or a height comes to, if no line break is overlooked. -/
theorem sized_ofLength (unbroken : ¬(Directive.pair name value).EndsInBreak) (side : name ∈ sides) :
    Sized name value (ofLength name value).effectsOf := by
  unfold ofLength
  split
  · rename_i isSize
    obtain ⟨text, size, gives, rfl | broken⟩ := Effect.isSize_iff.mp isSize
    · rw [effectsOf, Effect.ofSize_of_ne_nil name gives.nonempty, Effect.plainSize_of_gives gives]
      exact .size gives
    · exact absurd ⟨name, value, text, size, rfl, side, gives, broken⟩ unbroken
  · rename_i noSize
    split
    · rename_i empty
      exact .empty (String.isEmpty_iff.mp empty)
    · rename_i nonempty
      refine .declaration (by simpa using nonempty) fun size gives => ?_
      exact noSize (Effect.isSize_iff.mpr ⟨_, size, gives, .inl rfl⟩)

/-- A size with a line break behind it is taken over as it is. -/
theorem ofLength_of_break {text size : List Char} (gives : Gives text size)
    (broken : value.toList = text ++ ['\n']) :
    ofLength name value = .effects [⟨.dimension, name, value⟩] := by
  have isSize : Effect.isSize value.toList = true :=
    Effect.isSize_iff.mpr ⟨text, size, gives, .inr broken⟩
  have kept : Effect.plainSize value.toList = value.toList := by
    rw [broken]
    exact Effect.plainSize_of_last (by decide)
  have nonempty : value.toList ≠ [] := by simp [broken]
  rw [ofLength, if_pos isSize, Effect.ofSize_of_ne_nil name nonempty, kept, String.ofList_toList]

theorem ofDirective_side (side : name ∈ sides) :
    ofDirective kind sized (.pair name value) = ofLength name value := by
  simp only [sides, List.mem_cons, List.not_mem_nil, or_false] at side
  rcases side with rfl | rfl <;> simp [ofDirective, Directive.key, ofPair]

theorem dimension_ofPair {key : String} (noSide : key ∉ sides)
    (mem : effect ∈ (ofPair key value).effectsOf) : effect.category ≠ .dimension := by
  cases ofPair_cases mem with
  | size side => exact absurd (by simpa [sides] using side) noSide
  | style | token | length | plain => simp

/-- Sizes that do not stand under the name of a side are clean. -/
theorem clean_ofDirective (noSide : ∀ name value, directive = .pair name value → name ∉ sides)
    (mem : effect ∈ (ofDirective kind sized directive).effectsOf)
    (dimension : effect.category = .dimension) : IsClean effect.value.toList := by
  unfold ofDirective at mem
  split at mem
  · cases mem
  · split at mem
    · exact absurd (category_ofMarked mem) (by simp [dimension])
    · cases directive with
      | flag key => exact clean_ofFlag mem dimension
      | pair key value => exact absurd dimension (dimension_ofPair (noSide key value rfl) mem)
      | unset key => exact absurd (category_ofUnset mem) (by simp [dimension])

theorem clean_of_sized {share : List Effect} (is : Sized name value share) :
    ∀ effect ∈ share, effect.category = .dimension → IsClean effect.value.toList := by
  cases is with
  | empty => simp
  | size gives =>
    intro effect mem _
    rw [List.mem_singleton.mp mem, String.toList_ofList]
    exact gives.clean
  | declaration =>
    intro effect mem dimension
    rw [List.mem_singleton.mp mem] at dimension
    cases dimension

/-- A directive keeps sizes clean, but for a width or a height that ends in a line break: that is
taken over as it is. -/
theorem keepsSizes_iff (kind : String) (sized : Bool) (directive : Directive) :
    (directive.KeepsSizes (ofDirective kind sized directive).effectsOf ↔ ¬directive.EndsInBreak) ∧
      (directive.EndsInBreak → (ofDirective kind sized directive).effectsOf =
        [⟨.dimension, directive.key, directive.given⟩]) := by
  have broken : directive.EndsInBreak → (ofDirective kind sized directive).effectsOf =
      [⟨.dimension, directive.key, directive.given⟩] := by
    rintro ⟨name, value, text, size, rfl, side, gives, broken⟩
    rw [ofDirective_side side, ofLength_of_break gives broken]
    rfl
  refine ⟨⟨fun keeps ends => ?_, fun unbroken => ?_⟩, broken⟩
  · have clean := keeps.clean ⟨.dimension, directive.key, directive.given⟩
      (by rw [broken ends]; exact List.mem_singleton_self _) rfl
    obtain ⟨name, value, text, size, rfl, -, -, ends⟩ := ends
    have last : IsClean (text ++ ['\n']) := ends ▸ clean
    exact absurd last.last (by decide +kernel)
  · by_cases side : ∃ name value, directive = .pair name value ∧ name ∈ sides
    · obtain ⟨name, value, rfl, side⟩ := side
      have is := sized_ofLength unbroken side
      rw [ofDirective_side side]
      refine ⟨clean_of_sized is, ?_⟩
      rintro _ _ ⟨⟩ -
      exact is
    · have noSide : ∀ name value, directive = .pair name value → name ∉ sides :=
        fun name value same mem => side ⟨name, value, same, mem⟩
      exact ⟨fun effect mem => clean_ofDirective noSide mem,
        fun name value same mem => absurd mem (noSide name value same)⟩

end Reading

/-! ## Titles -/

/-- **Sizes are clean but for line breaks.** The directives of a title can be interpreted on an
element of any kind. Every size is digits with one percent sign or nothing behind them, and every
other width or height is a declaration, just when no width or height is a size with a line break
behind it; such a one is a size with all that its value holds. -/
theorem cleanSizes_iff (kind : String) (title : Option String) :
    Directive.interpret kind (Title.parse? title).directives =
        .ok (Directive.shares kind (Title.parse? title).directives).flatten ∧
      (Directive.CleanSizes kind (Title.parse? title).directives ↔
        ∀ directive ∈ (Title.parse? title).directives, ¬directive.EndsInBreak) ∧
      List.Forall₂
        (fun directive share => directive.EndsInBreak →
          share = [⟨.dimension, directive.key, directive.given⟩])
        (Title.parse? title).directives
        (Directive.shares kind (Title.parse? title).directives) := by
  have titled := @Directive.isTitled_of_parse? title
  have each := fun sized directive (_ : directive ∈ (Title.parse? title).directives) =>
    Reading.keepsSizes_iff kind sized directive
  refine ⟨Directive.interpret_of_titled titled, forall₂_iff_of_each ?_, ?_⟩
  · rw [Directive.shares, List.forall₂_map_right_iff]
    exact Reading.forall₂_all titled fun sized directive mem => (each sized directive mem).1
  · rw [Directive.shares, List.forall₂_map_right_iff]
    exact Reading.forall₂_all titled fun sized directive mem => (each sized directive mem).2

/-- Pixels with a line break behind them keep both. -/
theorem not_cleanSizes_pixelsAndBreak :
    Directive.interpret "img" (Title.parse? (some "> width='100px\n'")).directives =
        .ok [⟨.dimension, "width", "100px\n"⟩] ∧
      ¬Directive.CleanSizes "img" (Title.parse? (some "> width='100px\n'")).directives := by
  have read : (Title.parse? (some "> width='100px\n'")).directives =
      [.pair "width" "100px\n"] := by decide +kernel
  have share : Directive.shares "img" [.pair "width" "100px\n"] =
      [[⟨.dimension, "width", "100px\n"⟩]] := by decide +kernel
  rw [read]
  refine ⟨by decide +kernel, fun clean => ?_⟩
  rw [Directive.CleanSizes, share, List.forall₂_cons] at clean
  have last : Size.IsClean ("100px".toList ++ ['\n']) := clean.1.clean _ List.mem_cons_self rfl
  exact absurd last.last (by decide +kernel)

end MediaMarkup
