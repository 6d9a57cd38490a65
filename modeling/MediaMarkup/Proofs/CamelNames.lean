import MediaMarkup.Attribute.Style

/-!
The names that properties have in structured styles. A capital is never a sign (`mem_upper`), so
that what is left of the dashes can be told from the property alone. Main statement: the camel name
of a property is an identifier just for the properties of `isNameable` (`isIdentifier_camelName`).
-/

namespace MediaMarkup

/-! ## Capitals -/

namespace Text

/-- The long capitals are letters and marks. -/
theorem longCapitals_letters :
    ∀ entry ∈ longCapitals, entry.2 ≠ [] ∧ ∀ n ∈ entry.2, 0x41 ≤ n ∧ n < 0xD800 ∨
      0xDFFF < n ∧ n < 0x110000 := by
  decide +kernel

theorem capitalRuns_letters :
    ∀ run ∈ capitalRuns, 0x41 ≤ run.first + run.shift ∧ run.last + run.shift < 0xD800 ∨
      0xDFFF < run.first + run.shift ∧ run.last + run.shift < 0x110000 := by
  decide +kernel

theorem mem_of_lookup {n : Nat} {capital : List Nat}
    (found : longCapitals.lookup n = some capital) : (n, capital) ∈ longCapitals := by
  obtain ⟨before, after, whole, -⟩ := List.lookup_eq_some_iff.mp found
  rw [whole]
  exact List.mem_append_right _ List.mem_cons_self

/-- What a letter is as a capital is another letter: no sign and no digit in ASCII. -/
theorem mem_upper {c d : Char} (mem : d ∈ upper c) : d = c ∨ 0x41 ≤ d.toNat := by
  have letter {n : Nat} (valid : 0x41 ≤ n ∧ n < 0xD800 ∨ 0xDFFF < n ∧ n < 0x110000) :
      0x41 ≤ (Char.ofNat n).toNat := by
    have isValid : n.isValidChar := valid.imp (·.2) id
    have toNat : (Char.ofNat n).toNat = n := by
      rw [Char.ofNat, dif_pos isValid]
      rfl
    omega
  unfold upper at mem
  split at mem
  · rename_i capital found
    obtain ⟨n, given, rfl⟩ := List.mem_map.mp mem
    exact .inr (letter ((longCapitals_letters _ (mem_of_lookup found)).2 n given))
  · split at mem
    · rename_i run found
      rw [List.mem_singleton.mp mem]
      have inside := List.find?_some found
      simp only [CaseRun.contains, Bool.and_eq_true, decide_eq_true_eq] at inside
      have bounds := capitalRuns_letters run (List.mem_of_find?_eq_some found)
      exact .inr (letter (by omega))
    · exact .inl (List.mem_singleton.mp mem)

theorem upper_ne_nil (c : Char) : upper c ≠ [] := by
  unfold upper
  split
  · rename_i capital found
    simpa using (longCapitals_letters _ (mem_of_lookup found)).1
  · split <;> simp

end Text

/-! ## Identifiers -/

namespace Style

/-- An ASCII letter or digit, `_` or `$`. -/
def isNameChar (c : Char) : Bool := c.isAlphanum || c = '_' || c = '$'

/-- A name that can stand as a key without quotes: it does not start with a digit. -/
def isIdentifier : List Char → Bool
  | [] => false
  | c :: rest => isNameChar c && !c.isDigit && rest.all isNameChar

/-- Name characters in which each dash has a small letter behind it. -/
def isHyphenated : List Char → Bool
  | '-' :: c :: rest => isLower c && isHyphenated (c :: rest)
  | c :: rest => isNameChar c && isHyphenated rest
  | [] => true

/-- A property whose camel name is an identifier: a hyphenated name, or a vendor's, where the letter
behind the dash may be any with a capital that is an identifier. -/
def isNameable : List Char → Bool
  | '-' :: c :: rest => isIdentifier (Text.upper c) && isHyphenated rest
  | c :: rest => isIdentifier [c] && isHyphenated rest
  | [] => false

theorem isNameChar_of_isIdentifier {name : List Char} (identifier : isIdentifier name = true) :
    ∀ c ∈ name, isNameChar c = true := by
  cases name with
  | nil => cases identifier
  | cons c rest =>
    simp only [isIdentifier, Bool.and_eq_true, List.all_eq_true] at identifier
    simpa using ⟨identifier.1.1, identifier.2⟩

theorem isIdentifier_append {first rest : List Char} (nonempty : first ≠ []) :
    isIdentifier (first ++ rest) = (isIdentifier first && rest.all isNameChar) := by
  cases first with
  | nil => exact absurd rfl nonempty
  | cons c first => simp [isIdentifier, Bool.and_assoc]

/-- What holds of the letters from a to z holds of small letters. -/
theorem of_isLower {P : Char → Prop} (letters : ∀ n < 123, 97 ≤ n → P (Char.ofNat n)) {c : Char}
    (small : isLower c = true) : P c := by
  rw [isLower, Bool.and_eq_true, decide_eq_true_eq, decide_eq_true_eq] at small
  rw [← Char.ofNat_toNat c]
  exact letters c.toNat (Nat.lt_succ_of_le small.2) small.1

theorem isNameChar_of_isLower {c : Char} (small : isLower c = true) :
    isNameChar c = true ∧ isNameChar c.toUpper = true :=
  of_isLower (P := fun c => isNameChar c = true ∧ isNameChar c.toUpper = true) (by decide) small

/-! ## Dashes -/

theorem joinDashes_append {first : List Char} (noDash : '-' ∉ first) (rest : List Char) :
    joinDashes (first ++ rest) = first ++ joinDashes rest := by
  induction first with
  | nil => rfl
  | cons c first ih =>
    rw [List.mem_cons, not_or] at noDash
    rw [List.cons_append, joinDashes, ih noDash.2, List.cons_append]
    rintro _ _ rfl
    exact absurd rfl noDash.1

theorem isHyphenated_cons {c : Char} (noDash : c ≠ '-') (rest : List Char) :
    isHyphenated (c :: rest) = (isNameChar c && isHyphenated rest) := by
  rw [isHyphenated]
  rintro _ _ rfl
  exact absurd rfl noDash

/-- All dashes go just from hyphenated names. -/
theorem all_joinDashes (cs : List Char) : (joinDashes cs).all isNameChar = isHyphenated cs := by
  fun_induction joinDashes cs with
  | case1 c rest small ih =>
    have noDash : c ≠ '-' := by
      rintro rfl
      cases small
    obtain ⟨named, capital⟩ := isNameChar_of_isLower small
    rw [List.all_cons, capital, ih, isHyphenated, small, isHyphenated_cons noDash, named,
      Bool.true_and, Bool.true_and]
  | case2 c rest other ih =>
    rw [List.all_cons, isHyphenated, Bool.eq_false_iff.mpr other]
    rfl
  | case3 c rest noPair ih =>
    by_cases dash : c = '-'
    · subst dash
      cases rest with
      | nil => rfl
      | cons next rest => exact absurd rfl (noPair next rest rfl)
    · rw [List.all_cons, ih, isHyphenated_cons dash]
  | case4 => rfl

theorem isIdentifier_joinDashes {c : Char} (noDash : c ≠ '-') (rest : List Char) :
    isIdentifier (joinDashes (c :: rest)) = (isIdentifier [c] && isHyphenated rest) := by
  have noDash' : '-' ∉ [c] := by simpa using noDash.symm
  have whole : joinDashes (c :: rest) = [c] ++ joinDashes rest := joinDashes_append noDash' rest
  rw [whole, isIdentifier_append (List.cons_ne_nil _ _), all_joinDashes]

theorem dash_notMem_upper {c : Char} (noDash : c ≠ '-') : '-' ∉ Text.upper c := by
  intro mem
  rcases Text.mem_upper mem with same | letter
  · exact noDash same.symm
  · exact absurd letter (by decide)

/-- What follows a vendor's dash; the one name that starts small starts with a letter as well. -/
theorem isIdentifier_dropLeadingDash {c : Char} (noDash : c ≠ '-') (rest : List Char) :
    isIdentifier (joinDashes (dropLeadingDash ('-' :: c :: rest))) =
      (isIdentifier (Text.upper c) && isHyphenated rest) := by
  rw [dropLeadingDash.eq_def]
  split
  · rename_i microsoft
    cases microsoft
    have capital : isIdentifier (Text.upper 'm') = isIdentifier ['m'] := by decide
    rw [isIdentifier_joinDashes noDash, capital]
  · rename_i vendor
    cases vendor
    rw [joinDashes_append (dash_notMem_upper noDash), isIdentifier_append (Text.upper_ne_nil c),
      all_joinDashes]
  · rename_i single
    cases single
  · rename_i other _
    exact absurd rfl (other c rest)

/-- **The camel name of a property is an identifier** just for the properties that can be named. -/
theorem isIdentifier_camelName (property : List Char) :
    isIdentifier (camelName property) = isNameable property := by
  rw [camelName]
  split
  · rename_i custom
    obtain ⟨rest, rfl⟩ := List.isPrefixOf_iff_prefix.mp custom
    have noLetter : isIdentifier (Text.upper '-') = false := by decide
    rw [List.cons_append, List.cons_append, isNameable, noLetter]
    rfl
  · rename_i noPair
    cases property with
    | nil => rfl
    | cons c rest =>
      by_cases dash : c = '-'
      · subst dash
        cases rest with
        | nil => rfl
        | cons c rest =>
          have noDash : c ≠ '-' := by
            rintro rfl
            exact noPair rfl
          exact isIdentifier_dropLeadingDash noDash rest
      · have kept : dropLeadingDash (c :: rest) = c :: rest := by
          simp [dropLeadingDash, dash]
        rw [kept, isIdentifier_joinDashes dash, isNameable]
        rintro _ _ rfl
        exact absurd rfl dash

/-! ## Colons -/

theorem colon_notMem_joinDashes {cs : List Char} (noColon : ':' ∉ cs) : ':' ∉ joinDashes cs := by
  fun_induction joinDashes cs with
  | case1 c rest small ih =>
    have capital := (isNameChar_of_isLower small).2
    rw [List.mem_cons, not_or]
    refine ⟨fun same => ?_, ih (by simp_all)⟩
    exact absurd (same ▸ capital) (by decide)
  | case2 c rest other ih => simp_all
  | case3 c rest noPair ih => simp_all
  | case4 => exact noColon

theorem colon_notMem_camelName {property : List Char} (noColon : ':' ∉ property) :
    ':' ∉ camelName property := by
  have noCapital (c : Char) (other : ':' ≠ c) : ':' ∉ Text.upper c := by
    intro mem
    rcases Text.mem_upper mem with same | letter
    · exact other same
    · exact absurd letter (by decide)
  have dropped : ':' ∉ dropLeadingDash property := by
    unfold dropLeadingDash
    split <;> simp_all
  rw [camelName]
  split
  · exact noColon
  · exact colon_notMem_joinDashes dropped

end Style

end MediaMarkup
