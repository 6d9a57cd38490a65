import Mathlib.Tactic.SplitIfs
import MediaMarkup.Value.Json
import MediaMarkup.Value.Reader

/-!
Texts between quotes, written and read. A character that is written as UTF-16 units is read once
all its units are there, so that units wait until a character comes that is written in another way.
Main statement: a written text is read as itself, and what follows it is left to be read
(`value?_jsonText`).
-/

namespace MediaMarkup.Value.Reader

variable {units : List Nat} {cs rest read : List Char} {c : Char}

/-! ## Units -/

theorem hexValue?_hexDigit : ∀ d < 16, Text.hexValue? (Text.hexDigit d) = some d := by
  decide

/-- The digits of a unit are read as the unit. -/
theorem unit?_hex {unit : Nat} (small : unit < 0x10000) :
    ∃ a b c d, Text.hex 4 unit = [a, b, c, d] ∧ unit? a b c d = some unit := by
  refine ⟨_, _, _, _, rfl, ?_⟩
  have digit (n : Nat) : Text.hexValue? (Text.hexDigit (n % 16)) = some (n % 16) :=
    hexValue?_hexDigit _ (Nat.mod_lt _ (by decide))
  simp only [unit?, digit, bind, Option.bind]
  congr 1
  omega

theorem text?_escapeUnit {unit : Nat} (small : unit < 0x10000) :
    text? units (escapeUnit unit ++ rest) = text? (unit :: units) rest := by
  obtain ⟨a, b, c, d, digits, value⟩ := unit?_hex small
  simp [escapeUnit, digits, text?, value]

/-- The UTF-16 units of a character. -/
def unitsOf (c : Char) : List Nat :=
  if c.toNat < 0x10000 then [c.toNat]
  else [0xD800 + (c.toNat - 0x10000) / 0x400, 0xDC00 + (c.toNat - 0x10000) % 0x400]

theorem toNat_cases (c : Char) : c.toNat < 0xD800 ∨ 0xDFFF < c.toNat ∧ c.toNat < 0x110000 :=
  c.valid

theorem joinUnits_unitsOf (c : Char) (units : List Nat) :
    joinUnits (unitsOf c ++ units) = c :: joinUnits units := by
  have valid := toNat_cases c
  unfold unitsOf
  split
  · have noLead : isLeading c.toNat = false := by
      simp only [isLeading, Bool.and_eq_false_iff, decide_eq_false_iff_not]
      omega
    have noTrail : isTrailing c.toNat = false := by
      simp only [isTrailing, Bool.and_eq_false_iff, decide_eq_false_iff_not]
      omega
    cases units <;> simp [joinUnits, noLead, noTrail, Char.ofNat_toNat]
  · have lead : isLeading (0xD800 + (c.toNat - 0x10000) / 0x400) = true := by
      simp only [isLeading, Bool.and_eq_true, decide_eq_true_eq]
      omega
    have trail : isTrailing (0xDC00 + (c.toNat - 0x10000) % 0x400) = true := by
      simp only [isTrailing, Bool.and_eq_true, decide_eq_true_eq]
      omega
    have whole : 0x10000 + (0xD800 + (c.toNat - 0x10000) / 0x400 - 0xD800) * 0x400 +
        (0xDC00 + (c.toNat - 0x10000) % 0x400 - 0xDC00) = c.toNat := by
      omega
    simp only [List.cons_append, List.nil_append, joinUnits, lead, trail, Bool.and_self, ↓reduceIte,
      whole, Char.ofNat_toNat]

theorem joinUnits_flatMap (cs : List Char) : joinUnits (cs.flatMap unitsOf) = cs := by
  induction cs with
  | nil => rfl
  | cons c cs ih => rw [List.flatMap_cons, joinUnits_unitsOf, ih]

theorem text?_escapeUnits (c : Char) :
    text? units (escapeUnits c.toNat ++ rest) = text? ((unitsOf c).reverse ++ units) rest := by
  have valid := toNat_cases c
  unfold escapeUnits unitsOf
  split
  · rw [text?_escapeUnit (by omega)]
    rfl
  · rw [List.append_assoc, text?_escapeUnit (by omega), text?_escapeUnit (by omega)]
    rfl

/-! ## Texts -/

/-- How one character is written. -/
inductive Spelling (c : Char) : List Char → Prop
  | units : Spelling c (escapeUnits c.toNat)
  | short {letter : Char} (means : simpleEscape? letter = some c) : Spelling c ['\\', letter]
  | plain (noQuote : c ≠ '"') (noBackslash : c ≠ '\\') : Spelling c [c]

theorem spelling_escapeChar (c : Char) : Spelling c (escapeChar c) := by
  unfold escapeChar
  split_ifs with special newline cr tab backspace feed printable
  · rw [Bool.or_eq_true, decide_eq_true_eq, decide_eq_true_eq] at special
    rcases special with rfl | rfl <;> exact .short rfl
  · exact newline ▸ .short rfl
  · exact cr ▸ .short rfl
  · exact tab ▸ .short rfl
  · exact backspace ▸ .short rfl
  · exact feed ▸ .short rfl
  · rw [Bool.or_eq_true, decide_eq_true_eq, decide_eq_true_eq, not_or] at special
    exact .plain special.1 special.2
  · exact .units

/-- Units that waited come in front of a character that is read at once. -/
theorem text?_short {letter : Char} (means : simpleEscape? letter = some c)
    (later : text? [] rest = some (read, cs)) :
    text? units ('\\' :: letter :: rest) = some (joinUnits units.reverse ++ c :: read, cs) := by
  have noUnit : letter ≠ 'u' := by
    rintro rfl
    cases means
  simp [text?, noUnit, means, later]

theorem text?_plain (noQuote : c ≠ '"') (noBackslash : c ≠ '\\')
    (later : text? [] rest = some (read, cs)) :
    text? units (c :: rest) = some (joinUnits units.reverse ++ c :: read, cs) := by
  rw [text?]
  · simp [later]
  all_goals simp_all

/-- A written text is read up to its closing quote; `before` are the characters whose units wait. -/
theorem text?_flatMap (before cs rest : List Char) :
    text? (before.flatMap unitsOf).reverse (cs.flatMap escapeChar ++ '"' :: rest) =
      some (before ++ cs, rest) := by
  induction cs generalizing before with
  | nil => simp [text?, joinUnits_flatMap]
  | cons c cs ih =>
    have waiting : joinUnits (before.flatMap unitsOf).reverse.reverse = before := by
      rw [List.reverse_reverse, joinUnits_flatMap]
    have spelled := spelling_escapeChar c
    rw [List.flatMap_cons, List.append_assoc]
    generalize escapeChar c = spelling at spelled
    cases spelled with
    | units =>
      have more : (unitsOf c).reverse ++ (before.flatMap unitsOf).reverse =
          ((before ++ [c]).flatMap unitsOf).reverse := by simp
      rw [text?_escapeUnits, more, ih, List.append_assoc]
      rfl
    | short means =>
      refine (text?_short means (ih [])).trans ?_
      rw [waiting]
      rfl
    | plain noQuote noBackslash =>
      refine (text?_plain noQuote noBackslash (ih [])).trans ?_
      rw [waiting]
      rfl

/-- **A text between quotes is read as it was written,** and what follows it is left. -/
theorem value?_jsonText (bound : Nat) (cs rest : List Char) :
    value? (bound + 1) (jsonText cs ++ rest) = some (.text (.ofList cs), rest) := by
  have written : jsonText cs ++ rest = '"' :: (cs.flatMap escapeChar ++ '"' :: rest) := by
    simp [jsonText]
  have start : skipSpace (jsonText cs ++ rest) = jsonText cs ++ rest :=
    List.dropWhile_cons_of_neg (by decide)
  have read : text? [] (cs.flatMap escapeChar ++ '"' :: rest) = some (cs, rest) :=
    text?_flatMap [] cs rest
  rw [value?, start, written]
  simp only [read, Option.map_some]

/-! ## What a text takes -/

theorem length_joinUnits_le (units : List Nat) : (joinUnits units).length ≤ units.length := by
  fun_induction joinUnits units <;> simp_all
  omega

theorem colon_notMem_of_unit? {a b c d : Char} {unit : Nat} (value : unit? a b c d = some unit) :
    ':' ∉ [a, b, c, d] := by
  simp only [unit?, Option.bind_eq_bind, Option.bind_eq_some_iff] at value
  obtain ⟨first, isFirst, second, isSecond, third, isThird, fourth, isFourth, -⟩ := value
  have noDigit : ∀ e n, Text.hexValue? e = some n → ':' ≠ e := by
    rintro e n digit rfl
    exact absurd digit (by decide +revert)
  simp [noDigit a first isFirst, noDigit b second isSecond, noDigit c third isThird,
    noDigit d fourth isFourth]

/-- What is read takes at least as many characters between the quotes, and a colon among them is
read as a colon. -/
theorem body_of_text? (done : text? units cs = some (read, rest)) :
    ∃ body, cs = body ++ '"' :: rest ∧ read.length ≤ units.length + body.length ∧
      (':' ∈ body → ':' ∈ read) := by
  fun_induction text? units cs generalizing read rest with
  | case1 => cases done
  | case2 units rest' =>
    cases done
    refine ⟨[], rfl, ?_, by simp⟩
    simpa using length_joinUnits_le units.reverse
  | case3 units a b c d cs ih =>
    obtain ⟨unit, value, later⟩ := Option.bind_eq_some_iff.mp done
    obtain ⟨body, rfl, length_le, colon⟩ := ih unit later
    have noColon := colon_notMem_of_unit? value
    refine ⟨'\\' :: 'u' :: a :: b :: c :: d :: body, rfl, ?_, fun mem => colon ?_⟩
    · simp only [List.length_cons] at length_le ⊢
      omega
    · simp only [List.mem_cons, not_or] at noColon
      simpa [noColon] using mem
  | case4 units letter cs noUnit ih =>
    obtain ⟨plain, means, later⟩ := Option.bind_eq_some_iff.mp done
    obtain ⟨⟨inner, remaining⟩, later, same⟩ := Option.bind_eq_some_iff.mp later
    cases same
    obtain ⟨body, rfl, length_le, colon⟩ := ih later
    have ofUnits := length_joinUnits_le units.reverse
    have noColon : ':' ≠ letter := by
      rintro rfl
      cases means
    refine ⟨'\\' :: letter :: body, rfl, ?_, fun mem => ?_⟩
    · simp only [List.length_append, List.length_cons, List.length_reverse, List.length_nil]
        at length_le ofUnits ⊢
      omega
    · rcases List.mem_cons.mp mem with same | mem
      · cases same
      · exact List.mem_append_right _ (List.mem_cons_of_mem _
          (colon ((List.mem_cons.mp mem).resolve_left noColon)))
  | case5 units c cs noQuote noUnit noEscape ih =>
    obtain ⟨⟨inner, remaining⟩, later, same⟩ := Option.bind_eq_some_iff.mp done
    cases same
    obtain ⟨body, rfl, length_le, colon⟩ := ih later
    have ofUnits := length_joinUnits_le units.reverse
    refine ⟨c :: body, rfl, ?_, fun mem => List.mem_append_right _ ?_⟩
    · simp only [List.length_append, List.length_cons, List.length_reverse, List.length_nil]
        at length_le ofUnits ⊢
      omega
    · rcases List.mem_cons.mp mem with same | mem
      · exact same ▸ List.mem_cons_self
      · exact List.mem_cons_of_mem _ (colon mem)

end MediaMarkup.Value.Reader
