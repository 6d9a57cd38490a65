import MediaMarkup.Link

/-!
Which sources are in a wrapper. A wrapper is its opening in front of a text and its closing behind
it, where each of the two may be escaped (`Wrapper.Encloses`). The ends are decoded one after the
other, the second in a source that the first may have shortened; still each of them is decoded just
where it spells a character (`decodeHead_eq_cons`, `decodeTail_eq_append`). Main statement:
`ofSource_of_wrapper`.
-/

namespace MediaMarkup

/-! ## Wrappers around a text -/

namespace Wrapper

/-- How a wrapper's character is spelled in a source: as it is, or escaped. -/
def spellings : Char → List String
  | '[' => ["[", "%5B", "%5b"]
  | ']' => ["]", "%5D", "%5d"]
  | '(' => ["(", "%28"]
  | ')' => [")", "%29"]
  | _ => []

/-- A source is a text between an opening and a closing. -/
def Encloses (wrapper : Wrapper) (text source : String) : Prop :=
  ∃ opening ∈ spellings wrapper.opening, ∃ closing ∈ spellings wrapper.closing,
    source = opening ++ text ++ closing

theorem signs (wrapper : Wrapper) : wrapper.opening ∈ ['[', ']', '(', ')'] ∧
    wrapper.closing ∈ ['[', ']', '(', ')'] ∧ wrapper.opening ≠ '%' ∧
    wrapper.closing.isAlphanum = false := by
  cases wrapper <;> decide

end Wrapper

namespace Link

/-! ## Spellings -/

/-- A character as it stands in a source, or an escape of it. -/
inductive Spells (sign : Char) : List Char → Prop
  | plain : Spells sign [sign]
  | escape {a b c : Char} (escaped : unescape a b c = some sign) : Spells sign [a, b, c]

variable {a b c first last sign : Char} {cs rest front : List Char} {wrapper : Wrapper}

/-- The escapes, one by one. -/
theorem unescape_eq_some : unescape a b c = some sign ↔
    ([a, b, c], sign) ∈ [(['%', '5', 'B'], '['), (['%', '5', 'b'], '['), (['%', '5', 'D'], ']'),
      (['%', '5', 'd'], ']'), (['%', '2', '8'], '('), (['%', '2', '9'], ')')] := by
  constructor
  · intro escaped
    unfold unescape at escaped
    split at escaped <;> first | (cases escaped; simp) | cases escaped
  · intro listed
    simp only [List.mem_cons, List.not_mem_nil, or_false, Prod.mk.injEq, List.cons.injEq,
      and_true] at listed
    rcases listed with h | h | h | h | h | h <;> obtain ⟨⟨rfl, rfl, rfl⟩, rfl⟩ := h <;> rfl

theorem spells_iff (isSign : sign ∈ ['[', ']', '(', ')']) :
    Spells sign cs ↔ ∃ spelling ∈ Wrapper.spellings sign, spelling.toList = cs := by
  constructor
  · intro spells
    cases spells with
    | plain =>
      simp only [List.mem_cons, List.not_mem_nil, or_false] at isSign
      rcases isSign with rfl | rfl | rfl | rfl <;> exact ⟨_, List.mem_cons_self, by decide⟩
    | escape escaped =>
      simp only [unescape_eq_some, List.mem_cons, List.not_mem_nil, or_false, Prod.mk.injEq,
        List.cons.injEq, and_true] at escaped
      rcases escaped with h | h | h | h | h | h <;> obtain ⟨⟨rfl, rfl, rfl⟩, rfl⟩ := h <;> decide
  · rintro ⟨spelling, listed, rfl⟩
    simp only [List.mem_cons, List.not_mem_nil, or_false] at isSign
    rcases isSign with rfl | rfl | rfl | rfl <;>
      simp only [Wrapper.spellings, List.mem_cons, List.not_mem_nil, or_false] at listed <;>
      rcases listed with rfl | rfl | rfl <;>
      first | exact .plain | exact .escape rfl

/-- An escape starts with a sign that no wrapper has. -/
theorem unescape_first (noEscape : first ≠ '%') : unescape first b c = none := by
  rw [Option.eq_none_iff_forall_ne_some]
  intro sign escaped
  simp only [unescape_eq_some, List.mem_cons, List.not_mem_nil, or_false, Prod.mk.injEq,
    List.cons.injEq, and_true] at escaped
  grind

/-- An escape ends with a letter or a digit. -/
theorem unescape_last (noEscape : last.isAlphanum = false) : unescape a b last = none := by
  rw [Option.eq_none_iff_forall_ne_some]
  intro sign escaped
  simp only [unescape_eq_some, List.mem_cons, List.not_mem_nil, or_false, Prod.mk.injEq,
    List.cons.injEq, and_true] at escaped
  rcases escaped with h | h | h | h | h | h <;> obtain ⟨⟨-, -, rfl⟩, -⟩ := h <;> cases noEscape

/-! ## Decoding -/

/-- The first character of a decoded source is the one that is spelled there. -/
theorem decodeHead_eq_cons (noEscape : first ≠ '%') :
    decodeHead cs = first :: rest ↔ ∃ spelling, Spells first spelling ∧ cs = spelling ++ rest := by
  constructor
  · intro decoded
    unfold decodeHead at decoded
    split at decoded
    · split at decoded
      · rename_i escaped
        cases decoded
        exact ⟨_, .escape escaped, rfl⟩
      · exact ⟨[first], .plain, decoded⟩
    · exact ⟨[first], .plain, decoded⟩
  · rintro ⟨spelling, spells, rfl⟩
    cases spells with
    | escape escaped => simp [decodeHead, escaped]
    | plain =>
      match rest with
      | [] | [_] => rfl
      | b :: c :: rest => simp [decodeHead, unescape_first noEscape]

/-- So is the last one, behind something else. -/
theorem decodeTail_eq_append (noEscape : last.isAlphanum = false) (nonempty : front ≠ []) :
    decodeTail cs = front ++ [last] ↔
      ∃ spelling, Spells last spelling ∧ cs = front ++ spelling := by
  constructor
  · intro decoded
    unfold decodeTail at decoded
    split at decoded
    · rename_i c b a d before reversed
      split at decoded
      · rename_i plain escaped
        obtain ⟨rfl, same⟩ := List.append_inj' decoded rfl
        cases same
        exact ⟨_, .escape escaped, by simpa using congrArg List.reverse reversed⟩
      · exact ⟨[last], .plain, decoded⟩
    · exact ⟨[last], .plain, decoded⟩
  · rintro ⟨spelling, spells, rfl⟩
    obtain ⟨d, before, reversed⟩ :=
      List.exists_cons_of_ne_nil (mt List.reverse_eq_nil_iff.mp nonempty)
    have front_eq : front = (d :: before).reverse := by rw [← reversed, List.reverse_reverse]
    cases spells with
    | escape escaped => simp [decodeTail, escaped, front_eq]
    | plain =>
      unfold decodeTail
      split
      · rename_i c b a d' before' reversed'
        obtain rfl : last = c := by simpa using congrArg List.head? reversed'
        rw [unescape_last noEscape]
      · rfl

/-! ## Wrappers -/

theorem unwrap?_eq_some {text : List Char} :
    unwrap? wrapper cs = some text ↔ cs = wrapper.opening :: text ++ [wrapper.closing] := by
  constructor
  · intro unwrapped
    unfold unwrap? at unwrapped
    split at unwrapped
    · rename_i first c rest
      simp only [Bool.and_eq_true, decide_eq_true_eq, Option.ite_none_right_eq_some,
        Option.some.injEq] at unwrapped
      obtain ⟨⟨rfl, ends⟩, rfl⟩ := unwrapped
      rw [List.getLast?_eq_some_iff] at ends
      obtain ⟨inside, behind⟩ := ends
      rw [behind, List.dropLast_concat, List.cons_append]
    · cases unwrapped
  · rintro rfl
    obtain ⟨c, rest, behind⟩ := List.exists_cons_of_ne_nil (List.concat_ne_nil wrapper.closing text)
    rw [List.cons_append, behind, unwrap?, ← behind]
    simp

theorem wrapped?_eq_some {text : List Char} :
    wrapped? cs = some (wrapper, text) ↔ unwrap? wrapper (decodeEnds cs) = some text := by
  unfold wrapped?
  cases bracket : unwrap? .bracket (decodeEnds cs) with
  | none => cases wrapper <;> simp [bracket]
  | some inside =>
    -- No source opens with both.
    have other : unwrap? .parenthesis (decodeEnds cs) = none := by
      rw [Option.eq_none_iff_forall_ne_some]
      intro text parenthesis
      rw [unwrap?_eq_some] at bracket parenthesis
      rw [bracket] at parenthesis
      cases parenthesis
    cases wrapper <;> simp [bracket, other]

/-- A source is in a wrapper just where it spells the wrapper's characters at its ends. -/
theorem wrapped?_iff {wrapper : Wrapper} {text source : String} :
    wrapped? source.toList = some (wrapper, text.toList) ↔ wrapper.Encloses text source := by
  obtain ⟨opens, closes, noEscape, noEscape'⟩ := wrapper.signs
  have closed {cs : List Char} :
      decodeTail cs = wrapper.opening :: text.toList ++ [wrapper.closing] ↔
        ∃ closing, Spells wrapper.closing closing ∧
          cs = wrapper.opening :: text.toList ++ closing :=
    decodeTail_eq_append noEscape' (by simp)
  rw [wrapped?_eq_some, unwrap?_eq_some, decodeEnds, closed]
  simp only [List.cons_append, decodeHead_eq_cons noEscape, spells_iff opens, spells_iff closes]
  constructor
  · rintro ⟨_, ⟨closing, listed, rfl⟩, _, ⟨opening, listed', rfl⟩, spelled⟩
    refine ⟨opening, listed', closing, listed, String.toList_inj.mp ?_⟩
    rw [spelled, String.toList_append, String.toList_append, List.append_assoc]
  · rintro ⟨opening, listed', closing, listed, rfl⟩
    refine ⟨_, ⟨closing, listed, rfl⟩, _, ⟨opening, listed', rfl⟩, ?_⟩
    rw [String.toList_append, String.toList_append, List.append_assoc]

/-- **Wrappers are recognised exactly.** A source is reported to be in a wrapper just where it is a
text between an opening and a closing. That text is the only one, and is reported as it is, with a
link to it unless the element stands in one. Any other source is left alone. -/
theorem ofSource_of_wrapper (source : String) (insideLink : Bool) :
    ((ofSource source insideLink).wrapper.isSome ↔
        ∃ wrapper : Wrapper, ∃ text, wrapper.Encloses text source) ∧
      (∀ (wrapper : Wrapper) (text : String), wrapper.Encloses text source →
        ofSource source insideLink =
            ⟨text, some wrapper, if insideLink then none else some text⟩ ∧
          ∀ (wrapper' : Wrapper) (text' : String), wrapper'.Encloses text' source →
            wrapper' = wrapper ∧ text' = text) ∧
      ((¬∃ wrapper : Wrapper, ∃ text, wrapper.Encloses text source) →
        ofSource source insideLink = ⟨source, none, none⟩) := by
  have known {wrapper : Wrapper} {text : String} (encloses : wrapper.Encloses text source) :
      ofSource source insideLink =
        ⟨text, some wrapper, if insideLink then none else some text⟩ := by
    rw [ofSource, wrapped?_iff.mpr encloses]
    simp
  have unknown (free : ¬∃ wrapper : Wrapper, ∃ text, wrapper.Encloses text source) :
      ofSource source insideLink = ⟨source, none, none⟩ := by
    unfold ofSource
    split
    · rename_i wrapper text wrapped
      rw [← String.toList_ofList (l := text), wrapped?_iff] at wrapped
      exact absurd ⟨wrapper, _, wrapped⟩ free
    · rfl
  refine ⟨⟨fun reported => ?_, ?_⟩, ?_, unknown⟩
  · by_cases enclosed : ∃ wrapper : Wrapper, ∃ text, wrapper.Encloses text source
    · exact enclosed
    · rw [unknown enclosed] at reported
      cases reported
  · rintro ⟨wrapper, text, encloses⟩
    rw [known encloses]
    rfl
  · intro wrapper text encloses
    refine ⟨known encloses, fun wrapper' text' encloses' => ?_⟩
    have same := (known encloses').symm.trans (known encloses)
    rw [Link.mk.injEq, Option.some.injEq] at same
    exact ⟨same.2.1, same.1⟩

/-- The ends may be spelled in different ways, and what is between them is not looked into. -/
example : ofSource "%5b(a%5D%5d]" false =
      ⟨"(a%5D%5d", some .bracket, some "(a%5D%5d"⟩ ∧
    ofSource "%28a%5D" false = ⟨"%28a%5D", none, none⟩ := by
  decide +kernel

end Link

end MediaMarkup
