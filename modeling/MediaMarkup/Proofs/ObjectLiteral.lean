import MediaMarkup.Attribute.Merge
import MediaMarkup.Proofs.CamelNames
import MediaMarkup.Proofs.JsonText
import MediaMarkup.Proofs.StyleText

/-!
Structured styles as object literals. A literal is read with identifiers or texts between quotes as
its keys, and values as in JSON. Keys are written as they are, so that a literal is read as what was
written just where all keys are identifiers (`ofLiteral?_render_iff`). Main statement: a plain
expression stays one under a merge just when all the properties of the declarations can be named
(`merge_isLiteral_iff`).
-/

namespace MediaMarkup.Expression

open Value.Reader (skipSpace)
open Style (isNameChar isIdentifier isNameable)

/-! ## Reading a literal -/

/-- A key, an identifier or a text between quotes, and what follows it. -/
def key? : List Char → Option (List Char × List Char)
  | '"' :: rest => Value.Reader.text? [] rest
  | cs =>
    if isIdentifier (cs.takeWhile isNameChar) then
      some (cs.takeWhile isNameChar, cs.dropWhile isNameChar)
    else none

def member? (cs : List Char) : Option ((String × Value) × List Char) := do
  let (name, rest) ← key? (skipSpace cs)
  match skipSpace rest with
  | ':' :: rest =>
    let (value, rest) ← Value.Reader.value? (2 * rest.length + 1) rest
    some ((.ofList name, value), rest)
  | _ => none

/-- The closing brace, which ends the text. -/
def closing? (cs : List Char) : Option (List (String × Value)) :=
  match skipSpace cs with
  | '\x7d' :: rest => if (skipSpace rest).isEmpty then some [] else none
  | _ => none

/-- The members up to the closing brace. Every member takes one from the bound. -/
def members? : Nat → List Char → Option (List (String × Value))
  | 0, _ => none
  | bound + 1, cs => do
    let (member, rest) ← member? cs
    let members := match skipSpace rest with
      | ',' :: rest => members? bound rest
      | _ => closing? rest
    members.map (member :: ·)

/-- The expression that an object literal spells. -/
def ofLiteral? (literal : String) : Option Expression :=
  match skipSpace literal.toList with
  | '\x7b' :: rest => ((members? rest.length rest).or (closing? rest)).map .mk
  | _ => none

/-- A key that an object literal may have: an identifier, or a text between quotes. -/
def IsKey (key : String) : Prop :=
  isIdentifier key.toList = true ∨ ∃ name, key.toList = Value.jsonText name

/-- An expression that is written as an object literal, which reads as an object with just its
properties. -/
structure IsLiteral (expression : Expression) : Prop where
  keys : ∀ property ∈ expression.properties, IsKey property.1
  distinct : (Entries.names expression.properties).Nodup
  read : ofLiteral? expression.render = some expression

/-- A property whose key has no colon, and whose value is a text. -/
structure IsPlain (property : String × Value) : Prop where
  noColon : ':' ∉ property.1.toList
  text : ∃ value, property.2 = .text value

variable {property read : String × Value} {cs rest : List Char} {bound : Nat}

/-! ## One member -/

theorem skipSpace_cons {c : Char} (mark : isNameChar c = true ∨ c = ':' ∨ c = ',' ∨ c = '\x7d') :
    skipSpace (c :: cs) = c :: cs := by
  apply List.dropWhile_cons_of_neg
  simp only [Bool.or_eq_true, decide_eq_true_eq, not_or]
  refine ⟨⟨⟨?_, ?_⟩, ?_⟩, ?_⟩ <;> (rintro rfl; revert mark; decide)

theorem isNameChar_head {name : List Char} (identifier : isIdentifier name = true) :
    ∃ c rest, name = c :: rest ∧ isNameChar c = true := by
  cases name with
  | nil => cases identifier
  | cons c rest =>
    exact ⟨c, rest, rfl, Style.isNameChar_of_isIdentifier identifier c List.mem_cons_self⟩

theorem key?_identifier {name : List Char} (identifier : isIdentifier name = true) :
    key? (name ++ ':' :: cs) = some (name, ':' :: cs) := by
  have all := Style.isNameChar_of_isIdentifier identifier
  have colon : isNameChar ':' = false := by decide
  have taken : (name ++ ':' :: cs).takeWhile isNameChar = name := by
    rw [List.takeWhile_append_of_pos all, List.takeWhile_cons_of_neg (by simp [colon]),
      List.append_nil]
  have left : (name ++ ':' :: cs).dropWhile isNameChar = ':' :: cs := by
    rw [List.dropWhile_append_of_pos all, List.dropWhile_cons_of_neg (by simp [colon])]
  rw [key?]
  · rw [taken, left, if_pos identifier]
  · rintro rest quoted
    obtain ⟨c, more, rfl, mark⟩ := isNameChar_head identifier
    cases quoted
    revert mark
    decide

/-- A member with an identifier as its key is read as it was written. -/
theorem IsPlain.member?_render (plain : IsPlain property)
    (identifier : isIdentifier property.1.toList = true) :
    member? (renderProperty property ++ cs) = some (property, cs) := by
  obtain ⟨key, value⟩ := property
  obtain ⟨text, rfl⟩ := plain.text
  obtain ⟨c, more, starts, mark⟩ := isNameChar_head identifier
  have written : renderProperty (key, .text text) ++ cs =
      key.toList ++ ':' :: (Value.jsonText text.toList ++ cs) := by
    simp [renderProperty, Value.toJson]
  have start : skipSpace (key.toList ++ ':' :: (Value.jsonText text.toList ++ cs)) =
      key.toList ++ ':' :: (Value.jsonText text.toList ++ cs) := by
    rw [starts, List.cons_append, skipSpace_cons (.inl mark)]
  rw [written, member?, start, key?_identifier identifier]
  simp [skipSpace_cons, Value.Reader.value?_jsonText]

theorem key?_of_member? (done : member? cs = some (read, rest)) :
    ∃ left, key? (skipSpace cs) = some (read.1.toList, left) := by
  obtain ⟨⟨name, left⟩, key, done⟩ := Option.bind_eq_some_iff.mp done
  dsimp only at done
  split at done
  · obtain ⟨⟨value, _⟩, _, done⟩ := Option.bind_eq_some_iff.mp done
    cases done
    exact ⟨left, by rw [key, String.toList_ofList]⟩
  · cases done

theorem mem_of_append_eq {c : Char} {first more before behind : List Char}
    (same : first ++ c :: more = before ++ behind) (reaches : first.length < before.length) :
    c ∈ before := by
  have there := congrArg (·[first.length]?) same
  simp only [List.getElem?_append_left reaches] at there
  exact List.mem_of_getElem? (there.symm.trans (by simp))

/-- A key without a colon that is read as itself is an identifier: between quotes it is shorter than
what was written, so that the quotes would have to reach over the colon. -/
theorem isIdentifier_of_key? {name left : List Char} (noColon : ':' ∉ name)
    (key : key? (skipSpace (name ++ ':' :: cs)) = some (name, left)) :
    isIdentifier name = true := by
  have skipped : skipSpace (name ++ ':' :: cs) = skipSpace name ++ ':' :: cs := by
    have start : skipSpace (':' :: cs) = ':' :: cs := skipSpace_cons (by simp)
    unfold skipSpace at start ⊢
    rw [List.dropWhile_append, start]
    split
    · rename_i none
      rw [List.isEmpty_iff.mp none, List.nil_append]
    · rfl
  have shorter : (skipSpace name).length ≤ name.length := List.length_dropWhile_le _ _
  rw [skipped] at key
  generalize whole : skipSpace name ++ ':' :: cs = text at key
  cases text with
  | nil => cases key
  | cons c text =>
    by_cases quote : c = '"'
    · subst quote
      obtain ⟨body, rfl, length_le, colon⟩ := Value.Reader.body_of_text? key
      rw [List.length_nil, Nat.zero_add] at length_le
      rw [← List.cons_append] at whole
      have inside : ':' ∈ '"' :: body := by
        refine mem_of_append_eq whole ?_
        rw [List.length_cons]
        omega
      exact absurd (colon (by simpa using inside)) noColon
    · rw [key?] at key
      · split at key
        · rename_i identifier
          cases key
          exact identifier
        · cases key
      · rintro rest quoted
        cases quoted
        exact quote rfl

/-! ## All members -/

theorem members?_last (done : member? cs = some (read, ['\x7d'])) :
    members? (bound + 1) cs = some [read] := by
  have brace : skipSpace ['\x7d'] = ['\x7d'] := skipSpace_cons (by simp)
  have closes : closing? ['\x7d'] = some [] := by
    rw [closing?, brace]
    rfl
  simp [members?, done, brace, closes]

theorem members?_more (done : member? cs = some (read, ',' :: rest)) :
    members? (bound + 1) cs = (members? bound rest).map (read :: ·) := by
  simp [members?, done, skipSpace_cons]

theorem exists_member? {members : List (String × Value)}
    (done : members? bound cs = some (read :: members)) :
    ∃ left, member? cs = some (read, left) := by
  cases bound with
  | zero => cases done
  | succ bound =>
    obtain ⟨⟨member, left⟩, first, done⟩ := Option.bind_eq_some_iff.mp done
    obtain ⟨members, _, same⟩ := Option.map_eq_some_iff.mp done
    cases same
    exact ⟨left, first⟩

theorem IsPlain.isIdentifier_of_members? {members : List (String × Value)}
    (plain : IsPlain property)
    (done : members? bound (renderProperty property ++ cs) = some (property :: members)) :
    isIdentifier property.1.toList = true := by
  obtain ⟨left, first⟩ := exists_member? done
  obtain ⟨left, key⟩ := key?_of_member? first
  rw [renderProperty, List.append_assoc, List.cons_append] at key
  exact isIdentifier_of_key? plain.noColon key

/-- Members are read as the properties they were written for just where all keys are identifiers. -/
theorem members?_iff {properties : List (String × Value)}
    (plain : ∀ property ∈ properties, IsPlain property) (nonempty : properties ≠ [])
    (enough : properties.length ≤ bound) :
    members? bound (Text.join [','] (properties.map renderProperty) ++ ['\x7d']) =
        some properties ↔
      ∀ property ∈ properties, isIdentifier property.1.toList = true := by
  induction properties generalizing bound with
  | nil => exact absurd rfl nonempty
  | cons property rest ih =>
    obtain ⟨bound, rfl⟩ := Nat.exists_eq_add_one_of_ne_zero (Nat.ne_zero_of_lt enough)
    rw [List.forall_mem_cons] at plain ⊢
    cases rest with
    | nil =>
      constructor
      · exact fun done => ⟨plain.1.isIdentifier_of_members? done, by simp⟩
      · exact fun identifiers => members?_last (plain.1.member?_render identifiers.1)
    | cons next rest =>
      have written : Text.join [','] ((property :: next :: rest).map renderProperty) ++ ['\x7d'] =
          renderProperty property ++
            ',' :: (Text.join [','] ((next :: rest).map renderProperty) ++ ['\x7d']) := by
        simp [Text.join]
      have later := ih plain.2 (List.cons_ne_nil _ _) (Nat.le_of_succ_le_succ enough)
      -- After a key that is no identifier the reading is out of step, but its key is wrong already.
      rw [written]
      by_cases identifier : isIdentifier property.1.toList = true
      · rw [members?_more (plain.1.member?_render identifier), ← later]
        simp [identifier]
      · constructor
        · exact fun done => absurd (plain.1.isIdentifier_of_members? done) identifier
        · exact fun identifiers => absurd identifiers.1 identifier

theorem length_le_join (c : Char) (pieces : List (List Char)) :
    pieces.length ≤ (Text.join [c] pieces).length + 1 := by
  fun_induction Text.join [c] pieces with
  | case1 => simp
  | case2 piece => simp
  | case3 piece rest _ ih =>
    simp only [List.length_cons, List.length_append, List.length_nil]
    omega

theorem eq_nil_of_closing? {members : List (String × Value)} (done : closing? cs = some members) :
    members = [] := by
  unfold closing? at done
  split at done
  · split at done
    · cases done
      rfl
    · cases done
  · cases done

/-- **Keys are written as they are**: the object literal of an expression of texts is read as that
expression just where all its keys are identifiers. -/
theorem ofLiteral?_render_iff {expression : Expression}
    (plain : ∀ property ∈ expression.properties, IsPlain property) :
    ofLiteral? expression.render = some expression ↔
      ∀ property ∈ expression.properties, isIdentifier property.1.toList = true := by
  obtain ⟨properties⟩ := expression
  by_cases empty : properties = []
  · subst empty
    exact ⟨fun _ => by simp, fun _ => rfl⟩
  · have enough : properties.length ≤
        (Text.join [','] (properties.map renderProperty) ++ ['\x7d']).length := by
      simpa using length_le_join ',' (properties.map renderProperty)
    rw [← members?_iff plain empty enough]
    generalize written : Text.join [','] (properties.map renderProperty) ++ ['\x7d'] = inner
    have start : ofLiteral? (render ⟨properties⟩) =
        ((members? inner.length inner).or (closing? inner)).map .mk := by
      rw [← written, ofLiteral?, render, String.toList_ofList]
      rfl
    rw [start, Option.map_eq_some_iff]
    constructor
    · rintro ⟨read, done, same⟩
      cases same
      exact (Option.or_eq_some_iff.mp done).resolve_right fun later =>
        empty (eq_nil_of_closing? later.2)
    · exact fun done => ⟨properties, by rw [done]; rfl, rfl⟩

theorem isLiteral_iff {expression : Expression}
    (plain : ∀ property ∈ expression.properties, IsPlain property)
    (distinct : (Entries.names expression.properties).Nodup) :
    expression.IsLiteral ↔ ofLiteral? expression.render = some expression :=
  ⟨IsLiteral.read, fun read =>
    ⟨fun property mem => .inl ((ofLiteral?_render_iff plain).mp read property mem), distinct, read⟩⟩

/-! ## Merged styles -/

/-- An expression with identifiers as its keys and texts as its values. -/
structure IsSimple (expression : Expression) : Prop where
  identifiers : ∀ property ∈ expression.properties, isIdentifier property.1.toList = true
  texts : ∀ property ∈ expression.properties, ∃ value, property.2 = .text value

variable {expression : Expression}

theorem IsSimple.plain (simple : expression.IsSimple) (mem : property ∈ expression.properties) :
    IsPlain property where
  noColon colon := by
    have mark := Style.isNameChar_of_isIdentifier (simple.identifiers property mem) ':' colon
    revert mark
    decide
  text := simple.texts property mem

theorem mem_mergeExpression {declarations : Entries String}
    (mem : property ∈ (Style.mergeExpression expression declarations).properties) :
    property ∈ expression.properties ∨
      ∃ declaration ∈ declarations,
        (Style.camel declaration.1, Value.text declaration.2) = property := by
  rcases Entries.mem_putAll mem with old | new
  · rcases Entries.mem_putAll old with none | given
    · cases none
    · exact .inl given
  · exact .inr (List.mem_map.mp new)

theorem plain_mergeExpression (simple : expression.IsSimple) (text : String)
    (mem : property ∈ (Style.mergeExpression expression (Style.parse text)).properties) :
    IsPlain property := by
  rcases mem_mergeExpression mem with old | ⟨declaration, new, rfl⟩
  · exact simple.plain old
  · refine ⟨?_, _, rfl⟩
    rw [Style.camel, String.toList_ofList]
    exact Style.colon_notMem_camelName (Style.isDeclaration_of_parse new).property.noColon

/-- **A merged style is an object literal** just when every property that was merged can be named;
then, and only then, it is also read as what was merged. -/
theorem merge_isLiteral_iff (simple : expression.IsSimple) (text : String) :
    ∃ merged, Style.merge (some (.expression expression)) (Style.parse text) = .expression merged ∧
      (merged.IsLiteral ↔
        ∀ property ∈ Entries.names (Style.parse text), isNameable property.toList = true) ∧
      (ofLiteral? merged.render = some merged ↔ merged.IsLiteral) := by
  have plain : ∀ property ∈ (Style.mergeExpression expression (Style.parse text)).properties,
      IsPlain property := fun _ => plain_mergeExpression simple text
  have distinct : (Entries.names
      (Style.mergeExpression expression (Style.parse text)).properties).Nodup :=
    Entries.nodup_putAll (Entries.nodup_ofList _)
  have named (property : String) :
      isIdentifier (Style.camel property).toList = isNameable property.toList := by
    rw [Style.camel, String.toList_ofList, Style.isIdentifier_camelName]
  refine ⟨_, rfl, ?_, (isLiteral_iff plain distinct).symm⟩
  rw [isLiteral_iff plain distinct, ofLiteral?_render_iff plain]
  constructor
  · intro identifiers property mem
    obtain ⟨declaration, given, rfl⟩ := List.mem_map.mp mem
    have written : Style.camel declaration.1 ∈
        Entries.names (Style.mergeExpression expression (Style.parse text)).properties :=
      Entries.mem_names_putAll.mpr (.inr (List.mem_map.mpr
        ⟨_, List.mem_map_of_mem given, rfl⟩))
    obtain ⟨property, there, same⟩ := List.mem_map.mp written
    rw [← named, ← same]
    exact identifiers property there
  · intro nameable property mem
    rcases mem_mergeExpression mem with old | ⟨declaration, new, rfl⟩
    · exact simple.identifiers property old
    · exact (named _).trans (nameable _ (List.mem_map_of_mem new))

/-- Quotes, a backslash, a character of two UTF-16 units, and a name given twice. -/
def quotedStyle : Expression :=
  ⟨[("$x_1", .text "\\\"é😀"), ("color", .text "red"), ("$x_1", .text "\x7d,a:1")]⟩

theorem merge_isLiteral_iff_quotedStyle :
    quotedStyle.IsSimple ∧
      (∃ merged, Style.merge (some (.expression quotedStyle))
          (Style.parse "-webkit-filter:\"x\";color:;-ms-zoom:\\;color:a,b:c") = .expression merged ∧
        merged.IsLiteral) ∧
      ∃ merged, Style.merge (some (.expression quotedStyle))
          (Style.parse "top:0;-x y:1") = .expression merged ∧ ¬ merged.IsLiteral := by
  have simple : quotedStyle.IsSimple := by
    constructor
    · decide
    · simp [quotedStyle]
  refine ⟨simple, ?_, ?_⟩
  · obtain ⟨merged, shown, literal, -⟩ := merge_isLiteral_iff simple
      "-webkit-filter:\"x\";color:;-ms-zoom:\\;color:a,b:c"
    exact ⟨merged, shown, literal.mpr (by decide +kernel)⟩
  · obtain ⟨merged, shown, literal, -⟩ := merge_isLiteral_iff simple "top:0;-x y:1"
    exact ⟨merged, shown, mt literal.mp (by decide +kernel)⟩

/-- A custom property keeps its dashes, and is written as it is: the text is no object literal. -/
theorem not_isLiteral_customProperty :
    IsSimple ⟨[("color", .text "red")]⟩ ∧
      ∃ merged, Style.merge (some (.expression ⟨[("color", .text "red")]⟩))
          (Style.parse "--accent:1") = .expression merged ∧
        merged.render = "\x7bcolor:\"red\",--accent:\"1\"\x7d" ∧
        (∃ property ∈ merged.properties, ¬ IsKey property.1) ∧ ofLiteral? merged.render = none := by
  have parsed : Style.parse "--accent:1" = [("--accent", "1")] := by decide +kernel
  have kept : Style.camel "--accent" = "--accent" := by decide +kernel
  have noMember : (ofLiteral? (render ⟨[("color", .text "red"), ("--accent", .text "1")]⟩)).isNone =
      true := by decide +kernel
  refine ⟨⟨by decide, by simp⟩, ⟨[("color", .text "red"), ("--accent", .text "1")]⟩, ?_, ?_, ?_,
    Option.isNone_iff_eq_none.mp noMember⟩
  · rw [parsed]
    simp [Style.merge, Style.mergeExpression, toEntries, kept, Entries.ofList, Entries.putAll,
      Entries.put]
  · decide +kernel
  · refine ⟨("--accent", .text "1"), by simp, ?_⟩
    rintro (identifier | ⟨name, quoted⟩)
    · revert identifier
      decide
    · cases quoted

end MediaMarkup.Expression
