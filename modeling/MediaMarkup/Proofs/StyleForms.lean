import Mathlib.Data.Set.Function
import MediaMarkup.Proofs.StyleText

/-!
The two forms of a style: a text, and an expression with the same properties under their camel
names. Writing entries over others commutes with giving them other names, as long as no two names
become the same (`putAll_rename`). Main statement: merging declarations into either form comes to
the same style (`merge_structured`).
-/

namespace MediaMarkup

namespace Entries

variable {α β : Type} {entries new : Entries α} {name : String}

/-- Entries under other names, with their values in another form. -/
def rename (f : String → String) (g : α → β) (entries : Entries α) : Entries β :=
  entries.map fun entry => (f entry.1, g entry.2)

variable {f : String → String} {g : α → β}

theorem put_rename (apart : ∀ other ∈ names entries, f other = f name → other = name) (value : α) :
    put (f name) (g value) (rename f g entries) = rename f g (put name value entries) := by
  induction entries with
  | nil => rfl
  | cons entry rest ih =>
    have here : f entry.1 = f name ↔ entry.1 = name :=
      ⟨apart entry.1 List.mem_cons_self, congrArg f⟩
    have later := ih fun other mem => apart other (List.mem_cons_of_mem _ mem)
    rw [put]
    by_cases same : entry.1 = name
    · rw [if_pos same, rename, List.map_cons, put, if_pos (here.mpr same)]
      rfl
    · rw [if_neg same, rename, List.map_cons, put, if_neg (mt here.mp same), ← rename, later]
      rfl

/-- Names that stay apart may be changed before entries are written, or afterwards. -/
theorem putAll_rename (apart : Set.InjOn f {name | name ∈ names entries ++ names new}) :
    putAll (rename f g entries) (rename f g new) = rename f g (putAll entries new) := by
  induction new generalizing entries with
  | nil => rfl
  | cons entry rest ih =>
    have named : entry.1 ∈ names entries ++ names (entry :: rest) :=
      List.mem_append_right _ List.mem_cons_self
    have step : put (f entry.1) (g entry.2) (rename f g entries) =
        rename f g (put entry.1 entry.2 entries) :=
      put_rename (fun other mem same => apart (List.mem_append_left _ mem) named same) entry.2
    have apart' : Set.InjOn f
        {name | name ∈ names (put entry.1 entry.2 entries) ++ names rest} := by
      refine apart.mono fun name mem => ?_
      rcases List.mem_append.mp mem with mem | mem
      · obtain ⟨found, there, rfl⟩ := List.mem_map.mp mem
        rcases mem_put there with old | rfl
        · exact List.mem_append_left _ (List.mem_map_of_mem old)
        · exact named
      · exact List.mem_append_right _ (List.mem_cons_of_mem _ mem)
    rw [putAll_cons, ← ih apart', ← step]
    rfl

theorem ofList_rename (distinct : (names entries).Nodup)
    (apart : Set.InjOn f {name | name ∈ names entries}) :
    ofList (rename f g entries) = rename f g entries := by
  have brought : putAll (rename f g []) (rename f g entries) = rename f g (ofList entries) :=
    putAll_rename apart
  exact brought.trans (by rw [ofList_of_nodup distinct])

end Entries

namespace Style

/-- Declarations as a structured style. -/
def structured (declarations : Entries String) : Expression :=
  ⟨Entries.rename camel Value.text declarations⟩

theorem mergeExpression_structured {old new : Entries String} (distinct : (Entries.names old).Nodup)
    (apart : Set.InjOn camel {name | name ∈ Entries.names old ++ Entries.names new}) :
    mergeExpression (structured old) new = structured (old.putAll new) := by
  have old_eq : (structured old).toEntries = Entries.rename camel Value.text old :=
    Entries.ofList_rename distinct (apart.mono fun _ mem => List.mem_append_left _ mem)
  rw [mergeExpression, old_eq, structured, ← Entries.putAll_rename apart]
  rfl

/-- **Both forms of a style take declarations alike.** Where no two properties have the same camel
name, merging into the structured form gives the structured form of what merging into the text is
read as. -/
theorem merge_structured {old new : Entries String} (distinct : (Entries.names old).Nodup)
    (distinct' : (Entries.names new).Nodup) (are : ∀ entry ∈ old, IsDeclaration entry)
    (are' : ∀ entry ∈ new, IsDeclaration entry)
    (apart : Set.InjOn camel {name | name ∈ Entries.names old ++ Entries.names new}) :
    ∃ text, merge (some (.text (render old))) new = .text text ∧
      merge (some (.expression (structured old))) new = .expression (structured (parse text)) := by
  refine ⟨mergeText (render old) new, rfl, ?_⟩
  have read := (parse_mergeText_iff distinct' (render old)).mpr are'
  rw [(parse_render_iff distinct).mpr are] at read
  rw [merge, read, mergeExpression_structured distinct apart]

/-- Properties of all kinds: of vendors, of an author, with dashes in a row. -/
def vendorStyle : Entries String :=
  [("background-color", "white"), ("-webkit-transition", "all 1s"), ("--accent", "url(a:b)")]

def vendorChanges : Entries String :=
  [("-ms-transform", "none"), ("background-color", "\"black\""), ("a--b", "0")]

theorem merge_structured_vendorStyle :
    ((∀ entry ∈ vendorStyle, IsDeclaration entry) ∧ ∀ entry ∈ vendorChanges, IsDeclaration entry) ∧
      ∃ text, merge (some (.text (render vendorStyle))) vendorChanges = .text text ∧
        merge (some (.expression (structured vendorStyle))) vendorChanges =
            .expression (structured (parse text)) ∧
          text = "background-color:\"black\";-webkit-transition:all 1s;--accent:url(a:b);" ++
            "-ms-transform:none;a--b:0" := by
  have are : ∀ entry ∈ vendorStyle, IsDeclaration entry := by decide +kernel
  have are' : ∀ entry ∈ vendorChanges, IsDeclaration entry := by decide +kernel
  have names : ∀ first ∈ Entries.names vendorStyle ++ Entries.names vendorChanges,
      ∀ second ∈ Entries.names vendorStyle ++ Entries.names vendorChanges,
        camel first = camel second → first = second := by decide +kernel
  obtain ⟨text, merged, structured⟩ := merge_structured (by decide) (by decide) are are'
    fun first mem second mem' => names first mem second mem'
  refine ⟨⟨are, are'⟩, text, merged, structured, ?_⟩
  have shown : merge (some (.text (render vendorStyle))) vendorChanges =
      .text (mergeText (render vendorStyle) vendorChanges) := rfl
  rw [merged, Attribute.text.injEq] at shown
  rw [shown]
  decide +kernel

end Style

end MediaMarkup
