import MediaMarkup.Proofs.Ancestors
import MediaMarkup.Proofs.Ending
import MediaMarkup.Proofs.Failure
import MediaMarkup.Proofs.SourceWrapper
import MediaMarkup.Proofs.TitleNames

/-!
How a pass stops. A pass that fails does so at the last of its visits, where nothing but attributes
of the visited element may be edited, or when its paragraphs are to be unravelled
(`stopped_enrichAs`). In markup a name can be what stops it: of the attributes that a title derives,
those in front of the first that is refused are merged by then (`visitor_of_unreadable`). Titles do
give such names, since a key may open a namespace and not close it (`visitor_of_opensNamespace`); no
pass over markup gets past one (`stopped_of_opensNamespace`).
-/

namespace MediaMarkup

/-! ## The last visit -/

/-- The visits are calls that the visitor answers. -/
def Visitor.Answers {σ ε : Type} (visitor : Visitor σ ε) (visits : List (Visit σ)) : Prop :=
  ∀ visit ∈ visits, ∃ answer, visitor visit.walk visit.index = .ok answer

namespace Walk

variable {σ ε : Type} {visitor : Visitor σ ε}

/-- The visitor answers all calls of a run but the one that stops it, which is the last; then the
run is left as that call left it. -/
theorem run_answers (tags : List String) (budget index : Nat) (walk : Walk (σ × List (Visit σ)))
    (answered : visitor.Answers walk.memory.2) :
    match run visitor.visited tags budget index walk with
    | .ok last => visitor.Answers last.memory.2
    | .error (.outOfBudget, left) => visitor.Answers left.memory.2
    | .error (.failed cause, left) => ∃ before visit, left.memory.2 = before ++ [visit] ∧
        visitor.Answers before ∧
          visitor visit.walk visit.index = .error (cause, left.untraced) := by
  induction budget generalizing index walk with
  | zero => exact answered
  | succ budget ih =>
    unfold run
    cases here : walk.place.children[index]? with
    | none => exact answered
    | some node =>
      cases node with
      | comment | instruction => exact ih _ walk answered
      | element head children tail =>
        by_cases wanted : head.tag ∈ tags
        · simp only [wanted, ↓reduceIte]
          rcases called : visitor.visited walk index with ⟨cause, left⟩ | ⟨found, next⟩
          · obtain ⟨refused, noted⟩ := noting_error called
            exact ⟨walk.memory.2, ⟨walk.untraced, index⟩, noted, answered, refused⟩
          · obtain ⟨visits, noted⟩ := noting_ok called
            refine ih _ next fun visit met => ?_
            rw [noted] at met
            rcases List.mem_append.mp met with before | now
            · exact answered visit before
            · rw [List.mem_singleton.mp now]
              exact ⟨_, visits⟩
        · simp only [wanted, ↓reduceIte]
          have inside := ih 0 (walk.enter index head children tail) answered
          rcases ran : run visitor.visited tags budget 0 (walk.enter index head children tail) with
            ⟨stop, left⟩ | inner
          · rwa [ran] at inside
          · rw [ran] at inside
            exact ih _ (walk.resume inner) inside

end Walk

section passes

variable {format : Format} {settings : Settings} {tree : Node}

/-- The visitor answers all visits of a walk but the one that stops it, which is the last; then the
document is left as that call left it. -/
theorem Node.answers_visits (format : Format) (tree : Node) (enabled : settings.enable = true) :
    match (Enrich.walk format settings tree).stop with
    | some (.failed cause) => ∃ before visit left,
        tree.visits format settings = before ++ [visit] ∧
          (Enrich.visitor format settings).Answers before ∧
          Enrich.visitor format settings visit.walk visit.index = .error (cause, left) ∧
          (Enrich.walk format settings tree).tree = left.place.root
    | _ => (Enrich.visitor format settings).Answers (tree.visits format settings) := by
  cases tree with
  | comment | instruction =>
    simp [Enrich.walk, walk, Place.ofNode?, visits, Visitor.Answers]
  | element head children tail =>
    have noted : Walk.untracedResult (Walk.run (Enrich.visitor format settings).visited Media.tags
          (Enrich.budget (.element head children tail)) 0
          (.start ⟨head, children, tail, []⟩ ([], []))) =
        Walk.run (Enrich.visitor format settings) Media.tags
          (Enrich.budget (.element head children tail)) 0 (.start ⟨head, children, tail, []⟩ []) :=
      Walk.run_noting ..
    have unvisited : (Enrich.visitor format settings).Answers [] := fun visit met => by cases met
    have answers := Walk.run_answers Media.tags (Enrich.budget (.element head children tail)) 0
      (.start ⟨head, children, tail, []⟩ ([], [])) unvisited
    simp only [Enrich.walk, walk, Place.ofNode?, ← noted, visits, enabled, ↓reduceIte]
    rcases ran : Walk.run (Enrich.visitor format settings).visited Media.tags
        (Enrich.budget (.element head children tail)) 0
        (.start ⟨head, children, tail, []⟩ ([], [])) with ⟨cause | _, left⟩ | last
    · rw [ran] at answers
      obtain ⟨before, visit, visits_eq, answered, refused⟩ := answers
      exact ⟨before, visit, left.untraced, visits_eq, answered, refused, rfl⟩
    · rw [ran] at answers
      exact answers
    · rw [ran] at answers
      exact answers

/-- A walk that is stopped ends the pass. -/
theorem Node.enrichAs_of_stop {stop : Stop EnrichError} (enabled : settings.enable = true)
    (stopped : (Enrich.walk format settings tree).stop = some stop) :
    (tree.enrichAs format settings).failure = some stop ∧
      (tree.enrichAs format settings).tree = (Enrich.walk format settings tree).tree := by
  simp [enrichAs, enabled, stopped]

theorem Node.enabled_of_visit {visit : Visit (List Event)}
    (met : visit ∈ tree.visits format settings) : settings.enable = true := by
  by_contra disabled
  simp [visits, disabled] at met

/-- A visit that fails is the last one. The pass fails with it, and leaves the document as it is
then. -/
theorem Node.last_of_refused {visit : Visit (List Event)} {cause : EnrichError}
    {left : Walk (List Event)} (met : visit ∈ tree.visits format settings)
    (refused : Enrich.visitor format settings visit.walk visit.index = .error (cause, left)) :
    (tree.visits format settings).getLast? = some visit ∧
      (tree.enrichAs format settings).failure = some (.failed cause) ∧
      (tree.enrichAs format settings).tree = left.place.root := by
  have unanswered {visits : List (Visit (List Event))}
      (answered : (Enrich.visitor format settings).Answers visits) : visit ∉ visits := by
    intro met
    obtain ⟨answer, called⟩ := answered visit met
    cases refused.symm.trans called
  have enabled := enabled_of_visit met
  have answers := answers_visits format tree enabled
  cases stopped : (Enrich.walk format settings tree).stop with
  | none =>
    rw [stopped] at answers
    exact absurd met (unanswered answers)
  | some stop =>
    rw [stopped] at answers
    obtain ⟨failure_eq, tree_eq⟩ := enrichAs_of_stop enabled stopped
    cases stop with
    | outOfBudget => exact absurd met (unanswered answers)
    | failed cause' =>
      obtain ⟨before, last, left', visits_eq, answered, refused', left_eq⟩ := answers
      rw [visits_eq] at met
      rcases List.mem_append.mp met with earlier | latest
      · exact absurd earlier (unanswered answered)
      · obtain rfl := List.mem_singleton.mp latest
        obtain ⟨rfl, rfl⟩ : cause = cause' ∧ left = left' := by
          simpa using refused.symm.trans refused'
        exact ⟨by rw [visits_eq, List.getLast?_concat], failure_eq, tree_eq.trans left_eq⟩

/-- **Where a pass stops,** in every format. A pass that fails stopped at the last of its visits,
and the document is as it was then but for attributes of the element that was visited; or it was
through with the walk, and a paragraph cannot be unravelled. -/
theorem stopped_enrichAs {stop : Stop EnrichError}
    (failed : (tree.enrichAs format settings).failure = some stop) :
    (∃ visit head children tail failure,
      (tree.visits format settings).getLast? = some visit ∧
        visit.walk.place.children[visit.index]? = some (.element head children tail) ∧
        Change.Refused format settings (visit.walk.site tail) head children failure ∧
        stop = .failed failure.cause ∧
        (tree.enrichAs format settings).tree =
          (visit.walk.place.setChild visit.index (.element failure.head children tail)).root) ∨
      ∃ cause, stop = .failed (.format cause) ∧
        (Enrich.walk format settings tree).stop = none ∧
        (tree.enrichAs format settings).tree = (Enrich.walk format settings tree).tree ∧
        (Enrich.walk format settings tree).tree.unravelAs format = .error cause := by
  obtain ⟨tree_eq, stopped | ⟨through, cause, stop_eq, refused⟩⟩ := Node.stop_of_failure failed
  · have enabled : settings.enable = true := by
      by_contra disabled
      simp [Node.enrichAs, disabled] at failed
    obtain ⟨cause, rfl⟩ : ∃ cause, stop = .failed cause := by
      cases stop with
      | failed cause => exact ⟨cause, rfl⟩
      | outOfBudget =>
        obtain ⟨ends, same⟩ := Enrich.walk_ends format settings tree 0
        exact absurd stopped (same ▸ ends)
    have answers := Node.answers_visits format tree enabled
    rw [stopped] at answers
    obtain ⟨before, visit, left, visits_eq, -, called, left_eq⟩ := answers
    have latest : (tree.visits format settings).getLast? = some visit := by
      rw [visits_eq, List.getLast?_concat]
    obtain ⟨-, head, children, tail, here, -⟩ :=
      Node.right_of_visits (List.mem_of_getLast? latest)
    cases done : Change.ofElement format settings (visit.walk.site tail) head children with
    | ok change => simp [Enrich.visitor, here, done] at called
    | error failure =>
      obtain ⟨left', called', place_eq, -⟩ := Enrich.visitor_refused here done
      obtain ⟨rfl, rfl⟩ : cause = failure.cause ∧ left = left' := by
        simpa using called.symm.trans called'
      refine .inl ⟨visit, head, children, tail, failure, latest, here,
        Change.ofElement_refused done, rfl, ?_⟩
      rw [tree_eq, left_eq, place_eq]
  · exact .inr ⟨cause, stop_eq, through, tree_eq, refused⟩

end passes

/-! ## Merges that stop -/

namespace Attributes

variable {format : Format} {attributes : Attributes} {derived : AttributeSet}

/-- A merge stops at its first entry, or goes on behind it from other attributes. -/
theorem merge_cases (format : Format) (attributes : Attributes) (name : String) (value : Derived) :
    (∃ cause, mergeEntry format name value attributes = .error cause ∧
        ∀ rest, merge format attributes ((name, value) :: rest) = ⟨attributes, [], some cause⟩) ∨
      ∃ next, ∀ rest,
        (merge format attributes ((name, value) :: rest)).failure =
            (merge format next rest).failure ∧
          (merge format attributes ((name, value) :: rest)).attributes =
            (merge format next rest).attributes := by
  cases skipped : isSkipped name value with
  | true => exact .inr ⟨attributes, fun rest => by simp [merge, skipped]⟩
  | false =>
    cases written : mergeEntry format name value attributes with
    | error cause => exact .inl ⟨cause, rfl, fun rest => by simp [merge, skipped, written]⟩
    | ok next => exact .inr ⟨next, fun rest => by simp [merge, skipped, written]⟩

/-- A merge that fails has merged what comes before the entry that cannot be written. -/
theorem merge_failed {cause : MergeError}
    (failed : (merge format attributes derived).failure = some cause) :
    ∃ before name value rest, derived = before ++ (name, value) :: rest ∧
      (merge format attributes before).failure = none ∧
      mergeEntry format name value (merge format attributes before).attributes = .error cause ∧
      (merge format attributes derived).attributes =
        (merge format attributes before).attributes := by
  induction derived generalizing attributes with
  | nil => cases failed
  | cons entry rest ih =>
    obtain ⟨name, value⟩ := entry
    rcases merge_cases format attributes name value with ⟨cause', refused, stops⟩ | ⟨next, goesOn⟩
    · rw [stops rest] at failed ⊢
      cases failed
      exact ⟨[], name, value, rest, rfl, rfl, refused, rfl⟩
    · obtain ⟨failure_eq, attributes_eq⟩ := goesOn rest
      rw [failure_eq] at failed
      obtain ⟨before, name', value', rest', rfl, works, refused, same⟩ := ih failed
      refine ⟨(name, value) :: before, name', value', rest', rfl, ?_⟩
      rw [attributes_eq, (goesOn before).1, (goesOn before).2]
      exact ⟨works, refused, same⟩

/-- A name that cannot be read is not written, so a merge does not get past it. -/
theorem failure_of_unreadable {name : String} {value : Derived} {refusal : FormatError}
    (mem : (name, value) ∈ derived) (written : isSkipped name value = false)
    (unreadable : format.readName name = .error refusal) :
    (merge format attributes derived).failure ≠ none := by
  intro works
  induction derived generalizing attributes with
  | nil => cases mem
  | cons entry rest ih =>
    rcases List.mem_cons.mp mem with rfl | later
    · have refused : ∃ cause, mergeEntry format name value attributes = .error cause := by
        unfold mergeEntry
        split
        · exact ⟨_, rfl⟩
        · exact ⟨.format refusal, by rw [Format.put, unreadable]; rfl⟩
      obtain ⟨cause, refused⟩ := refused
      simp [merge, written, refused] at works
    · rcases merge_cases format attributes entry.1 entry.2 with ⟨cause, -, stops⟩ | ⟨next, goesOn⟩
      · rw [stops rest] at works
        cases works
      · exact ih later ((goesOn rest).1.symm.trans works)

end Attributes

/-- A call of the visitor stops while the attributes that a title derives are merged. The source,
the alt text and the title of the element are edited by then, and so are the attributes in front of
the one that is refused. -/
def Enrich.StopsMerging (format : Format) (settings : Settings) (walk : Walk (List Event))
    (index : Nat) (head : Head) (children : List Node) (tail : String) (request : Request)
    (derived : AttributeSet) : Prop :=
  ∃ before entry rest cause left, derived = before ++ entry :: rest ∧
    (request.merge format before head).failure = none ∧
    Enrich.visitor format settings walk index = .error (.merge cause, left) ∧
    left.place = walk.place.setChild index
      (.element { head with attributes := (request.merge format before head).attributes } children
        tail) ∧
    left.ancestors = walk.place.chain

section visitor

variable {format : Format} {place : Place} {index : Nat} {head : Head} {children : List Node}
  {tail : String} {request : Request} {derived : AttributeSet}

/-- **A name that cannot be read stops a pass.** Its element is left with some of its attributes
edited. -/
theorem visitor_of_unreadable (settings : Settings) (events : List Event)
    {name : String} {value : Derived} {refusal : FormatError}
    (here : place.children[index]? = some (.element head children tail))
    (asked : Request.ofHead? head
      (Walk.site tail ⟨place, place.chain, events⟩).surroundings.insideLink = some request)
    (derives : request.derive = .ok derived)
    (holds : format.checkTexts (request.writes head.tag) = .ok ())
    (mem : (name, value) ∈ derived) (written : Attributes.isSkipped name value = false)
    (unreadable : format.readName name = .error refusal) :
    Enrich.StopsMerging format settings ⟨place, place.chain, events⟩ index head children tail
      request derived := by
  have stops : (request.merge format derived head).failure ≠ none :=
    Attributes.failure_of_unreadable mem written unreadable
  obtain ⟨cause, failed⟩ := Option.ne_none_iff_exists'.mp stops
  obtain ⟨before, name', value', rest, split, works, -, same⟩ := Attributes.merge_failed failed
  have refused : ∃ more, Change.ofElement format settings
      (Walk.site tail ⟨place, place.chain, events⟩) head children =
        .error ⟨.merge cause,
          { head with attributes := (request.merge format before head).attributes }, more⟩ := by
    rw [Request.merge] at failed
    simp only [Change.ofElement, asked, derives, Change.carryOut, holds, failed, same,
      Request.merge]
    exact ⟨_, rfl⟩
  obtain ⟨more, refused⟩ := refused
  obtain ⟨left, called, place_eq, ancestors_eq⟩ := Enrich.visitor_refused here refused
  exact ⟨before, (name', value'), rest, cause, left, split, works, called, place_eq, ancestors_eq⟩

end visitor

/-! ## What the edits write -/

namespace Format

variable {format : Format}

theorem checkTexts_of_forall {texts : List String}
    (holds : ∀ text ∈ texts, format.checkText text = .ok ()) :
    format.checkTexts texts = .ok () := by
  induction texts with
  | nil => rfl
  | cons text rest ih =>
    rw [List.forall_mem_cons] at holds
    change (format.checkText text >>= fun _ => format.checkTexts rest) = .ok ()
    rw [holds.1]
    exact ih holds.2

/-- Texts of characters that are held can be held. -/
theorem checkText_of_chars {text : String}
    (known : ∀ c ∈ text.toList, ∃ old : String, c ∈ old.toList ∧ format.checkText old = .ok ()) :
    format.checkText text = .ok () := by
  cases format with
  | data => exact checkText_data text
  | markup =>
    have each : text.toList.all isMarkupChar = true := by
      rw [List.all_eq_true]
      intro c mem
      obtain ⟨old, mem', held⟩ := known c mem
      by_contra refused
      have some : old.toList.all isMarkupChar = false :=
        List.all_eq_false.mpr ⟨c, mem', refused⟩
      rw [checkText, some] at held
      cases held
    rw [checkText, each]
    rfl

end Format

theorem Link.mem_of_mem_source {source : String} {insideLink : Bool} {c : Char}
    (mem : c ∈ (ofSource source insideLink).source.toList) : c ∈ source.toList := by
  unfold ofSource at mem
  split at mem
  · rename_i wrapper text wrapped
    rw [← String.toList_ofList (l := text), wrapped?_iff] at wrapped
    obtain ⟨opening, -, closing, -, rfl⟩ := wrapped
    rw [String.toList_append, String.toList_append]
    exact List.mem_append_left _ (List.mem_append_right _ mem)
  · exact mem

namespace Caption

theorem unmark_suffix (cs : List Char) : (unmark cs).2 <:+ cs := by
  fun_induction unmark cs with
  | case1 rest ih | case2 rest ih | case3 rest ih => exact ih.trans (List.suffix_cons _ _)
  | case4 rest ih => exact ih.trans (List.suffix_append "caption:".toList rest)
  | case5 => exact List.suffix_rfl

theorem mem_of_mem_marked {alt : Option String} {mode : CaptionMode} {text : String} {c : Char}
    (marked : ofAlt? alt = .marked mode text) (mem : c ∈ text.toList) :
    ∃ old, alt = some old ∧ c ∈ old.toList := by
  cases alt with
  | none => cases marked
  | some old =>
    have suffix := unmark_suffix old.toList
    rw [ofAlt?, ofAlt] at marked
    split at marked
    · rename_i unmarked
      cases marked
      rw [unmarked] at suffix
      rw [String.toList_ofList] at mem
      exact ⟨old, rfl, suffix.subset mem⟩
    · cases marked

end Caption

theorem Title.mem_of_mem_text {title : Option String} {text : String} {c : Char}
    (kept : (parse? title).text = some text) (mem : c ∈ text.toList) :
    ∃ old, title = some old ∧ c ∈ old.toList := by
  cases title with
  | none => cases kept
  | some old =>
    refine ⟨old, rfl, ?_⟩
    simp only [parse?, parse, split] at kept
    split at kept
    · cases kept
      rwa [String.toList_ofList] at mem
    · rename_i before behind found
      dsimp only at kept
      split at kept
      · cases kept
      · cases kept
        rw [String.toList_ofList] at mem
        rw [Text.eq_of_cut found]
        exact List.mem_append_left _ (Text.mem_of_mem_strip mem)

namespace Request

variable {head : Head} {insideLink : Bool} {request : Request}

/-- The edits of an element write no characters but those of its source, its alt text and its
title. -/
theorem mem_of_mem_writes (asked : ofHead? head insideLink = some request)
    {text : String} {c : Char} (written : text ∈ request.writes head.tag) (mem : c ∈ text.toList) :
    ∃ name ∈ ["src", "alt", "title"], ∃ old,
      head.attributes.text? name = some old ∧ c ∈ old.toList := by
  obtain ⟨source, present, -, caption, link, -, -, titleText, title⟩ := ofHead?_eq_some asked
  rw [writes, List.cons_append, List.mem_cons, List.mem_append] at written
  rcases written with rfl | written | written
  · rw [link] at mem
    exact ⟨"src", by simp, source, present, Link.mem_of_mem_source mem⟩
  · cases marked : request.caption with
    | plain alt => simp [marked] at written
    | marked mode alt =>
      have same : text = alt := by
        simp only [marked] at written
        split at written
        · exact List.mem_singleton.mp written
        · cases written
      subst same
      obtain ⟨old, present, mem⟩ := Caption.mem_of_mem_marked (caption.symm.trans marked) mem
      exact ⟨"alt", by simp, old, present, mem⟩
  · have kept : request.title.text = some text := by
      split at written
      · cases written
      · exact Option.mem_toList.mp written
    rw [title, titleText] at kept
    obtain ⟨old, present, mem⟩ := Title.mem_of_mem_text kept mem
    exact ⟨"title", by simp, old, present, mem⟩

/-- An element whose texts can be held can be edited. -/
theorem checkTexts_writes (asked : ofHead? head insideLink = some request) {format : Format}
    (holds : ∀ name ∈ ["src", "alt", "title"], ∀ text, head.attributes.text? name = some text →
      format.checkText text = .ok ()) : format.checkTexts (request.writes head.tag) = .ok () := by
  refine Format.checkTexts_of_forall fun text written => Format.checkText_of_chars fun c mem => ?_
  obtain ⟨name, listed, old, present, mem'⟩ := mem_of_mem_writes asked written mem
  exact ⟨old, mem', holds name listed old present⟩

end Request

/-! ## Keys with an open brace -/

/-- A name that opens a namespace and does not close it. -/
def OpensNamespace (name : String) : Prop :=
  ∃ rest, name.toList = '\x7b' :: rest ∧ '\x7d' ∉ rest

namespace OpensNamespace

variable {name : String}

theorem ne_of_head (opens : OpensNamespace name) {other : String}
    (elsewhere : other.toList.head? ≠ some '\x7b') : name ≠ other := by
  rintro rfl
  obtain ⟨rest, chars, -⟩ := opens
  exact elsewhere (by rw [chars]; rfl)

/-- Markup does not read it. -/
theorem unreadable (opens : OpensNamespace name) (noBlank : ' ' ∉ name.toList) :
    ∃ refusal, Format.markup.readName name = .error refusal := by
  obtain ⟨rest, chars, unclosed⟩ := opens
  have unsplit : QualifiedName.split? name.toList = none := by
    rw [QualifiedName.split?, Text.dropWhile_ne_of_notMem noBlank]
  have unbraced : Format.readBraced rest = .error .openNamespace := by
    rw [Format.readBraced, Text.dropWhile_ne_of_notMem unclosed]
  cases held : Format.markup.checkText name with
  | error refusal => exact ⟨refusal, by simp [Format.readName, held, bind, Except.bind]⟩
  | ok =>
    refine ⟨.openNamespace, ?_⟩
    rw [chars] at unsplit
    simp only [Format.readName, held, unsplit, chars, unbraced, bind, Except.bind]

/-- In a title it is the name of an attribute. -/
theorem isNaming (opens : OpensNamespace name) : Directive.IsNaming name := by
  refine ⟨?_, ?_, ?_, ?_⟩
  · obtain ⟨rest, chars, -⟩ := opens
    exact ⟨'\x7b', rest, chars, by decide, by decide⟩
  · obtain ⟨rest, chars, -⟩ := opens
    have noDigit : Text.isDecimal '\x7b' = false := by decide
    simp [chars, Effect.dimensions?, Effect.takeSize, noDigit]
  · have other : (name == "lazy") = false := beq_eq_false_iff_ne.mpr (opens.ne_of_head (by decide))
    rw [Effect.flagAliases, List.lookup_cons, other]
    rfl
  · simp [opens.ne_of_head (show "style".toList.head? ≠ _ by decide),
      opens.ne_of_head (show "class".toList.head? ≠ _ by decide),
      opens.ne_of_head (show "width".toList.head? ≠ _ by decide),
      opens.ne_of_head (show "height".toList.head? ≠ _ by decide)]

end OpensNamespace

/-! ## Titles that give such a key -/

/-- Where no directive fails, what is given under a naming key is an effect on its attribute. -/
theorem Reading.given_all {key kind : String} {sized : Bool} {directives : List Directive}
    {directive : Directive} (naming : Directive.IsNaming key)
    (read : (all kind sized directives).findSome? failure? = none)
    (given : directive ∈ directives) (keyed : directive.key = key) :
    directive.given ∈
      (((all kind sized directives).flatMap effectsOf).filter (Effect.on key)).map
        Effect.value := by
  induction directives generalizing sized with
  | nil => cases given
  | cons first rest ih =>
    obtain ⟨later, all_eq, read'⟩ := all_cons read
    rw [all_eq, List.flatMap_cons, List.filter_append, List.map_append, List.mem_append]
    rcases List.mem_cons.mp given with rfl | given
    · left
      rw [on_ofDirective naming kind sized keyed]
      exact List.mem_singleton_self _
    · exact .inr (ih read' given)

namespace Request

variable {head : Head} {insideLink : Bool} {request : Request} {derived : AttributeSet}

/-- A naming key that a title gives is a name that it derives. -/
theorem text_of_naming {directive : Directive} (derives : request.derive = .ok derived)
    (naming : Directive.IsNaming directive.key) (given : directive ∈ request.title.directives) :
    ∃ text, (directive.key, .text text) ∈ derived := by
  obtain ⟨read, collected⟩ := Directive.effects_of_collected derives
  have plain : directive.key ∉ ["class", "style"] := by
    have plain := naming.plain
    simp only [List.mem_cons, List.not_mem_nil, or_false, not_or] at plain ⊢
    exact ⟨plain.2.1, plain.1⟩
  have last := AttributeSet.text_collect plain collected
  have effect := Reading.given_all naming read given rfl
  rw [Directive.readings, List.getLast?_eq_some_getLast (List.ne_nil_of_mem effect)] at last
  exact ⟨_, Entries.mem_of_get? last⟩

/-- Where a title gives a key that opens a namespace, it derives a name that markup cannot read. -/
theorem unreadable_of_opensNamespace {directive : Directive}
    (asked : ofHead? head insideLink = some request) (derives : request.derive = .ok derived)
    (given : directive ∈ head.title.directives) (opens : OpensNamespace directive.key) :
    ∃ value refusal, (directive.key, value) ∈ derived ∧
      Attributes.isSkipped directive.key value = false ∧
      Format.markup.readName directive.key = .error refusal := by
  have naming := opens.isNaming
  have noBlank : ' ' ∉ directive.key.toList := by
    have valid := Directive.isValidKey_of_parse? given
    simp only [Directive.isValidKey, Bool.and_eq_true, Bool.not_eq_true', List.any_eq_false]
      at valid
    exact fun blank => valid.2 _ blank (by decide)
  obtain ⟨text, mem⟩ := text_of_naming derives naming (title_eq asked ▸ given)
  obtain ⟨refusal, unreadable⟩ := opens.unreadable noBlank
  have plain := naming.plain
  simp only [List.mem_cons, List.not_mem_nil, or_false, not_or] at plain
  exact ⟨.text text, refusal, mem, by simp [Attributes.isSkipped, plain], unreadable⟩

end Request

/-- **An open brace stops a call of the visitor.** Where a title holds a key that opens a namespace
and does not close it, its element can be edited, but the merge does not get past that key. -/
theorem visitor_of_opensNamespace (settings : Settings) {place : Place} (events : List Event)
    {index : Nat} {head : Head} {children : List Node} {tail : String} {request : Request}
    {derived : AttributeSet} {directive : Directive}
    (here : place.children[index]? = some (.element head children tail))
    (asked : Request.ofHead? head
      (Walk.site tail ⟨place, place.chain, events⟩).surroundings.insideLink = some request)
    (derives : request.derive = .ok derived)
    (holds : ∀ name ∈ ["src", "alt", "title"], ∀ text, head.attributes.text? name = some text →
      Format.markup.checkText text = .ok ())
    (given : directive ∈ head.title.directives) (opens : OpensNamespace directive.key) :
    Enrich.StopsMerging .markup settings ⟨place, place.chain, events⟩ index head children tail
      request derived := by
  obtain ⟨value, refusal, mem, written, unreadable⟩ :=
    Request.unreadable_of_opensNamespace asked derives given opens
  exact visitor_of_unreadable settings events here asked derives
    (Request.checkTexts_writes asked holds) mem written unreadable

/-- **No pass over markup gets past an open brace.** If an element with a source is visited whose
title holds such a key, that is the last visit: the pass fails, and nothing but attributes of the
element is edited by it. -/
theorem stopped_of_opensNamespace {settings : Settings} {tree : Node} {visit : Visit (List Event)}
    {head : Head} {children : List Node} {tail : String} {directive : Directive}
    (met : visit ∈ tree.visits .markup settings)
    (here : visit.walk.place.children[visit.index]? = some (.element head children tail))
    (shown : head.source? ≠ none) (given : directive ∈ head.title.directives)
    (opens : OpensNamespace directive.key) :
    (tree.visits .markup settings).getLast? = some visit ∧ ∃ cause attributes,
      (tree.enrichAs .markup settings).failure = some (.failed cause) ∧
        (tree.enrichAs .markup settings).tree = (visit.walk.place.setChild visit.index
          (.element { head with attributes } children tail)).root := by
  cases done : Change.ofElement .markup settings (visit.walk.site tail) head children with
  | ok change =>
    cases Change.ofElement_handled done with
    | untouched unasked => exact absurd (Request.source?_of_unasked unasked) shown
    | changed asked derives merges =>
      obtain ⟨value, refusal, mem, written, unreadable⟩ :=
        Request.unreadable_of_opensNamespace asked derives given opens
      exact absurd merges (Attributes.failure_of_unreadable mem written unreadable)
  | error failure =>
    obtain ⟨attributes, head_eq⟩ := (Change.ofElement_refused done).head_eq
    obtain ⟨left, called, place_eq, -⟩ := Enrich.visitor_refused here done
    obtain ⟨latest, failure_eq, tree_eq⟩ := Node.last_of_refused met called
    exact ⟨latest, failure.cause, attributes, failure_eq, by rw [tree_eq, place_eq, head_eq]⟩

/-- A class in front of a key with an open brace is merged, and a width behind it is not. -/
example :
    let media := Node.element (.new "img" [("src", .text "[x.png]"),
      ("title", .text "t > .b \x7ba=1 width=2")] "") [] ""
    let outcome := (Node.around "div" [media]).enrichAs .markup .default
    outcome.failure = some (.failed (.merge (.format .openNamespace))) ∧
      (outcome.tree.children.filterMap Node.head?).map
          (fun head => ["src", "title", "class", "width"].map head.attributes.text?) =
        [[some "x.png", some "t", some "b", none]] := by
  decide +kernel

end MediaMarkup
