import MediaMarkup.Document.Walk

/-!
Walks that also note what they meet. `Visitor.noting` notes something of every call of a visitor, in
the order of the calls; `run_noting` says that a walk does the same with it as without it.
`Visitor.traced` is the case that notes the heads of the elements.
-/

namespace MediaMarkup

variable {σ τ ε : Type}

/-- A visitor that also notes something of each of its calls. -/
def Visitor.noting (note : Walk σ → Nat → List τ) (visitor : Visitor σ ε) :
    Visitor (σ × List τ) ε := fun walk index =>
  let noted := walk.memory.2 ++ note ⟨walk.place, walk.ancestors, walk.memory.1⟩ index
  match visitor ⟨walk.place, walk.ancestors, walk.memory.1⟩ index with
  | .ok (found, next) => .ok (found, ⟨next.place, next.ancestors, (next.memory, noted)⟩)
  | .error (cause, left) => .error (cause, ⟨left.place, left.ancestors, (left.memory, noted)⟩)

/-- A visitor that also notes the head of every element that it is called for. -/
def Visitor.traced (visitor : Visitor σ ε) : Visitor (σ × List Head) ε :=
  visitor.noting fun walk index => (walk.place.children[index]?.bind Node.head?).toList

namespace Walk

/-- The walk without its notes. -/
def untraced (walk : Walk (σ × τ)) : Walk σ :=
  ⟨walk.place, walk.ancestors, walk.memory.1⟩

@[simp] theorem untraced_place (walk : Walk (σ × τ)) : walk.untraced.place = walk.place := rfl

section

variable {note : Walk σ → Nat → List τ} {visitor : Visitor σ ε} {index : Nat}

theorem noting_ok {walk next : Walk (σ × List τ)} {found : Option Nat}
    (h : visitor.noting note walk index = .ok (found, next)) :
    visitor walk.untraced index = .ok (found, next.untraced) ∧
      next.memory.2 = walk.memory.2 ++ note walk.untraced index := by
  unfold Visitor.noting at h
  rcases called : visitor ⟨walk.place, walk.ancestors, walk.memory.1⟩ index with
    ⟨cause, left⟩ | ⟨found', next'⟩
  · simp [called] at h
  · simp only [called, Except.ok.injEq, Prod.mk.injEq] at h
    obtain ⟨rfl, rfl⟩ := h
    exact ⟨called, rfl⟩

theorem noting_error {walk left : Walk (σ × List τ)} {cause : ε}
    (h : visitor.noting note walk index = .error (cause, left)) :
    visitor walk.untraced index = .error (cause, left.untraced) ∧
      left.memory.2 = walk.memory.2 ++ note walk.untraced index := by
  unfold Visitor.noting at h
  rcases called : visitor ⟨walk.place, walk.ancestors, walk.memory.1⟩ index with
    ⟨cause', left'⟩ | ⟨found, next⟩
  · simp only [called, Except.error.injEq, Prod.mk.injEq] at h
    obtain ⟨rfl, rfl⟩ := h
    exact ⟨called, rfl⟩
  · simp [called] at h

end

theorem traced_ok {visitor : Visitor σ ε} {walk next : Walk (σ × List Head)} {index : Nat}
    {found : Option Nat} (h : visitor.traced walk index = .ok (found, next)) :
    visitor walk.untraced index = .ok (found, next.untraced) ∧
      next.memory.2 =
        walk.memory.2 ++ (walk.place.children[index]?.bind Node.head?).toList :=
  noting_ok h

theorem untraced_enter (index : Nat) (head : Head) (children : List Node) (tail : String)
    (walk : Walk (σ × τ)) :
    (walk.enter index head children tail).untraced =
      walk.untraced.enter index head children tail := rfl

theorem untraced_resume (walk inner : Walk (σ × τ)) :
    (walk.resume inner).untraced = walk.untraced.resume inner.untraced := rfl

/-- The result of a walk without its notes. -/
def untracedResult : Except (Stop ε × Walk (σ × τ)) (Walk (σ × τ)) →
    Except (Stop ε × Walk σ) (Walk σ)
  | .ok walk => .ok walk.untraced
  | .error (stop, walk) => .error (stop, walk.untraced)

/-- Noting the calls changes nothing else. -/
theorem run_noting (note : Walk σ → Nat → List τ) (visitor : Visitor σ ε) (tags : List String)
    (budget index : Nat) (walk : Walk (σ × List τ)) :
    untracedResult (run (visitor.noting note) tags budget index walk) =
      run visitor tags budget index walk.untraced := by
  induction budget generalizing index walk with
  | zero => rfl
  | succ budget ih =>
    unfold run
    simp only [untraced_place]
    cases walk.place.children[index]? with
    | none => rfl
    | some node =>
      cases node with
      | comment text tail => exact ih (index + 1) walk
      | instruction text tail => exact ih (index + 1) walk
      | element head children tail =>
        by_cases wanted : head.tag ∈ tags
        · simp only [wanted, ↓reduceIte, Visitor.noting, untraced]
          rcases visitor ⟨walk.place, walk.ancestors, walk.memory.1⟩ index with
            ⟨cause, left⟩ | ⟨found, next⟩
          · rfl
          · exact ih (found.getD index + 1) ⟨next.place, next.ancestors, (next.memory, _)⟩
        · simp only [wanted, ↓reduceIte, ← untraced_enter, ← ih]
          rcases run (visitor.noting note) tags budget 0 (walk.enter index head children tail) with
            stop | inner
          · rfl
          · simp only [untracedResult, ← untraced_resume, ← ih]

theorem run_traced (visitor : Visitor σ ε) (tags : List String) (budget index : Nat)
    (walk : Walk (σ × List Head)) :
    untracedResult (run visitor.traced tags budget index walk) =
      run visitor tags budget index walk.untraced :=
  run_noting _ visitor tags budget index walk

section

variable {υ : Type} {note : Walk σ → Nat → List τ} (f : τ → List υ)

/-- The walk with other notes in the place of each one. -/
def renoted (walk : Walk (σ × List τ)) : Walk (σ × List υ) :=
  ⟨walk.place, walk.ancestors, (walk.memory.1, walk.memory.2.flatMap f)⟩

/-- A walk that notes what can be told from other notes notes just that. -/
theorem run_renoted {visitor : Visitor σ ε} {tags : List String} {budget index : Nat}
    {walk last : Walk (σ × List τ)}
    (ran : run (visitor.noting note) tags budget index walk = .ok last) :
    run (visitor.noting fun walk index => (note walk index).flatMap f) tags budget index
      (walk.renoted f) = .ok (last.renoted f) := by
  induction budget generalizing index walk last with
  | zero => cases ran
  | succ budget ih =>
    unfold run at ran ⊢
    have place_eq : (walk.renoted f).place = walk.place := rfl
    rw [place_eq]
    cases here : walk.place.children[index]? with
    | none =>
      simp only [here, Except.ok.injEq] at ran
      exact ran ▸ rfl
    | some node =>
      simp only [here] at ran
      cases node with
      | comment | instruction => exact ih ran
      | element head children tail =>
        by_cases wanted : head.tag ∈ tags
        · simp only [wanted, ↓reduceIte, Visitor.noting, renoted] at ran ⊢
          rcases called : visitor ⟨walk.place, walk.ancestors, walk.memory.1⟩ index with
            ⟨cause, left⟩ | ⟨found, next⟩
          · simp [called] at ran
          · simp only [called] at ran
            simpa [renoted] using ih ran
        · simp only [wanted, ↓reduceIte] at ran ⊢
          rcases entered : run (visitor.noting note) tags budget 0
              (walk.enter index head children tail) with stop | inner
          · simp [entered] at ran
          · simp only [entered] at ran
            have entered' : (walk.enter index head children tail).renoted f =
                (walk.renoted f).enter index head children tail := rfl
            simp only [← entered', ih entered]
            exact ih ran

end

end Walk

end MediaMarkup
