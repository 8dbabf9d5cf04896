import Mustache.Template.Reader
/-!
References in reading order. A reader notes the names of partials as it meets them, beside the
elements it builds. Main statement: when a text is read without a flaw, the names noted are exactly
the references of its element tree, so that binding the names binds the tree.
-/
namespace Mustache

variable {ρ τ : Type}

namespace Forest

@[simp] theorem targets_nil : Forest.targets ([] : Forest ρ) = [] := rfl

@[simp] theorem targets_cons (element : Element ρ) (rest : Forest ρ) :
    Forest.targets (element :: rest) = element.targets ++ Forest.targets rest := rfl

@[simp] theorem targets_append (first second : Forest ρ) :
    Forest.targets (first ++ second) = Forest.targets first ++ Forest.targets second := by
  induction first with
  | nil => rfl
  | cons element rest ih => simp [ih]

/-- The references of an element are references of every forest it stands in. -/
theorem mem_targets {forest : Forest ρ} {element : Element ρ} {target : ρ}
    (member : element ∈ forest) (refers : target ∈ element.targets) : target ∈ forest.targets := by
  induction forest with
  | nil => cases member
  | cons first rest ih =>
    rw [targets_cons, List.mem_append]
    rcases List.mem_cons.mp member with same | later
    · subst same
      exact .inl refers
    · exact .inr (ih later)

end Forest

namespace Element

@[simp] theorem targets_text (content : String) : (Element.text content : Element ρ).targets = [] :=
  rfl

@[simp] theorem targets_escaped (path : String) : (Element.escaped path : Element ρ).targets = [] :=
  rfl

@[simp] theorem targets_raw (path : String) : (Element.raw path : Element ρ).targets = [] := rfl

@[simp] theorem targets_block (path : String) (children : Forest ρ) :
    (Element.block path children).targets = Forest.targets children := rfl

@[simp] theorem targets_inverted (path : String) (children : Forest ρ) :
    (Element.inverted path children).targets = Forest.targets children := rfl

@[simp] theorem targets_reference (target : ρ) : (Element.reference target).targets = [target] :=
  rfl

mutual

theorem targets_map (f : ρ → τ) : ∀ element : Element ρ,
    (element.map f).targets = element.targets.map f
  | .text _ | .escaped _ | .raw _ | .reference _ => rfl
  | .block _ children | .inverted _ children => targetsAll_mapAll f children

theorem targetsAll_mapAll (f : ρ → τ) : ∀ forest : Forest ρ,
    targetsAll (mapAll f forest) = (targetsAll forest).map f
  | [] => rfl
  | element :: rest => by
    simp only [mapAll, targetsAll, List.map_append, targets_map f element,
      targetsAll_mapAll f rest]

end

mutual

theorem map_map {υ : Type} (f : ρ → τ) (g : τ → υ) : ∀ element : Element ρ,
    (element.map f).map g = element.map (g ∘ f)
  | .text _ | .escaped _ | .raw _ | .reference _ => rfl
  | .block path children => congrArg (Element.block path) (mapAll_mapAll f g children)
  | .inverted path children => congrArg (Element.inverted path) (mapAll_mapAll f g children)

theorem mapAll_mapAll {υ : Type} (f : ρ → τ) (g : τ → υ) : ∀ forest : Forest ρ,
    mapAll g (mapAll f forest) = mapAll (g ∘ f) forest
  | [] => rfl
  | element :: rest => by
    simp only [mapAll, map_map f g element, mapAll_mapAll f g rest]

end

mutual

theorem map_id : ∀ element : Element ρ, element.map id = element
  | .text _ | .escaped _ | .raw _ | .reference _ => rfl
  | .block path children => congrArg (Element.block path) (mapAll_id children)
  | .inverted path children => congrArg (Element.inverted path) (mapAll_id children)

theorem mapAll_id : ∀ forest : Forest ρ, mapAll id forest = forest
  | [] => rfl
  | element :: rest => by simp only [mapAll, map_id element, mapAll_id rest]

end

mutual

theorem map_congr {f g : ρ → τ} : ∀ element : Element ρ,
    (∀ target ∈ element.targets, f target = g target) → element.map f = element.map g
  | .text _, _ | .escaped _, _ | .raw _, _ => rfl
  | .reference target, same => congrArg Element.reference (same target List.mem_cons_self)
  | .block path children, same => congrArg (Element.block path) (mapAll_congr children same)
  | .inverted path children, same => congrArg (Element.inverted path) (mapAll_congr children same)

theorem mapAll_congr {f g : ρ → τ} : ∀ forest : Forest ρ,
    (∀ target ∈ targetsAll forest, f target = g target) → mapAll f forest = mapAll g forest
  | [], _ => rfl
  | element :: rest, same => by
    have here := map_congr element fun target member => same target (List.mem_append_left _ member)
    have later := mapAll_congr rest fun target member =>
      same target (List.mem_append_right _ member)
    simp only [mapAll, here, later]

end

end Element

namespace Forest

/-- Replacing references replaces them in reading order. -/
@[simp] theorem targets_map (f : ρ → τ) (forest : Forest ρ) :
    (forest.map f).targets = forest.targets.map f :=
  Element.targetsAll_mapAll f forest

/-- What references are replaced with matters for those that occur only. -/
theorem map_congr {f g : ρ → τ} {forest : Forest ρ}
    (same : ∀ target ∈ forest.targets, f target = g target) : forest.map f = forest.map g :=
  Element.mapAll_congr forest same

end Forest

@[simp] theorem OpenSection.targets_element (s : OpenSection) (children : Forest String) :
    (s.element children).targets = children.targets := by
  unfold OpenSection.element
  split <;> rfl

namespace Reader

/-- The references of the elements before the open sections, outermost section first. -/
def pendingTargets (sections : List OpenSection) : List String :=
  sections.reverse.flatMap fun s => Forest.targets s.before.reverse

/-- The references of everything read so far, in reading order. -/
def mentioned (r : Reader) : List String :=
  pendingTargets r.sections ++ Forest.targets r.siblings.reverse

/-- The names noted so far are the references read so far. -/
def Tallies (r : Reader) : Prop := r.references.reverse = r.mentioned

@[simp] theorem pendingTargets_cons (s : OpenSection) (sections : List OpenSection) :
    pendingTargets (s :: sections) =
      pendingTargets sections ++ Forest.targets s.before.reverse := by
  simp [pendingTargets]

theorem targets_withText (back : List Char) (siblings : List (Element String)) :
    Forest.targets (withText back siblings).reverse = Forest.targets siblings.reverse := by
  unfold withText
  split <;> simp

theorem leave_tallies {r next : Reader} {name : String} (tallies : r.Tallies)
    (left : r.leave name = .ok next) : next.Tallies := by
  obtain ⟨s, sections, stack, -, rfl⟩ := exists_of_leave left
  unfold Tallies mentioned at tallies ⊢
  simp [stack] at tallies ⊢
  exact tallies

theorem apply_tallies {r next : Reader} {tag : Tag} (tallies : r.Tallies)
    (applied : r.apply tag = .ok next) : next.Tallies := by
  cases tag with
  | close name => exact leave_tallies tallies applied
  | escaped path | raw path | openBlock path | openInverted path | reference name
  | delimiters pair | comment =>
    cases applied
    unfold Tallies mentioned at tallies ⊢
    simp [add, enter, tallies]

theorem take_tallies {r next : Reader} {c : Char} (tallies : r.Tallies)
    (taken : r.take c = .ok next) : next.Tallies := by
  obtain ⟨back, closed⟩ | ⟨back, closed⟩ | ⟨back, rfl⟩ | ⟨place, back, rfl, -⟩ :=
    take_cases taken
  · obtain ⟨tag, -, applied⟩ := exists_of_closeTag closed
    exact apply_tallies tallies applied
  · obtain ⟨-, rfl⟩ := eq_of_closeRaw closed
    unfold Tallies mentioned at tallies ⊢
    simp [add, tallies]
  · unfold Tallies mentioned at tallies ⊢
    simp only [targets_withText]
    exact tallies
  · exact tallies

theorem step_tallies {r next : Reader} {c : Char} (tallies : r.Tallies)
    (stepped : r.step c = .ok next) : next.Tallies :=
  take_tallies (r := { r with line := if c = '\n' then r.line + 1 else r.line }) tallies stepped

theorem run_tallies {r last : Reader} {cs : List Char} (tallies : r.Tallies)
    (ran : r.run cs = .ok last) : last.Tallies :=
  run_induction step_tallies tallies ran

theorem finish_targets {r : Reader} {forest : Forest String} (tallies : r.Tallies)
    (finished : r.finish = .ok forest) : forest.targets = r.references.reverse := by
  unfold finish at finished
  split at finished
  · split at finished
    · rename_i none
      cases finished
      unfold Tallies mentioned at tallies
      rw [tallies, targets_withText, List.isEmpty_iff.mp none]
      simp [pendingTargets]
    · cases finished
  · cases finished
  · cases finished
  · cases finished

/-- The number of names noted when a reading goes on or ends. -/
def noted : Except Stop Reader → Nat
  | .ok r => r.references.length
  | .error stopped => stopped.references.length

theorem leave_notes (r : Reader) (name : String) : noted (r.leave name) = r.references.length := by
  unfold leave
  split
  · split <;> rfl
  · rfl

theorem apply_notes (r : Reader) (tag : Tag) : noted (r.apply tag) ≤ r.references.length + 1 := by
  cases tag with
  | close name =>
    rw [apply, leave_notes]
    exact Nat.le_succ _
  | reference name => exact Nat.le_refl _
  | escaped path | raw path | openBlock path | openInverted path | delimiters pair | comment =>
    exact Nat.le_succ _

/-- A character completes one tag at most. -/
theorem step_notes (r : Reader) (c : Char) : noted (r.step c) ≤ r.references.length + 1 := by
  unfold step take closeTag closeRaw
  split
  · split <;> exact Nat.le_succ _
  · split <;> exact Nat.le_succ _
  · split
    · split
      · exact apply_notes _ _
      · exact Nat.le_succ _
    · exact Nat.le_succ _
  · split
    · split <;> exact Nat.le_succ _
    · exact Nat.le_succ _

theorem run_notes (r : Reader) (cs : List Char) :
    noted (r.run cs) ≤ r.references.length + cs.length := by
  induction cs generalizing r with
  | nil => exact Nat.le_refl _
  | cons c rest ih =>
    have first := step_notes r c
    rw [run, List.length_cons]
    cases stepped : r.step c with
    | error stopped =>
      rw [stepped] at first
      exact Nat.le_trans first (by omega)
    | ok next =>
      rw [stepped] at first
      have later := ih next
      have counted : next.references.length ≤ r.references.length + 1 := first
      exact Nat.le_trans later (by omega)

end Reader

/-- A text has no more references than characters. -/
theorem Outline.length_references_le (text : String) :
    (Outline.ofText text).references.length ≤ text.length := by
  have notes := Reader.run_notes .start text.toList
  rw [String.length_toList] at notes
  unfold Outline.ofText
  cases ran : Reader.start.run text.toList with
  | ok last =>
    rw [ran] at notes
    simpa [Reader.outline, Reader.noted, Reader.start] using notes
  | error stopped =>
    rw [ran] at notes
    simpa [Reader.noted, Reader.start] using notes

/-- The names noted while a sound text was read are the references of its tree. -/
theorem Outline.targets_eq_references {text : String} {forest : Forest String}
    (sound : (Outline.ofText text).result = .ok forest) :
    forest.targets = (Outline.ofText text).references := by
  unfold Outline.ofText at sound ⊢
  split at sound
  · rename_i last ran
    have tallies : last.Tallies := Reader.run_tallies (r := .start) rfl ran
    unfold Reader.outline at sound ⊢
    cases finished : last.finish with
    | error flaw =>
      rw [finished] at sound
      cases sound
    | ok tree =>
      rw [finished] at sound
      cases sound
      exact Reader.finish_targets tallies finished
  · cases sound

end Mustache
