import Mustache.Proofs.Template.Spelling
import Mustache.Template.Reader
/-!
Well-formed forests. Literal texts are not empty; paths and names are not empty and have no white
space at either end; and the path of an escaped value does not start with a character that would
give a tag another meaning. Main statement: whatever a reader takes in, under any delimiters, the
elements it has built are well-formed.
-/
namespace Mustache

namespace Text

/-- Whether a text has no white space at either end. -/
def Trimmed (cs : List Char) : Prop :=
  (∀ c ∈ cs.head?, isBlank c = false) ∧ ∀ c ∈ cs.getLast?, isBlank c = false

instance (cs : List Char) : Decidable (Trimmed cs) :=
  letI head := cs.head?.decidableForallMem (p := fun c => isBlank c = false)
  letI last := cs.getLast?.decidableForallMem (p := fun c => isBlank c = false)
  @instDecidableAnd _ _ head last

theorem head_trimLeft (cs : List Char) {c : Char} (head : c ∈ (trimLeft cs).head?) :
    isBlank c = false := by
  have first := List.head?_dropWhile_not isBlank cs
  rw [Option.mem_def, trimLeft] at head
  simpa only [head] using first

theorem trimLeft_eq_self {cs : List Char} (head : ∀ c ∈ cs.head?, isBlank c = false) :
    trimLeft cs = cs := by
  cases cs with
  | nil => rfl
  | cons c rest =>
    have plain := head c (by simp)
    simp [trimLeft, plain]

theorem trim_trimmed (cs : List Char) : Trimmed (trim cs) := by
  constructor
  · intro c head
    have kept : trim cs <+: trimLeft cs := by
      have suffix := List.dropWhile_suffix isBlank (l := (trimLeft cs).reverse)
      rw [trim, trimLeft, ← List.reverse_suffix, List.reverse_reverse]
      exact suffix
    obtain ⟨rest, whole⟩ := List.head?_eq_some_iff.mp head
    obtain ⟨more, longer⟩ := kept
    refine head_trimLeft cs ?_
    rw [← longer, whole]
    simp
  · intro c last
    rw [trim, List.getLast?_reverse] at last
    exact head_trimLeft _ last

theorem trim_eq_self {cs : List Char} (trimmed : Trimmed cs) : trim cs = cs := by
  have last : ∀ c ∈ cs.reverse.head?, isBlank c = false := by
    rw [List.head?_reverse]
    exact trimmed.2
  rw [trim, trimLeft_eq_self trimmed.1, trimLeft_eq_self last, List.reverse_reverse]

end Text

/-- Whether a text can be a path or a name: not empty and without white space at either end. -/
def IsName (name : String) : Prop := name ≠ "" ∧ Text.Trimmed name.toList

instance (name : String) : Decidable (IsName name) := instDecidableAnd

theorem isName_trim {cs : List Char} (nonempty : Text.trim cs ≠ []) :
    IsName (String.ofList (Text.trim cs)) := by
  constructor
  · simpa using nonempty
  · rw [String.toList_ofList]
    exact Text.trim_trimmed cs

namespace Element

mutual

/-- Whether an element is one that some tag or text can denote. -/
def WellFormed : Element String → Prop
  | .text content => content ≠ ""
  | .escaped path => IsName path ∧ ∀ c ∈ path.toList.head?, c ∉ Tag.sigils
  | .raw path => IsName path
  | .block path children | .inverted path children => IsName path ∧ WellFormedAll children
  | .reference name => IsName name

/-- Whether all elements of a forest are well-formed. -/
def WellFormedAll : Forest String → Prop
  | [] => True
  | element :: rest => element.WellFormed ∧ WellFormedAll rest

end

mutual

/-- Whether an element is well-formed can be decided. -/
def decideWellFormed : ∀ element : Element String, Decidable element.WellFormed
  | .text _ => inferInstanceAs (Decidable (_ ≠ _))
  | .escaped path =>
    letI free := path.toList.head?.decidableForallMem (p := fun c => c ∉ Tag.sigils)
    @instDecidableAnd (IsName path) _ _ free
  | .raw path | .reference path => inferInstanceAs (Decidable (IsName path))
  | .block path children | .inverted path children =>
    letI := decideWellFormedAll children
    inferInstanceAs (Decidable (IsName path ∧ WellFormedAll children))

/-- Whether a forest is well-formed can be decided. -/
def decideWellFormedAll : ∀ forest : Forest String, Decidable (WellFormedAll forest)
  | [] => isTrue trivial
  | element :: rest =>
    letI := decideWellFormed element
    letI := decideWellFormedAll rest
    inferInstanceAs (Decidable (element.WellFormed ∧ WellFormedAll rest))

end

end Element

namespace Forest

/-- Whether all elements of a forest, at any depth, are ones that some tag or text can denote. -/
def WellFormed (forest : Forest String) : Prop := Element.WellFormedAll forest

instance (forest : Forest String) : Decidable forest.WellFormed :=
  Element.decideWellFormedAll forest

theorem wellFormed_iff {forest : Forest String} :
    forest.WellFormed ↔ ∀ element ∈ forest, element.WellFormed := by
  induction forest with
  | nil => simp [WellFormed, Element.WellFormedAll]
  | cons element rest ih =>
    rw [WellFormed] at ih ⊢
    simp [Element.WellFormedAll, ih]

end Forest

theorem Element.wellFormed_block {path : String} {children : Forest String} :
    (Element.block path children).WellFormed ↔ IsName path ∧ children.WellFormed := by
  rw [WellFormed, Forest.WellFormed]

theorem Element.wellFormed_inverted {path : String} {children : Forest String} :
    (Element.inverted path children).WellFormed ↔ IsName path ∧ children.WellFormed := by
  rw [WellFormed, Forest.WellFormed]

/-- What a tag asks for has a name that a well-formed element can have. -/
def Tag.Formed : Tag → Prop
  | .escaped path => (Element.escaped path).WellFormed
  | .raw path | .openBlock path | .openInverted path | .reference path => IsName path
  | .close _ | .delimiters _ | .comment => True

theorem Tag.formed_ofBody {cs : List Char} {tag : Tag}
    (read : Tag.ofBody (Text.trim cs) = .ok tag) : tag.Formed := by
  have spelled := Tag.ofBody_eq_ok_iff.mp read
  generalize whole : Text.trim cs = body at spelled
  cases spelled with
  | escaped nonempty plain =>
    subst whole
    refine ⟨isName_trim nonempty, fun c head => plain c ?_⟩
    rwa [String.toList_ofList] at head
  | raw nonempty | openBlock nonempty | openInverted nonempty | reference nonempty =>
    exact isName_trim nonempty
  | close | delimiters | comment => trivial

namespace Reader

/-- Everything that a reader has built is well-formed. -/
structure Formed (r : Reader) : Prop where
  siblings : ∀ element ∈ r.siblings, element.WellFormed
  path : ∀ s ∈ r.sections, IsName s.path
  before : ∀ s ∈ r.sections, ∀ element ∈ s.before, element.WellFormed

variable {r next : Reader}

theorem start_formed : start.Formed :=
  ⟨List.forall_mem_nil _, List.forall_mem_nil _, List.forall_mem_nil _⟩

theorem withText_formed {siblings : List (Element String)} (back : List Char)
    (formed : ∀ element ∈ siblings, element.WellFormed) :
    ∀ element ∈ withText back siblings, element.WellFormed := by
  unfold withText
  split
  · exact formed
  · rename_i nonempty
    have written : (Element.text (String.ofList back.reverse)).WellFormed := by
      rw [Element.WellFormed]
      simpa using nonempty
    exact List.forall_mem_cons.mpr ⟨written, formed⟩

theorem Formed.add (formed : r.Formed) {element : Element String}
    (wellFormed : element.WellFormed) : (r.add element).Formed :=
  ⟨List.forall_mem_cons.mpr ⟨wellFormed, formed.siblings⟩, formed.path, formed.before⟩

theorem Formed.enter (formed : r.Formed) {path : String} (isName : IsName path)
    (isInverted : Bool) : (r.enter path isInverted).Formed where
  siblings := List.forall_mem_nil _
  path := List.forall_mem_cons.mpr ⟨isName, formed.path⟩
  before := List.forall_mem_cons.mpr ⟨formed.siblings, formed.before⟩

theorem Formed.leave (formed : r.Formed) {name : String} (left : r.leave name = .ok next) :
    next.Formed := by
  obtain ⟨s, sections, stack, -, rfl⟩ := exists_of_leave left
  have path := formed.path
  have before := formed.before
  rw [stack, List.forall_mem_cons] at path before
  have children : Forest.WellFormed r.siblings.reverse := by
    rw [Forest.wellFormed_iff]
    simpa using formed.siblings
  have closed : (s.element r.siblings.reverse).WellFormed := by
    unfold OpenSection.element
    split
    · exact Element.wellFormed_inverted.mpr ⟨path.1, children⟩
    · exact Element.wellFormed_block.mpr ⟨path.1, children⟩
  exact ⟨List.forall_mem_cons.mpr ⟨closed, before.1⟩, path.2, before.2⟩

theorem Formed.apply (formed : r.Formed) {tag : Tag} (tagged : tag.Formed)
    (applied : r.apply tag = .ok next) : next.Formed := by
  cases tag with
  | close name => exact formed.leave applied
  | escaped path =>
    cases applied
    exact formed.add tagged
  | raw path =>
    cases applied
    have wellFormed : (Element.raw path).WellFormed := by rwa [Element.WellFormed]
    exact formed.add wellFormed
  | reference name =>
    cases applied
    have wellFormed : (Element.reference name).WellFormed := by rwa [Element.WellFormed]
    have added := formed.add wellFormed
    exact ⟨added.siblings, added.path, added.before⟩
  | openBlock path | openInverted path =>
    cases applied
    exact formed.enter tagged _
  | delimiters pair | comment =>
    cases applied
    exact ⟨formed.siblings, formed.path, formed.before⟩

/-- One more character. -/
theorem Formed.step (formed : r.Formed) {c : Char} (stepped : r.step c = .ok next) :
    next.Formed := by
  have counted : ({ r with line := if c = '\n' then r.line + 1 else r.line } : Reader).Formed :=
    ⟨formed.siblings, formed.path, formed.before⟩
  unfold Reader.step at stepped
  generalize ({ r with line := if c = '\n' then r.line + 1 else r.line } : Reader) = r'
    at counted stepped
  obtain ⟨back, closed⟩ | ⟨back, closed⟩ | ⟨back, rfl⟩ | ⟨place, back, rfl, -⟩ :=
    take_cases stepped
  · obtain ⟨tag, read, applied⟩ := exists_of_closeTag closed
    exact counted.apply (Tag.formed_ofBody read) applied
  · obtain ⟨nonempty, rfl⟩ := eq_of_closeRaw closed
    exact counted.add (by simpa [Element.WellFormed] using isName_trim nonempty)
  · exact ⟨withText_formed _ counted.siblings, counted.path, counted.before⟩
  · exact ⟨counted.siblings, counted.path, counted.before⟩

/-- Any number of characters. -/
theorem Formed.run (formed : r.Formed) {cs : List Char} (ran : r.run cs = .ok next) :
    next.Formed :=
  run_induction (fun formed stepped => formed.step stepped) formed ran

theorem Formed.finish (formed : r.Formed) {forest : Forest String}
    (finished : r.finish = .ok forest) : forest.WellFormed := by
  unfold Reader.finish at finished
  split at finished
  · split at finished
    · cases finished
      rw [Forest.wellFormed_iff]
      simpa using withText_formed r.back formed.siblings
    · cases finished
  · cases finished
  · cases finished
  · cases finished

end Reader

end Mustache
