import Mustache.Partial.Custom
/-!
The partials of one parser. They live in slots that are only ever added; names are mapped to slots.
A slot is reserved before the source of its partial is read and filled afterwards, so that a partial
can refer to itself. Main statements: what each operation does to the mapping of names and to the
content of slots; a slot that is filled keeps its content.
-/
namespace Mustache

/-- What a reference to a filled slot stands for. -/
inductive Content where
  /-- The body of a partial, whose references point into the same registry. -/
  | parsed (elements : Forest PartialRef)
  | registered (value : Partial)

/-- A place for a partial. -/
structure Slot where
  /-- The name the slot was made for. -/
  name : String
  /-- Nothing until the slot is filled. -/
  content : Option Content

/-- Slots and the names mapped to them. -/
structure Registry where
  names : List (String × Nat)
  slots : List Slot

namespace Registry

/-- A registry without partials. -/
def empty : Registry := ⟨[], []⟩

/-- The slot a name is mapped to. -/
def index? (r : Registry) (name : String) : Option Nat := r.names.lookup name

/-- Whether a name is mapped. -/
def has (r : Registry) (name : String) : Bool := (r.index? name).isSome

/-- The names without one of them. -/
def without (r : Registry) (name : String) : List (String × Nat) :=
  r.names.filter (·.1 != name)

/-- Maps a name to a new slot. -/
def add (r : Registry) (name : String) (content : Option Content) : Registry :=
  { names := (name, r.slots.length) :: r.without name
    slots := r.slots ++ [⟨name, content⟩] }

/-- Maps a name to a new slot that is still empty. -/
def reserve (r : Registry) (name : String) : Registry := r.add name none

/-- Maps a name to a new slot for a partial the caller supplies. -/
def register (r : Registry) (name : String) (value : Partial) : Registry :=
  r.add name (some (.registered value))

/-- Takes a name off a slot, unless it has been mapped to another one since. -/
def release (r : Registry) (name : String) (index : Nat) : Registry :=
  if r.index? name = some index then { r with names := r.without name } else r

/-- Fills a slot that is still empty with the body of a partial. -/
def fill (r : Registry) (index : Nat) (elements : Forest PartialRef) : Registry :=
  { r with
    slots := r.slots.modify index fun slot =>
      { slot with content := slot.content.or (some (.parsed elements)) } }

/-- What a slot holds. -/
def content? (r : Registry) (index : Nat) : Option Content := r.slots[index]?.bind (·.content)

/-- A reference to a name, bound to the slot the name is mapped to. A name that is not mapped is
bound to the slot past the last one, which stands for nothing. -/
def refer (r : Registry) (name : String) : PartialRef :=
  ⟨name, (r.index? name).getD r.slots.length⟩

/-- Taking out the entries of one name does not touch any other. -/
theorem lookup_filter_ne {β : Type} (name other : String) (h : other ≠ name) :
    ∀ names : List (String × β), (names.filter (·.1 != name)).lookup other = names.lookup other
  | [] => rfl
  | (known, b) :: rest => by
    have ih := lookup_filter_ne name other h rest
    by_cases hk : known = name
    · subst hk
      simp [List.lookup_cons, ih, beq_eq_false_iff_ne.mpr h]
    · by_cases ho : other = known <;> simp [List.lookup_cons, hk, ih]

/-- Taking out the entries of a name leaves none. -/
theorem lookup_filter_self {β : Type} (name : String) :
    ∀ names : List (String × β), (names.filter (·.1 != name)).lookup name = none
  | [] => rfl
  | (known, b) :: rest => by
    by_cases hk : known = name
    · simp [hk, lookup_filter_self name rest]
    · simp [List.lookup_cons, hk, lookup_filter_self name rest,
        beq_eq_false_iff_ne.mpr (Ne.symm hk)]

/-- A name that has been added is mapped to the new slot, and all others are mapped as before. -/
theorem index?_add (r : Registry) (name other : String) (content : Option Content) :
    (r.add name content).index? other =
      if other = name then some r.slots.length else r.index? other := by
  by_cases h : other = name
  · simp [index?, add, h]
  · simp [index?, add, without, List.lookup_cons, beq_eq_false_iff_ne.mpr h,
      lookup_filter_ne name other h, h]

/-- A name that has been released is not mapped if it was mapped to that slot. -/
theorem index?_release (r : Registry) (name other : String) (index : Nat) :
    (r.release name index).index? other =
      if other = name ∧ r.index? name = some index then none else r.index? other := by
  unfold release
  by_cases h : r.index? name = some index
  · rw [if_pos h]
    by_cases ho : other = name
    · rw [if_pos ⟨ho, h⟩, ho]
      exact lookup_filter_self name r.names
    · rw [if_neg fun both => ho both.1]
      exact lookup_filter_ne name other ho r.names
  · simp [h]

/-- Filling a slot does not touch the names. -/
@[simp] theorem index?_fill (r : Registry) (index : Nat) (elements : Forest PartialRef)
    (name : String) : (r.fill index elements).index? name = r.index? name := rfl

/-- Adding a name leaves every earlier slot as it is. -/
theorem content?_add_of_lt (r : Registry) (name : String) (content : Option Content) {index : Nat}
    (h : index < r.slots.length) : (r.add name content).content? index = r.content? index := by
  simp [content?, add, List.getElem?_append_left h]

/-- The slot that a name is added with holds what it was added with. -/
theorem content?_add_length (r : Registry) (name : String) (content : Option Content) :
    (r.add name content).content? r.slots.length = content := by
  simp [content?, add]

/-- Releasing a name leaves every slot as it is. -/
@[simp] theorem content?_release (r : Registry) (name : String) (index slot : Nat) :
    (r.release name index).content? slot = r.content? slot := by
  unfold release
  split <;> rfl

/-- Filling takes effect on a slot that is still empty, and on no other one. -/
theorem content?_fill (r : Registry) (index slot : Nat) (elements : Forest PartialRef)
    (h : index < r.slots.length) :
    (r.fill index elements).content? slot =
      if slot = index then (r.content? index).or (some (.parsed elements)) else r.content? slot := by
  by_cases hs : slot = index
  · subst hs
    simp [content?, fill, List.getElem?_modify_eq, List.getElem?_eq_getElem h]
  · simp [content?, fill, hs, List.getElem?_modify_ne, Ne.symm hs]

end Registry

end Mustache
