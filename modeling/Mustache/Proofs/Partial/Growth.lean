import Mustache.Partial.Registry
import Mustache.Proofs.Template.References
/-!
How a registry grows. Slots are only ever added, and a slot that stands keeps its content, so a
registry before a step is a beginning of the registry after it. Main statements: the relation
`Grows` is kept by one step after another, by filling a reserved slot and by releasing it; and a
slot made on the way holds a partial exactly if its name is still mapped to it.
-/
namespace Mustache.Registry

variable {before middle after : Registry}

/-- Every mapped name has a slot that was made for it. -/
def Indexed (r : Registry) : Prop :=
  ∀ name index, r.index? name = some index →
    ∃ slot, r.slots[index]? = some slot ∧ slot.name = name

/-- A reference to a slot that was made for the name referred to. -/
def Points (r : Registry) (ref : PartialRef) : Prop :=
  ∃ slot, r.slots[ref.slot]? = some slot ∧ slot.name = ref.name

/-- What the slots made after `before` look like: they hold bodies of partials whose references
point into the registry, and one of them holds a body exactly if its name is mapped to it. -/
structure FreshSlot (after : Registry) (index : Nat) (slot : Slot) : Prop where
  mapped : slot.content.isSome ↔ after.index? slot.name = some index
  body : ∀ content, slot.content = some content →
    ∃ elements, content = .parsed elements ∧ ∀ ref ∈ elements.targets, after.Points ref

/-- A registry before and after references were bound, whether or not all of them could be. -/
structure Grows (before after : Registry) : Prop where
  slots : before.slots <+: after.slots
  kept : ∀ name index, before.index? name = some index → after.index? name = some index
  fresh : ∀ name index, after.index? name = some index → before.index? name = none →
    before.slots.length ≤ index ∧ ∃ slot, after.slots[index]? = some slot ∧ slot.name = name
  made : ∀ index slot, before.slots.length ≤ index → after.slots[index]? = some slot →
    after.FreshSlot index slot

/-- Every slot made since is still the one its name is mapped to. -/
def Settles (before after : Registry) : Prop :=
  ∀ index slot, before.slots.length ≤ index → after.slots[index]? = some slot →
    after.index? slot.name = some index

theorem slot_of_extends (grown : before.slots <+: after.slots) {index : Nat}
    (old : index < before.slots.length) : after.slots[index]? = before.slots[index]? := by
  obtain ⟨added, eq⟩ := grown
  rw [← eq, List.getElem?_append_left old]

theorem slot_mono (grown : before.slots <+: after.slots) {index : Nat} {slot : Slot}
    (stands : before.slots[index]? = some slot) : after.slots[index]? = some slot := by
  rw [slot_of_extends grown (List.getElem?_eq_some_iff.mp stands).1, stands]

theorem Points.mono {ref : PartialRef} (points : before.Points ref)
    (grown : before.slots <+: after.slots) : after.Points ref := by
  obtain ⟨slot, stands, named⟩ := points
  exact ⟨slot, slot_mono grown stands, named⟩

theorem Points.lt {r : Registry} {ref : PartialRef} (points : r.Points ref) :
    ref.slot < r.slots.length := by
  obtain ⟨slot, stands, _⟩ := points
  exact (List.getElem?_eq_some_iff.mp stands).1

/-- A slot that a reference points to keeps what it holds. -/
theorem content_of_points {ref : PartialRef} (points : before.Points ref)
    (grown : before.slots <+: after.slots) :
    after.content? ref.slot = before.content? ref.slot := by
  unfold content?
  rw [slot_of_extends grown points.lt]

/-- A reference to a mapped name points to the slot of that name. -/
theorem refer_points {r : Registry} (indexed : r.Indexed) {name : String}
    (mapped : r.has name = true) : r.Points (r.refer name) := by
  obtain ⟨index, found⟩ := Option.isSome_iff_exists.mp mapped
  have same : (r.refer name).slot = index := by simp [refer, found]
  unfold Points
  rw [same]
  exact indexed name index found

theorem has_mono (kept : ∀ name index, before.index? name = some index →
    after.index? name = some index) {name : String} (mapped : before.has name = true) :
    after.has name = true := by
  obtain ⟨index, found⟩ := Option.isSome_iff_exists.mp mapped
  simp [has, kept name index found]

theorem has_eq_false_iff {r : Registry} {name : String} :
    r.has name = false ↔ r.index? name = none :=
  Option.isSome_eq_false_iff.trans Option.isNone_iff_eq_none

theorem ne_of_unknown {r : Registry} {name other : String} {index : Nat}
    (unknown : r.index? name = none) (mapped : r.index? other = some index) : other ≠ name := by
  rintro rfl
  rw [unknown] at mapped
  cases mapped

theorem FreshSlot.mono {index : Nat} {slot : Slot} (fresh : middle.FreshSlot index slot)
    (stands : middle.slots[index]? = some slot) (grown : middle.Grows after) :
    after.FreshSlot index slot := by
  constructor
  · rw [fresh.mapped]
    constructor
    · exact grown.kept slot.name index
    · intro mapped
      cases known : middle.index? slot.name with
      | none =>
        -- a name mapped later has a later slot
        have later := (grown.fresh slot.name index mapped known).1
        have earlier := (List.getElem?_eq_some_iff.mp stands).1
        omega
      | some other =>
        have same := grown.kept slot.name other known
        rw [mapped] at same
        exact same.symm
  · intro content held
    obtain ⟨elements, eq, pointing⟩ := fresh.body content held
    exact ⟨elements, eq, fun ref member => (pointing ref member).mono grown.slots⟩

namespace Grows

theorem refl (r : Registry) : r.Grows r where
  slots := List.prefix_refl r.slots
  kept _ _ found := found
  fresh name index found unknown := by
    rw [found] at unknown
    cases unknown
  made index slot new stands := by
    have old := (List.getElem?_eq_some_iff.mp stands).1
    omega

theorem trans (first : before.Grows middle) (second : middle.Grows after) :
    before.Grows after where
  slots := first.slots.trans second.slots
  kept name index found := second.kept name index (first.kept name index found)
  fresh name index found unknown := by
    cases known : middle.index? name with
    | none =>
      obtain ⟨later, slot, stands, named⟩ := second.fresh name index found known
      exact ⟨Nat.le_trans first.slots.length_le later, slot, stands, named⟩
    | some other =>
      have same := second.kept name other known
      rw [found] at same
      cases same
      obtain ⟨later, slot, stands, named⟩ := first.fresh name index known unknown
      exact ⟨later, slot, slot_mono second.slots stands, named⟩
  made index slot new stands := by
    by_cases old : index < middle.slots.length
    · rw [slot_of_extends second.slots old] at stands
      exact (first.made index slot new stands).mono stands second
    · exact second.made index slot (Nat.le_of_not_lt old) stands

theorem indexed (grown : before.Grows after) (indexed : before.Indexed) : after.Indexed := by
  intro name index found
  cases known : before.index? name with
  | none => exact (grown.fresh name index found known).2
  | some other =>
    have same := grown.kept name other known
    rw [found] at same
    cases same
    obtain ⟨slot, stands, named⟩ := indexed name index known
    exact ⟨slot, slot_mono grown.slots stands, named⟩

end Grows

theorem Settles.trans (first : before.Settles middle) (second : middle.Settles after)
    (grown : middle.Grows after) : before.Settles after := by
  intro index slot new stands
  by_cases old : index < middle.slots.length
  · rw [slot_of_extends grown.slots old] at stands
    exact grown.kept _ _ (first index slot new stands)
  · exact second index slot (Nat.le_of_not_lt old) stands

theorem Settles.refl (r : Registry) : r.Settles r := by
  intro index slot new stands
  have old := (List.getElem?_eq_some_iff.mp stands).1
  omega

/-- The slot that a name is reserved in stands behind all others and is empty. -/
theorem reserve_slots (r : Registry) (name : String) :
    (r.reserve name).slots = r.slots ++ [⟨name, none⟩] := rfl

theorem reserve_length (r : Registry) (name : String) :
    (r.reserve name).slots.length = r.slots.length + 1 := by
  rw [reserve_slots, List.length_append, List.length_singleton]

theorem reserve_index (r : Registry) (name other : String) :
    (r.reserve name).index? other =
      if other = name then some r.slots.length else r.index? other :=
  index?_add r name other none

theorem reserve_index_self (r : Registry) (name : String) :
    (r.reserve name).index? name = some r.slots.length := by
  rw [reserve_index, if_pos rfl]

/-- Names that are mapped stay mapped to their slots when another one is reserved. -/
theorem reserve_kept {r : Registry} {name other : String} {index : Nat}
    (unknown : r.index? name = none) (mapped : r.index? other = some index) :
    (r.reserve name).index? other = some index := by
  rw [reserve_index, if_neg (ne_of_unknown unknown mapped), mapped]

theorem release_kept {r : Registry} {name other : String} {index taken : Nat}
    (different : other ≠ name) (mapped : r.index? other = some index) :
    (r.release name taken).index? other = some index := by
  rw [index?_release, if_neg fun both => different both.1, mapped]

theorem reserve_indexed {r : Registry} (indexed : r.Indexed) (name : String) :
    (r.reserve name).Indexed := by
  intro other index found
  rw [reserve_index] at found
  rw [reserve_slots]
  split at found
  · rename_i same
    cases found
    exact ⟨⟨name, none⟩, by simp, same.symm⟩
  · obtain ⟨slot, stands, named⟩ := indexed other index found
    exact ⟨slot, by rw [List.getElem?_append_left (List.getElem?_eq_some_iff.mp stands).1, stands],
      named⟩

section Reserved

variable {r bound : Registry} {name : String}

/-- Binding the references of a body leaves the slot reserved for the body as it was. -/
theorem reserved_slot (grown : (r.reserve name).Grows bound) :
    bound.slots[r.slots.length]? = some ⟨name, none⟩ :=
  slot_mono grown.slots (by simp [reserve_slots])

theorem reserved_index (grown : (r.reserve name).Grows bound) :
    bound.index? name = some r.slots.length :=
  grown.kept name r.slots.length (reserve_index_self r name)

theorem reserved_extends (grown : (r.reserve name).Grows bound) : r.slots <+: bound.slots :=
  List.IsPrefix.trans ⟨[⟨name, none⟩], (reserve_slots r name).symm⟩ grown.slots

theorem fill_slot_of_ne (r : Registry) {index other : Nat} (elements : Forest PartialRef)
    (different : other ≠ index) : (r.fill index elements).slots[other]? = r.slots[other]? := by
  simp [fill, List.getElem?_modify_ne, Ne.symm different]

theorem fill_slot_self {r : Registry} {index : Nat} {slot : Slot} (elements : Forest PartialRef)
    (stands : r.slots[index]? = some slot) (empty : slot.content = none) :
    (r.fill index elements).slots[index]? = some ⟨slot.name, some (.parsed elements)⟩ := by
  simp [fill, List.getElem?_modify_eq, stands, empty]

theorem Points.fill {r : Registry} {ref : PartialRef} (points : r.Points ref) (index : Nat)
    (elements : Forest PartialRef) : (r.fill index elements).Points ref := by
  obtain ⟨slot, stands, named⟩ := points
  by_cases same : ref.slot = index
  · refine ⟨{ slot with content := slot.content.or (some (.parsed elements)) }, ?_, named⟩
    rw [same] at stands ⊢
    simp [Registry.fill, List.getElem?_modify_eq, stands]
  · exact ⟨slot, by rw [fill_slot_of_ne r elements same, stands], named⟩

/-- Filling the reserved slot, once the references of the body point into the registry. -/
theorem Grows.fill (grown : (r.reserve name).Grows bound) {elements : Forest PartialRef}
    (pointing : ∀ ref ∈ elements.targets, bound.Points ref)
    (unknown : r.index? name = none) : r.Grows (bound.fill r.slots.length elements) where
  slots := by
    refine List.prefix_iff_getElem?.mpr fun index old => ?_
    rw [fill_slot_of_ne bound elements (Nat.ne_of_lt old),
      slot_of_extends (reserved_extends grown) old, List.getElem?_eq_getElem old]
  kept other index found := by
    rw [index?_fill]
    exact grown.kept other index (reserve_kept unknown found)
  fresh other index found unheard := by
    rw [index?_fill] at found
    by_cases same : other = name
    · subst same
      rw [reserved_index grown] at found
      cases found
      exact ⟨Nat.le_refl _, _, fill_slot_self elements (reserved_slot grown) rfl, rfl⟩
    · obtain ⟨later, slot, stands, named⟩ := grown.fresh other index found
        (by rw [reserve_index, if_neg same, unheard])
      rw [reserve_length] at later
      exact ⟨by omega, slot, by rw [fill_slot_of_ne bound elements (by omega), stands], named⟩
  made index slot new stands := by
    by_cases same : index = r.slots.length
    · subst same
      rw [fill_slot_self elements (reserved_slot grown) rfl] at stands
      cases stands
      refine ⟨by simp [reserved_index grown], ?_⟩
      intro content held
      cases held
      exact ⟨elements, rfl, fun ref member => (pointing ref member).fill _ _⟩
    · rw [fill_slot_of_ne bound elements same] at stands
      have made := grown.made index slot
        (by rw [reserve_length]; omega) stands
      refine ⟨made.mapped, ?_⟩
      intro content held
      obtain ⟨body, eq, within⟩ := made.body content held
      exact ⟨body, eq, fun ref member => (within ref member).fill _ _⟩

@[simp] theorem release_slots (r : Registry) (name : String) (index : Nat) :
    (r.release name index).slots = r.slots := by
  unfold release
  split <;> rfl

theorem Points.release {r : Registry} {ref : PartialRef} (points : r.Points ref) (name : String)
    (index : Nat) : (r.release name index).Points ref := by
  unfold Points
  rw [release_slots]
  exact points

/-- Taking the name off the reserved slot, which stays empty. -/
theorem Grows.release (grown : (r.reserve name).Grows bound) (unknown : r.index? name = none) :
    r.Grows (bound.release name r.slots.length) where
  slots := by
    rw [release_slots]
    exact reserved_extends grown
  kept other index found :=
    release_kept (ne_of_unknown unknown found)
      (grown.kept other index (reserve_kept unknown found))
  fresh other index found unheard := by
    rw [index?_release] at found
    split at found
    · cases found
    · rename_i other_name
      have different : other ≠ name := fun same => other_name ⟨same, reserved_index grown⟩
      obtain ⟨later, slot, stands, named⟩ := grown.fresh other index found
        (by rw [reserve_index, if_neg different, unheard])
      rw [reserve_length] at later
      exact ⟨by omega, slot, by rw [release_slots, stands], named⟩
  made index slot new stands := by
    rw [release_slots] at stands
    by_cases same : index = r.slots.length
    · subst same
      rw [reserved_slot grown] at stands
      cases stands
      refine ⟨?_, fun content held => by cases held⟩
      simp [index?_release, reserved_index grown]
    · have made := grown.made index slot
        (by rw [reserve_length]; omega) stands
      refine ⟨?_, ?_⟩
      · rw [made.mapped, index?_release]
        split
        · rename_i both
          rw [both.1, reserved_index grown]
          simp only [Option.some.injEq, reduceCtorEq, iff_false]
          exact Ne.symm same
        · exact Iff.rfl
      · intro content held
        obtain ⟨body, eq, within⟩ := made.body content held
        exact ⟨body, eq, fun ref member => (within ref member).release _ _⟩

/-- Once the reserved slot is filled, every slot made since it was reserved is in use. -/
theorem Settles.fill (settled : (r.reserve name).Settles bound)
    (grown : (r.reserve name).Grows bound) (elements : Forest PartialRef) :
    r.Settles (bound.fill r.slots.length elements) := by
  intro index slot new stands
  rw [index?_fill]
  by_cases same : index = r.slots.length
  · subst same
    rw [fill_slot_self elements (reserved_slot grown) rfl] at stands
    cases stands
    exact reserved_index grown
  · rw [fill_slot_of_ne bound elements same] at stands
    exact settled index slot
      (by rw [reserve_length]; omega) stands

end Reserved

end Mustache.Registry
