import Mathlib.Data.List.Basic
import Mustache.Value.Lookup
/-!
What a name means on a value itself, told kind by kind and not by how it is looked up. Null, truth
values, numbers and streams give no name a meaning; an entry or field that holds null does have one.
Main statement: looking a name up on a value finds exactly what the name means on it.
-/
namespace Mustache.Value

/-- The first of some entries that has a name. -/
def IsFirstEntry (entries : List (String × Value)) (name : String) (value : Value) : Prop :=
  ∃ before after, entries = before ++ (name, value) :: after ∧ ∀ entry ∈ before, entry.1 ≠ name

/-- A name that spells an index: at least one digit, after at most one plus sign. -/
def Spells (name : String) (index : Nat) : Prop :=
  ∃ digits, (name.toList = digits ∨ name.toList = '+' :: digits) ∧ digits ≠ [] ∧
    (∀ c ∈ digits, c.isDigit = true) ∧ Number.digitsValue digits = index

/-- What a name means on a value. -/
inductive Means : Value → String → Value → Prop where
  | entry {entries : List (String × Value)} {name : String} {value : Value} :
      IsFirstEntry entries name value → Means (.map entries) name value
  | size {items : List Value} : Means (.seq items) "size" (.ofNat items.length)
  | length {items : List Value} : Means (.seq items) "length" (.ofNat items.length)
  | item {items : List Value} {name : String} {index : Nat} {item : Value} :
      Spells name index → items[index]? = some item → Means (.seq items) name item
  | characters {s : String} : Means (.text s) "length" (.ofNat s.length)
  | variant {self : Handle} {variant : String} {variants : List String}
      {fields : List (String × Value)} :
      Means (.enumeration self variant variants fields) "name" (.text variant)
  /-- The place of the current variant in the order of declaration. -/
  | ordinal {self : Handle} {variant : String} {variants : List String}
      {fields : List (String × Value)} {index : Nat} : variants[index]? = some variant →
      (∀ earlier < index, variants[earlier]? ≠ some variant) →
      Means (.enumeration self variant variants fields) "ordinal" (.ofNat index)
  | own {self : Handle} {variant : String} {variants : List String}
      {fields : List (String × Value)} {name : String} {value : Value} :
      name ≠ "name" → name ≠ "ordinal" → IsFirstEntry fields name value →
      Means (.enumeration self variant variants fields) name value
  | field {self : Handle} {form : String} {fields statics : List (String × Value)}
      {name : String} {value : Value} :
      IsFirstEntry fields name value → Means (.object self form fields statics) name value
  /-- A field shared by all instances, unless the instance has one of that name. -/
  | shared {self : Handle} {form : String} {fields statics : List (String × Value)}
      {name : String} {value : Value} : (∀ field ∈ fields, field.1 ≠ name) →
      IsFirstEntry statics name value → Means (.object self form fields statics) name value

theorem isFirstEntry_iff {entries : List (String × Value)} {name : String} {value : Value} :
    IsFirstEntry entries name value ↔ entries.lookup name = some value := by
  simp [IsFirstEntry, List.lookup_eq_some_iff, eq_comm (a := name)]

theorem spells_iff {name : String} {index : Nat} :
    Spells name index ↔ indexOf? name = some index := by
  have unsigned : '+'.isDigit = false := rfl
  unfold Spells indexOf?
  split
  · rename_i rest written
    simp only [written]
    constructor
    · rintro ⟨digits, rfl | ⟨⟨⟩⟩, some, all, rfl⟩
      · rw [all '+' List.mem_cons_self] at unsigned
        cases unsigned
      · simpa [some] using all
    · intro spelled
      obtain ⟨⟨some, all⟩, rfl⟩ : (rest ≠ [] ∧ ∀ c ∈ rest, c.isDigit = true) ∧
        Number.digitsValue rest = index := by simpa using spelled
      exact ⟨rest, .inr rfl, some, all, rfl⟩
  · rename_i bare
    constructor
    · rintro ⟨digits, rfl | signed, some, all, rfl⟩
      · simpa [some] using all
      · exact absurd signed (bare digits)
    · intro spelled
      obtain ⟨⟨some, all⟩, rfl⟩ : (name.toList ≠ [] ∧ ∀ c ∈ name.toList, c.isDigit = true) ∧
        Number.digitsValue name.toList = index := by simpa using spelled
      exact ⟨name.toList, .inl rfl, some, all, rfl⟩

theorem indexOf?_size : indexOf? "size" = none := by decide

theorem indexOf?_length : indexOf? "length" = none := by decide

/-- The place of the first occurrence, told by positions alone. -/
theorem idxOf?_eq_some_iff_getElem? {names : List String} {name : String} {index : Nat} :
    names.idxOf? name = some index ↔
      names[index]? = some name ∧ ∀ earlier < index, names[earlier]? ≠ some name := by
  rw [List.idxOf?_eq_some_iff]
  constructor
  · rintro ⟨inside, here, none⟩
    refine ⟨List.getElem?_eq_some_iff.mpr ⟨inside, here⟩, fun earlier before => ?_⟩
    rw [List.getElem?_eq_getElem (Nat.lt_trans before inside)]
    exact fun same => none earlier before (Option.some.inj same)
  · rintro ⟨stands, none⟩
    obtain ⟨inside, here⟩ := List.getElem?_eq_some_iff.mp stands
    refine ⟨inside, here, fun earlier before same => none earlier before ?_⟩
    exact List.getElem?_eq_some_iff.mpr ⟨Nat.lt_trans before inside, same⟩

theorem Means.lookup_eq {value result : Value} {name : String} (means : value.Means name result) :
    value.lookup name = some result := by
  cases means with
  | entry first => exact isFirstEntry_iff.mp first
  | size | length | characters | variant => rfl
  | @item items name index item spelled stands =>
    rw [spells_iff] at spelled
    have uncounted : ¬ (name = "size" ∨ name = "length") := by
      rintro (rfl | rfl)
      · rw [indexOf?_size] at spelled
        cases spelled
      · rw [indexOf?_length] at spelled
        cases spelled
    rw [lookup, if_neg uncounted, spelled, Option.bind_some, stands]
  | ordinal stands none =>
    have first := idxOf?_eq_some_iff_getElem?.mpr ⟨stands, none⟩
    simp [lookup, first]
  | own unnamed unplaced first => simp [lookup, unnamed, unplaced, isFirstEntry_iff.mp first]
  | field first => simp [lookup, isFirstEntry_iff.mp first]
  | @shared self form fields statics name value absent first =>
    have none : fields.lookup name = none := by
      simpa [List.lookup_eq_none_iff, eq_comm (a := name)] using absent
    simp [lookup, none, isFirstEntry_iff.mp first]

theorem means_of_lookup {value result : Value} {name : String}
    (found : value.lookup name = some result) : value.Means name result := by
  cases value with
  | null | bool | int | float | stream => cases found
  | map entries => exact .entry (isFirstEntry_iff.mpr found)
  | seq items =>
    simp only [lookup] at found
    split at found
    · rename_i counted
      cases found
      rcases counted with rfl | rfl
      · exact .size
      · exact .length
    · obtain ⟨index, spelled, stands⟩ := Option.bind_eq_some_iff.mp found
      exact .item (spells_iff.mpr spelled) stands
  | text s =>
    simp only [lookup] at found
    split at found
    · rename_i counted
      cases found
      subst counted
      exact .characters
    · cases found
  | enumeration self variant variants fields =>
    simp only [lookup] at found
    split at found
    · rename_i named
      cases found
      subst named
      exact .variant
    · rename_i unnamed
      split at found
      · rename_i placed
        subst placed
        obtain ⟨index, first, rfl⟩ := Option.map_eq_some_iff.mp found
        obtain ⟨stands, none⟩ := idxOf?_eq_some_iff_getElem?.mp first
        exact .ordinal stands none
      · rename_i unplaced
        exact .own unnamed unplaced (isFirstEntry_iff.mpr found)
  | object self form fields statics =>
    rw [lookup, Option.or_eq_some_iff] at found
    rcases found with own | ⟨none, shared⟩
    · exact .field (isFirstEntry_iff.mpr own)
    · refine .shared (fun field member same => ?_) (isFirstEntry_iff.mpr shared)
      exact bne_iff_ne.mp (List.lookup_eq_none_iff.mp none field member) same.symm

/-- Looking a name up finds what it means, and nothing if it has no meaning. -/
theorem lookup_eq_some_iff {value result : Value} {name : String} :
    value.lookup name = some result ↔ value.Means name result :=
  ⟨means_of_lookup, Means.lookup_eq⟩

theorem lookup_eq_none_iff {value : Value} {name : String} :
    value.lookup name = none ↔ ∀ result, ¬ value.Means name result := by
  simp [Option.eq_none_iff_forall_ne_some, lookup_eq_some_iff]

end Mustache.Value
