import Mustache.Proofs.Context.Resolution
import Mustache.Proofs.Context.ScalarFrame
import Mustache.Proofs.Render.Complement
/-!
Contexts without endless data. Values are finite in depth as they are; what need not end is a
stream. Main statement: if all streams in the frames of a context come to their end, at any depth,
then so do those in everything that a path means there, and in everything that a section over it
puts in front.
-/
namespace Mustache

/-- A value in which all streams come to their end, at any depth. -/
inductive Value.IsFinite : Value → Prop where
  | null : IsFinite .null
  | scalar {value : Value} : value.IsScalar → IsFinite value
  | text {s : String} : IsFinite (.text s)
  | seq {items : List Value} : (∀ item ∈ items, IsFinite item) → IsFinite (.seq items)
  | map {entries : List (String × Value)} : (∀ entry ∈ entries, IsFinite entry.2) →
      IsFinite (.map entries)
  | enumeration {self : Handle} {variant : String} {variants : List String}
      {fields : List (String × Value)} : (∀ field ∈ fields, IsFinite field.2) →
      IsFinite (.enumeration self variant variants fields)
  | object {self : Handle} {form : String} {fields statics : List (String × Value)} :
      (∀ field ∈ fields, IsFinite field.2) → (∀ field ∈ statics, IsFinite field.2) →
      IsFinite (.object self form fields statics)
  | stream {self : Handle} {items : List Value} : (∀ item ∈ items, IsFinite item) →
      IsFinite (.stream self (.finite items))

/-- A context in which all streams come to their end. -/
def Context.IsFinite (c : Context) : Prop := ∀ f ∈ c.frames, f.value.IsFinite

namespace Value

variable {value result : Value}

theorem isFinite_ofNat (n : Nat) : (ofNat n).IsFinite := .scalar (isScalar_ofNat n)

theorem IsFirstEntry.mem {entries : List (String × Value)} {name : String}
    (first : IsFirstEntry entries name value) : (name, value) ∈ entries := by
  obtain ⟨before, after, rfl, -⟩ := first
  simp

/-- What a name means on a value is a part of it, or a number or text about it. -/
theorem Means.isFinite {name : String} (means : value.Means name result)
    (finite : value.IsFinite) : result.IsFinite := by
  cases means with
  | size | length | characters | ordinal => exact isFinite_ofNat _
  | variant => exact .text
  | entry first =>
    cases finite with
    | map inside => exact inside _ first.mem
    | scalar impossible => cases impossible
  | item _ stands =>
    cases finite with
    | seq inside => exact inside _ (List.mem_of_getElem? stands)
    | scalar impossible => cases impossible
  | own _ _ first =>
    cases finite with
    | enumeration inside => exact inside _ first.mem
    | scalar impossible => cases impossible
  | field first =>
    cases finite with
    | object inside _ => exact inside _ first.mem
    | scalar impossible => cases impossible
  | shared _ first =>
    cases finite with
    | object _ inside => exact inside _ first.mem
    | scalar impossible => cases impossible

end Value

namespace Context

variable {c : Context} {value : Value}

theorem IsFirstAnswer.isFinite {frames : List Frame} {name : String}
    (answer : IsFirstAnswer frames name value) (finite : ∀ f ∈ frames, f.value.IsFinite) :
    value.IsFinite := by
  obtain ⟨inner, f, outer, rfl, answers, -⟩ := answer
  cases answers with
  | mark bears => exact .scalar bears.isScalar
  | value _ means => exact means.isFinite (finite f (by simp))

theorem Leads.isFinite {start : Value} {names : List String} (leads : Leads start names value)
    (finite : start.IsFinite) : value.IsFinite := by
  induction leads with
  | here => exact finite
  | step means _ ih => exact ih (means.isFinite finite)

/-- What a path means in a context without endless data is not endless. -/
theorem IsFinite.of_resolve {path : String} (finite : c.IsFinite)
    (resolved : c.resolve path = some value) : value.IsFinite := by
  have current := finite c.current List.mem_cons_self
  have enclosing (f : Frame) (inside : f ∈ c.enclosing) := finite f (.tail _ inside)
  cases resolve_eq_some_iff.mp resolved with
  | mark bears => exact .scalar bears.isScalar
  | here => exact current
  | name _ answer => exact answer.isFinite finite
  | inside _ _ _ means leads => exact leads.isFinite (means.isFinite current)
  | outside _ _ _ _ answer leads => exact leads.isFinite (answer.isFinite enclosing)

theorem IsFinite.push (finite : c.IsFinite) (inside : value.IsFinite) (marks : Marks) :
    (c.push value marks).IsFinite := by
  intro f member
  rcases List.mem_cons.mp member with rfl | outer
  · exact inside
  · exact finite f outer

end Context

namespace Section

theorem value_mem_of_itemFrames {bounded : Bool} {index : Nat} {items : List Value} {f : Frame}
    (member : f ∈ itemFrames bounded index items) : f.value ∈ items := by
  induction items generalizing index with
  | nil => cases member
  | cons item rest ih =>
    rcases List.mem_cons.mp member with rfl | later
    · exact List.mem_cons_self
    · exact .tail item (ih later)

variable {value : Value} (finite : value.IsFinite)
include finite

theorem isUnending_of_isFinite : isUnending value = false := by
  cases finite with
  | scalar scalar => cases scalar <;> rfl
  | null | text | seq | map | enumeration | object | stream => rfl

/-- The turns of a section over a value without endless data bring none in front. -/
theorem isFinite_of_mem_frames {f : Frame} (member : f ∈ frames value) : f.value.IsFinite := by
  have whole := finite
  cases finite with
  | null => cases member
  | scalar scalar =>
    cases scalar <;>
    · rw [frames, once] at member
      split at member
      · cases List.mem_singleton.mp member
        exact whole
      · cases member
  | text =>
    rw [frames, once] at member
    split at member
    · cases List.mem_singleton.mp member
      exact whole
    · cases member
  | seq inside | stream inside => exact inside _ (value_mem_of_itemFrames member)
  | map inside =>
    obtain ⟨entry, listed, same⟩ := List.mem_map.mp (value_mem_of_itemFrames member)
    rw [← same]
    refine .object (fun field here => ?_) (List.forall_mem_nil _)
    rcases List.mem_cons.mp here with rfl | here
    · exact .text
    · cases List.mem_singleton.mp here
      exact inside entry listed
  | enumeration | object =>
    cases List.mem_singleton.mp member
    exact whole

end Section

end Mustache
