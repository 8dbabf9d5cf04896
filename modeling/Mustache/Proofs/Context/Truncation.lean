import Mathlib
import Mustache.Proofs.Render.Complement
/-!
Contexts whose endless streams are cut off. Every endless stream, at any depth, gives way to a
stream of so many of its first items that looks the same as a text. Main statements: what a path
means is cut off likewise, and nothing else changes about it; sections over it take the same turns,
as far as these go, and it is void exactly if it was, unless an endless stream is cut off at once.
-/
namespace Mustache

namespace Value

mutual

/-- The value with all endless streams cut off after so many items. -/
def cut (n : Nat) : Value → Value
  | .null => .null
  | .bool b => .bool b
  | .int i => .int i
  | .float x => .float x
  | .text s => .text s
  | .seq items => .seq (cutAll n items)
  | .map entries => .map (cutEntries n entries)
  | .enumeration self variant variants fields =>
    .enumeration self variant variants (cutEntries n fields)
  | .object self form fields statics =>
    .object self form (cutEntries n fields) (cutEntries n statics)
  | .stream self pass => .stream self (.finite (cutPass n pass))

/-- The items of a pass with all endless streams in them cut off, as is the pass itself. -/
def cutPass (n : Nat) : Pass Value → List Value
  | .finite items => cutAll n items
  | .endless item => (List.range n).map fun place => (item place).cut n

/-- The values with all endless streams in them cut off. -/
def cutAll (n : Nat) : List Value → List Value
  | [] => []
  | item :: rest => item.cut n :: cutAll n rest

/-- The entries with all endless streams in their values cut off. -/
def cutEntries (n : Nat) : List (String × Value) → List (String × Value)
  | [] => []
  | (key, value) :: rest => (key, value.cut n) :: cutEntries n rest

end

variable {n : Nat}

theorem cutAll_eq_map (items : List Value) : cutAll n items = items.map (cut n) := by
  induction items with
  | nil => rfl
  | cons item rest ih => rw [cutAll, ih, List.map_cons]

theorem cutEntries_eq_map (entries : List (String × Value)) :
    cutEntries n entries = entries.map fun e => (e.1, e.2.cut n) := by
  induction entries with
  | nil => rfl
  | cons entry rest ih => rw [cutEntries, ih, List.map_cons]

mutual

/-- Cutting off does not show in the text form. -/
theorem display_cut (value : Value) : (value.cut n).display = value.display := by
  match value with
  | .null | .bool _ | .int _ | .float _ | .text _ | .enumeration .. | .object .. | .stream .. =>
    simp only [cut, display]
  | .seq items => rw [cut, display, display, displayItems_cutAll items]
  | .map entries => rw [cut, display, display, displayEntries_cutEntries entries]

theorem displayItems_cutAll (items : List Value) :
    displayItems (cutAll n items) = displayItems items := by
  match items with
  | [] => rfl
  | item :: rest =>
    rw [cutAll, displayItems, displayItems, display_cut item, displayItems_cutAll rest]

theorem displayEntries_cutEntries (entries : List (String × Value)) :
    displayEntries (cutEntries n entries) = displayEntries entries := by
  match entries with
  | [] => rfl
  | (key, value) :: rest =>
    rw [cutEntries, displayEntries, displayEntries, display_cut value,
      displayEntries_cutEntries rest]

end

theorem text?_cut (value : Value) : (value.cut n).text? = value.text? := by
  have same := display_cut (n := n) value
  cases value <;> simp_all only [cut, text?]

theorem cut_ofNat (number : Nat) : (ofNat number).cut n = ofNat number := by
  unfold ofNat
  split <;> rfl

theorem cut_entry (key : String) (value : Value) :
    (entry key value).cut n = entry key (value.cut n) := by
  simp only [entry, cut, cutEntries, display_cut]

theorem lookup_cutEntries (name : String) (entries : List (String × Value)) :
    (cutEntries n entries).lookup name = (entries.lookup name).map (cut n) := by
  induction entries with
  | nil => rfl
  | cons entry rest ih =>
    obtain ⟨key, value⟩ := entry
    rw [cutEntries, List.lookup_cons, List.lookup_cons, ih]
    cases name == key <;> rfl

/-- Looking up a name on what is cut off gives what the name means, cut off. -/
theorem lookup_cut (name : String) (value : Value) :
    (value.cut n).lookup name = (value.lookup name).map (cut n) := by
  cases value with
  | null | bool | int | float | stream => rfl
  | text s =>
    simp only [cut, lookup]
    split
    · rw [Option.map_some, cut_ofNat]
    · rfl
  | seq items =>
    simp only [cut, lookup, cutAll_eq_map, List.length_map, List.getElem?_map]
    split
    · rw [Option.map_some, cut_ofNat]
    · cases indexOf? name <;> rfl
  | map entries =>
    rw [cut, lookup, lookup, lookup_cutEntries]
  | enumeration self variant variants fields =>
    simp only [cut, lookup, lookup_cutEntries]
    split
    · rfl
    · split
      · cases variants.idxOf? variant with
        | none => rfl
        | some place => simp only [Option.map_some, cut_ofNat]
      · rfl
  | object self form fields statics =>
    simp only [cut, lookup, lookup_cutEntries]
    cases fields.lookup name <;> rfl

end Value

/-- The frame with what is in it cut off. -/
def Frame.cut (n : Nat) (f : Frame) : Frame := ⟨f.value.cut n, f.marks⟩

/-- The context with all endless streams cut off after so many items. -/
def Context.cut (n : Nat) (c : Context) : Context := ⟨c.current.cut n, c.enclosing.map (·.cut n)⟩

namespace Frame

variable {n : Nat}

theorem override?_cut (f : Frame) (name : String) :
    (f.cut n).override? name = (f.override? name).map (Value.cut n) := by
  obtain ⟨value, marks⟩ := f
  cases marks with
  | plain => rfl
  | item first last index =>
    simp only [cut, override?]
    split_ifs
    · rfl
    · rfl
    · rw [Option.map_some, Value.cut_ofNat]
    · rw [Option.map_some, Value.cut_ofNat]
    · rfl
  | variant =>
    cases value with
    | enumeration self current variants fields =>
      simp only [cut, override?, Value.cut]
      split_ifs <;> rfl
    | null | bool | int | float | text | seq | map | object | stream => rfl

end Frame

namespace Context

variable {n : Nat}

theorem search_cut (name : String) (frames : List Frame) :
    search name (frames.map (·.cut n)) = (search name frames).map (Value.cut n) := by
  induction frames with
  | nil => rfl
  | cons f rest ih =>
    have value : (f.cut n).value = f.value.cut n := rfl
    rw [List.map_cons, search, search, ih, f.override?_cut, value, Value.lookup_cut]
    cases f.override? name <;> cases f.value.lookup name <;> rfl

theorem follow_cut (value : Value) (names : List (List Char)) :
    follow (value.cut n) names = (follow value names).map (Value.cut n) := by
  induction names generalizing value with
  | nil => rfl
  | cons name rest ih =>
    rw [follow, follow, Value.lookup_cut]
    cases value.lookup (String.ofList name) with
    | none => rfl
    | some next => exact ih next

/-- A path means what it meant, cut off. -/
theorem resolve_cut (c : Context) (path : String) :
    (c.cut n).resolve path = (c.resolve path).map (Value.cut n) := by
  have current : (c.cut n).current = c.current.cut n := rfl
  have enclosing : (c.cut n).enclosing = c.enclosing.map (·.cut n) := rfl
  have value : (c.current.cut n).value = c.current.value.cut n := rfl
  simp only [resolve, current, enclosing, value, Frame.override?_cut, search_cut, Value.lookup_cut]
  cases c.current.override? path with
  | some found => rfl
  | none =>
    simp only [Option.map_none]
    split
    · rfl
    · cases segments path.toList with
      | nil => rfl
      | cons head rest =>
        dsimp only
        cases c.current.value.lookup (String.ofList head) with
        | some found => exact follow_cut found rest
        | none =>
          cases search (String.ofList head) c.enclosing with
          | some found => exact follow_cut found rest
          | none => rfl

/-- The text of a path is the same. -/
theorem textOf?_cut (c : Context) (path : String) :
    Walk.textOf? (c.cut n) path = Walk.textOf? c path := by
  rw [Walk.textOf?, Walk.textOf?, resolve_cut]
  cases c.resolve path with
  | none => rfl
  | some value => exact value.text?_cut

end Context

namespace Section

variable {n : Nat}

theorem itemFrames_cutAll (bounded : Bool) (index : Nat) (items : List Value) :
    itemFrames bounded index (Value.cutAll n items) =
      (itemFrames bounded index items).map (·.cut n) := by
  induction items generalizing index with
  | nil => rfl
  | cons item rest ih =>
    have empty : (Value.cutAll n rest).isEmpty = rest.isEmpty := by
      rw [Value.cutAll_eq_map, List.isEmpty_map]
    rw [Value.cutAll, itemFrames, itemFrames, ih, empty]
    rfl

theorem once_cut (value : Value) (holds : Bool) :
    once (value.cut n) holds = (once value holds).map (·.cut n) := by
  cases holds <;> rfl

/-- Unless it never ends, a section takes the same turns over what is cut off. -/
theorem frames_cut {value : Value} (ends : isUnending value = false) :
    frames (value.cut n) = (frames value).map (·.cut n) := by
  cases value with
  | null => rfl
  | bool b => exact once_cut (.bool b) _
  | int i => exact once_cut (.int i) _
  | float x => exact once_cut (.float x) _
  | text s => exact once_cut (.text s) _
  | enumeration | object => rfl
  | seq items => exact itemFrames_cutAll true 0 items
  | map entries =>
    have same : (Value.cutEntries n entries).map (fun e => Value.entry e.1 e.2) =
        Value.cutAll n (entries.map fun e => .entry e.1 e.2) := by
      simp [Value.cutEntries_eq_map, Value.cutAll_eq_map, Value.cut_entry]
    rw [Value.cut, frames, frames, same, itemFrames_cutAll]
  | stream self pass =>
    cases pass with
    | finite items => exact itemFrames_cutAll false 0 items
    | endless item => cases ends

theorem itemFrames_range' (item : Nat → Value) (start count : Nat) :
    itemFrames false start ((List.range' start count).map item) =
      (List.range' start count).map (passing item) := by
  induction count generalizing start with
  | zero => rfl
  | succ count ih => rw [List.range'_succ, List.map_cons, List.map_cons, itemFrames, ih]; rfl

/-- Over an endless stream that is cut off, a section takes the first turns of the endless one. -/
theorem frames_cut_endless (self : Handle) (item : Nat → Value) :
    frames (.cut n (.stream self (.endless item))) = (firstFrames item n).map (·.cut n) := by
  rw [Value.cut, Value.cutPass, frames, List.range_eq_range', itemFrames_range', firstFrames,
    List.map_map, List.range_eq_range']
  rfl

/-- A section over what is cut off always ends. -/
theorem isUnending_cut (value : Value) : isUnending (value.cut n) = false := by
  cases value <;> rfl

theorem isStream_cut (value : Value) : isStream (some (value.cut n)) = isStream (some value) := by
  cases value <;> rfl

theorem isVoid_cut {value : Value} (looked : n ≠ 0 ∨ isUnending value = false) :
    isVoid (some (value.cut n)) = isVoid (some value) := by
  cases unending : isUnending value with
  | false =>
    rw [isVoid_of_ends (isUnending_cut value), isVoid_of_ends unending, frames_cut unending,
      List.isEmpty_map]
  | true =>
    obtain ⟨m, rfl⟩ := Nat.exists_eq_succ_of_ne_zero (looked.resolve_right (by simp [unending]))
    obtain ⟨self, item, rfl⟩ := exists_of_isUnending unending
    rw [isVoid_of_ends (isUnending_cut _), isVoid_of_unending unending, frames_cut_endless,
      List.isEmpty_map, firstFrames, List.range_succ_eq_map]
    rfl

end Section

end Mustache
