import Mathlib
import Mustache.Proofs.Context.Resolution
import Mustache.Proofs.Render.Escaping
import Mustache.Proofs.Render.Halves
import Mustache.Proofs.Render.Laziness
import Mustache.Proofs.Session.ByName
/-!
A section that puts a separator between its items. Its body writes the item and, in an inverted
section over the mark of the last item, the separator. Main statement: the text of such a section is
parsed as it is meant, whatever separator stands between the tags, and rendered over a sequence or
a map it joins the text forms of the items. No item of a stream is marked as the last, so there
each one is followed by the separator. The mark comes before entries of the same name, in the item
and around it.
-/
namespace Mustache

variable {σ ε : Type}

/-- What interpolating a value writes, which is nothing for null. -/
def Value.shown (value : Value) : String := value.text?.getD ""

/-- Whether a text can stand between tags as it is: the opening delimiter does not begin in it. -/
def Unopened (text : String) : Prop :=
  ¬ ['{', '{'] <:+: text.toList ∧ text.toList.getLast? ≠ some '{'

instance (text : String) : Decidable (Unopened text) := instDecidableAnd

/-- The text of a section over a name that separates its items. -/
def joining (name separator : String) : String :=
  "\x7b\x7b#" ++ name ++ "\x7d\x7d\x7b\x7b\x7b.\x7d\x7d\x7d\x7b\x7b^last\x7d\x7d" ++ separator ++
    "\x7b\x7b/last\x7d\x7d\x7b\x7b/" ++ name ++ "\x7d\x7d"

/-- The body of this section: the item, and the separator unless the item is the last. -/
def joined {ρ : Type} (separator : String) : Forest ρ :=
  [.raw ".", .inverted "last" (if separator = "" then [] else [.text separator])]

section Parsing

variable {name separator : String}

theorem literal_toList (text : String) :
    literal text.toList = if text = "" then [] else [.text text] := by
  by_cases empty : text = ""
  · rw [if_pos empty, empty]
    rfl
  · rw [if_neg empty, literal, if_neg (by simpa using empty), String.ofList_toList]

/-- The grammar derives the text of the section, whatever separator there is. -/
theorem joining_topLevel (referable : Referable name) (unopened : Unopened separator) :
    TopLevel (joining name separator).toList [.block name (joined separator)] := by
  have empty : Scan.EndsFirst ['{', '{'] [] := by decide
  have last : Referable "last" := by decide
  have item : Tagged .standard "\x7b\x7b\x7b.\x7d\x7d\x7d".toList [] (.raw ".") :=
    @Tagged.braced .standard [] ['.'] empty (by decide) (by decide)
  have opens := @referable.tagged _ [] empty '#' _ (by decide) (by decide)
    (referable.1.named .openBlock)
  have inverts := @last.tagged _ [] empty '^' _ (by decide) (by decide) (last.1.named .openInverted)
  have separates := @last.tagged _ separator.toList (Scan.endsFirst_pair unopened.1 unopened.2) '/'
    (.close "last") (by decide) (by decide) (by cbv)
  have closes := @referable.tagged _ [] empty '/' (.close name) (by decide) (by decide) (by
    rw [Tag.ofBody, referable.1.trim_toList, String.ofList_toList])
  have inner := Level.nested (.leaf (.nil _) item (.raw ".")) inverts (.inverted "last") (.nil _)
    separates
  have whole := Level.nested (.nil _) opens (.block name) inner closes
  refine ⟨_, [], _, _, ?_, whole, by decide, ?_⟩
  · simp [joining]
  · rw [literal_toList]
    simp [joined, literal]

theorem map_joined {ρ τ : Type} (f : ρ → τ) (name separator : String) :
    Forest.map f [.block name (joined separator)] = [.block name (joined separator)] := by
  unfold joined
  split <;> rfl

/-- Parsing gives the section, with whatever parser. -/
theorem Library.parse_joining {lib : Library} {id : ParserId} {p : Parser} (files : Files)
    (here : lib.parser? id = some p) (referable : Referable name)
    (unopened : Unopened separator) :
    (lib.parse files id (joining name separator)).result =
      .ok ⟨[.block name (joined separator)], some id⟩ := by
  have free : Forest.targets [.block name (joined separator)] = ([] : List String) := by
    unfold joined
    split <;> rfl
  have parsed := @Parser.parse_of_topLevel files p _ _ (joining_topLevel referable unopened) free
  simp only [parse, make, here, parsed, map_joined, Except.map]

end Parsing

namespace Walk

variable {lib : Library} {home : Option ParserId} {c : Context} {separator : String} {fuel : Nat}

theorem emitText?_text? (sink : Sink σ ε) (value : Value) :
    emitText? sink value.text? = emit sink value.shown.toList := by
  unfold Value.shown
  cases value.text? <;> rfl

/-- For one item, the body writes its text form, and the separator unless the item is marked as the
last. No frame but that of the item is asked. -/
theorem forest_joined (sink : Sink σ ε) (item : Value) (first last : Bool) (index : Nat) :
    forest lib (fuel + 2) sink home (c.push item (.item first last index)) (joined separator) =
      emit sink (item.shown ++ if last then "" else separator).toList := by
  have here : (c.push item (.item first last index)).resolve "." = some item :=
    Context.resolve_here rfl
  have marked : (c.push item (.item first last index)).resolve "last" = some (.bool last) :=
    Context.resolve_of_override? rfl
  have written : forest lib (fuel + 1) sink home (c.push item (.item first last index))
      (if separator = "" then [] else [.text separator]) = emit sink separator.toList := by
    split
    · rename_i empty
      rw [empty]
      rfl
    · exact bind_pure_unit
  rw [joined, forest]
  simp only [each, element, textOf?, here, marked, written, Option.bind_some, emitText?_text?,
    Section.isVoid, bind_pure_unit, String.toList_append, emit_append]
  cases last <;> rfl

/-- Items of which the last one is marked are joined. -/
theorem each_joined (sink : Sink σ ε) (c : Context) (index : Nat) (items : List Value) :
    each (fun frame => forest lib (fuel + 2) sink home (c.push frame.value frame.marks)
      (joined separator)) (Section.itemFrames true index items) =
      emit sink (separator.intercalate (items.map Value.shown)).toList := by
  induction items generalizing index with
  | nil => rfl
  | cons item rest ih =>
    rw [Section.itemFrames, each, forest_joined, ih]
    cases rest with
    | nil => simp [emit]
    | cons next rest =>
      simp only [List.map_cons, String.intercalate_cons_cons, String.toList_append, emit_append,
        List.isEmpty_cons, Bool.and_false, Bool.false_eq_true, if_false]

/-- Items of which none is marked as the last are each followed by the separator. -/
theorem each_followed (sink : Sink σ ε) (c : Context) (index : Nat) (items : List Value) :
    each (fun frame => turn true sink
      (forest lib (fuel + 2) sink home (c.push frame.value frame.marks) (joined separator)))
      (Section.itemFrames false index items) =
    each (fun item => turn true sink (emit sink (item.shown ++ separator).toList)) items := by
  induction items generalizing index with
  | nil => rfl
  | cons item rest ih =>
    rw [Section.itemFrames, each, forest_joined, ih]
    rfl

/-- The section takes its turns with the body above. -/
theorem forest_joining {name : String} {value : Value} (sink : Sink σ ε)
    (resolved : c.resolve name = some value) (ends : Section.isUnending value = false) :
    forest lib (fuel + 3) sink home c [.block name (joined separator)] =
      each (fun frame => turn (Section.isStream (some value)) sink
        (forest lib (fuel + 2) sink home (c.push frame.value frame.marks) (joined separator)))
        (Section.frames value) := by
  have taken := block_of_ends ends (forest lib (fuel + 2)) sink home c (joined separator) (fuel + 2)
  rw [forest, ← taken]
  simp only [each, element, resolved, bind_pure_unit]

/-- A text is written without regard to flushes. -/
theorem turn_string (flushing : Bool) (walk : WalkM String Empty Unit) :
    turn flushing Sink.string walk = walk := by
  have idle : call Sink.string.flush = pure () := rfl
  cases flushing <;> simp [turn, idle]

theorem each_emit_string (shown : Value → String) (items : List Value) (out : String) :
    each (fun item => emit Sink.string (shown item).toList) items out =
      .ok () (out ++ String.join (items.map shown)) := by
  induction items generalizing out with
  | nil => simp [each, Pure.pure, EStateM.pure]
  | cons item rest ih =>
    simp only [each, Bind.bind, EStateM.bind, Library.emit_string, String.ofList_toList, ih]
    simp [String.append_assoc]

end Walk

namespace Library

/-- Both modes of rendering write a text, and a stream is flushed at the end of it. -/
def Produces (lib : Library) (fuel : Nat) (t : Template) (c : Context) (text : String) : Prop :=
  (∀ out, lib.renderOnto fuel out t c = some (out ++ text)) ∧
    ∀ {σ ε : Type} (sink : Sink σ ε), lib.stream fuel sink t c = (do
      Walk.emit sink text.toList
      Walk.call sink.flush)

variable {lib : Library} {id : ParserId} {p : Parser} {t : Template} {c : Context} {fuel : Nat}

theorem produces_of_forest {text : String}
    (writes : ∀ {σ ε : Type} (sink : Sink σ ε), Walk.forest lib fuel sink t.home c t.elements =
      Walk.emit sink text.toList) : lib.Produces fuel t c text := by
  constructor
  · intro out
    rw [renderOnto_eq_some_iff, writes, emit_string, String.ofList_toList]
  · intro σ ε sink
    rw [stream, Walk.streamed, writes]

/-- The section is parsed whatever the separator is. Rendered in a map, it joins the text forms of a
sequence, or the entries of a map, by the separator; behind each item of a stream, the last one as
well, it puts the separator. The items and the frames around may have entries of any name. -/
theorem parse_joining_joins {name separator : String} (files : Files)
    (here : lib.parser? id = some p) (referable : Referable name) (undotted : '.' ∉ name.toList)
    (unopened : Unopened separator) :
    ∃ t, (lib.parse files id (joining name separator)).result = .ok t ∧
      ∀ (lib : Library) (c : Context) (entries : List (String × Value)),
        c.current.value = .map entries → c.current.override? name = none → ∀ fuel, 3 ≤ fuel →
        (∀ items, entries.lookup name = some (.seq items) →
          lib.Produces fuel t c (separator.intercalate (items.map Value.shown))) ∧
        (∀ inner, entries.lookup name = some (.map inner) →
          lib.Produces fuel t c
            (separator.intercalate (inner.map fun e => e.1 ++ "=" ++ e.2.display))) ∧
        ∀ self items, entries.lookup name = some (.stream self (.finite items)) →
          (∀ out, lib.renderOnto fuel out t c =
            some (out ++ String.join (items.map fun item => item.shown ++ separator))) ∧
          ∀ {σ ε : Type} (sink : Sink σ ε), lib.stream fuel sink t c = (do
            Walk.each (fun item => Walk.turn true sink
              (Walk.emit sink (item.shown ++ separator).toList)) items
            Walk.call sink.flush) := by
  refine ⟨_, parse_joining files here referable unopened,
    fun lib c entries current silent fuel enough => ?_⟩
  obtain ⟨fuel, rfl⟩ := Nat.exists_eq_add_of_le' enough
  have resolved {value : Value} (holds : entries.lookup name = some value) :
      c.resolve name = some value := Context.resolve_of_entry current silent undotted holds
  refine ⟨fun items holds => ?_, fun inner holds => ?_, fun self items holds => ?_⟩
  · refine produces_of_forest fun sink => ?_
    rw [Walk.forest_joining sink (resolved holds) rfl]
    exact Walk.each_joined sink c 0 items
  · have shown : inner.map (fun e => e.1 ++ "=" ++ e.2.display) =
        (inner.map fun e => Value.entry e.1 e.2).map Value.shown := by
      rw [List.map_map]
      rfl
    refine produces_of_forest fun sink => ?_
    rw [Walk.forest_joining sink (resolved holds) rfl, shown]
    exact Walk.each_joined sink c 0 _
  · have turns {σ ε : Type} (sink : Sink σ ε) :
        Walk.forest lib (fuel + 3) sink (some id) c [.block name (joined separator)] =
          Walk.each (fun item => Walk.turn true sink
            (Walk.emit sink (item.shown ++ separator).toList)) items :=
      (Walk.forest_joining sink (resolved holds) rfl).trans (Walk.each_followed sink c 0 items)
    refine ⟨fun out => ?_, fun sink => ?_⟩
    · rw [renderOnto_eq_some_iff, turns]
      simp only [Walk.turn_string, Walk.each_emit_string]
    · rw [stream, Walk.streamed, turns]

/-- A library with a parser that knows no partials. -/
def joiners : Library := empty.add (.ofResolver (.table [] (.missing "unknown")))

/-- A map with a sequence and entries that are named like marks. -/
def rivals : Context :=
  .root (.map [("last", .bool true), ("index", .int 9),
    ("items", .seq [.int 1, .null, .object ⟨0, "o"⟩ "o" [("last", .bool false)] []])])

/-- A separator with a brace, between items of which one is null and one has an entry of its own
with the name of the mark. -/
theorem parse_joining_joins_rivals :
    Referable "items" ∧ '.' ∉ "items".toList ∧ Unopened "\x7b, " ∧
      ∃ t, (joiners.parse .none 0 (joining "items" "\x7b, ")).result = .ok t ∧
        joiners.render 3 t rivals = some "1\x7b, \x7b, o" := by
  have referable : Referable "items" := by decide
  have unopened : Unopened "\x7b, " := by decide
  obtain ⟨t, parsed, joins⟩ :=
    @parse_joining_joins joiners 0 _ _ _ .none rfl referable (by decide) unopened
  obtain ⟨sequence, -⟩ := joins joiners rivals _ rfl rfl 3 (by decide)
  have shown : some ("" ++ "\x7b, ".intercalate (List.map Value.shown
      [.int 1, .null, .object ⟨0, "o"⟩ "o" [("last", .bool false)] []])) =
      some "1\x7b, \x7b, o" := by decide
  exact ⟨referable, by decide, unopened, t, parsed, ((sequence _ rfl).1 "").trans shown⟩

end Library

end Mustache
