import Mathlib
import Mustache.Proofs.Render.Halves
import Mustache.Proofs.Render.Mirrored
import Mustache.Proofs.Render.Obliviousness
/-!
Escaping cannot be bypassed. Beside a template stands the one that says the same without escaping:
every escaped path is raw, in the template and in all partials. Main statements: a walk feeds its
sink what the walk over the unescaped template feeds a sink that escapes, as long as nothing else
than escaped paths can write a special character; so the rendered text is the escaped form of the
unescaped one, and whatever the data, it means nothing but itself in HTML.
-/
namespace Mustache

variable {σ ε ρ : Type}

namespace Text

/-- The characters that are written as entities. -/
def special : List Char := ['&', '<', '>', '"']

/-- A text that means nothing but itself in HTML: it can neither open or close a tag nor end a
double-quoted attribute, and each ampersand in it starts an entity. -/
structure Inert (cs : List Char) : Prop where
  opening : '<' ∉ cs
  closing : '>' ∉ cs
  quote : '"' ∉ cs
  ampersand : ∀ before after, cs = before ++ '&' :: after →
    ∃ c ∈ special, entity c <+: '&' :: after

theorem entity_of_not_mem {c : Char} (plain : c ∉ special) : entity c = [c] := by
  simp only [special, List.mem_cons, List.not_mem_nil, or_false, not_or] at plain
  unfold entity
  split <;> simp_all

/-- An entity starts with an ampersand and holds no other special character. -/
theorem entity_of_mem {c : Char} (member : c ∈ special) :
    ∃ tail, entity c = '&' :: tail ∧ ∀ d ∈ special, d ∉ tail := by
  simp only [special, List.mem_cons, List.not_mem_nil, or_false] at member
  rcases member with rfl | rfl | rfl | rfl
  all_goals exact ⟨_, rfl, by simp [special]⟩

/-- A text without special characters is its own escaped form. -/
theorem flatMap_entity_of_plain {cs : List Char} (plain : ∀ c ∈ cs, c ∉ special) :
    cs.flatMap entity = cs := by
  induction cs with
  | nil => rfl
  | cons c rest ih =>
    rw [List.flatMap_cons, entity_of_not_mem (plain c List.mem_cons_self),
      ih fun d member => plain d (.tail c member)]
    rfl

theorem Inert.nil : Inert [] where
  opening := List.not_mem_nil
  closing := List.not_mem_nil
  quote := List.not_mem_nil
  ampersand before after split := by cases before <;> cases split

/-- A character without special meaning before an inert text. -/
theorem Inert.plain {c : Char} {rest : List Char} (inert : Inert rest) (plain : c ∉ special) :
    Inert (c :: rest) := by
  have others (d : Char) (member : d ∈ special) (outside : d ∉ rest) : d ∉ c :: rest := by
    rintro (_ | _)
    · exact plain member
    · contradiction
  refine ⟨others _ (by decide) inert.opening, others _ (by decide) inert.closing,
    others _ (by decide) inert.quote, fun before after split => ?_⟩
  cases before with
  | nil =>
    cases split
    exact absurd (by decide) plain
  | cons first before =>
    cases split
    exact inert.ampersand before after rfl

/-- An entity before an inert text. -/
theorem Inert.entity {c : Char} {rest : List Char} (inert : Inert rest) (member : c ∈ special) :
    Inert (entity c ++ rest) := by
  obtain ⟨tail, same, clean⟩ := entity_of_mem member
  have others (d : Char) (special : d ∈ special) (different : d ≠ '&') (outside : d ∉ rest) :
      d ∉ Text.entity c ++ rest := by
    simp [same, different, clean d special, outside]
  refine ⟨others _ (by decide) (by decide) inert.opening,
    others _ (by decide) (by decide) inert.closing, others _ (by decide) (by decide) inert.quote,
    fun before after split => ?_⟩
  rcases List.append_eq_append_iff.mp split with ⟨between, rfl, later⟩ | ⟨between, inside, later⟩
  · exact inert.ampersand between after later
  · -- the only ampersand inside the entity is the one that it starts with
    cases before with
    | nil => exact ⟨c, member, rest, by rw [inside, later]; rfl⟩
    | cons first before =>
      rw [same, List.cons_append, List.cons.injEq] at inside
      cases between with
      | nil => exact inert.ampersand [] after later.symm
      | cons d between =>
        obtain ⟨rfl, -⟩ := List.cons.inj later
        exact absurd (by simp [inside.2]) (clean '&' (by decide))

/-- Nothing in an escaped text has a meaning of its own. -/
theorem inert_flatMap_entity (cs : List Char) : Inert (cs.flatMap entity) := by
  induction cs with
  | nil => exact .nil
  | cons c rest ih =>
    rw [List.flatMap_cons]
    by_cases member : c ∈ special
    · exact ih.entity member
    · rw [entity_of_not_mem member]
      exact ih.plain member

end Text

section Unescaped

mutual

/-- The element with every escaped path raw. -/
def Element.unescaped : Element ρ → Element ρ
  | .text content => .text content
  | .escaped path | .raw path => .raw path
  | .block path children => .block path (Element.unescapedAll children)
  | .inverted path children => .inverted path (Element.unescapedAll children)
  | .reference target => .reference target

/-- The forest with every escaped path raw. -/
def Element.unescapedAll : Forest ρ → Forest ρ
  | [] => []
  | element :: rest => element.unescaped :: Element.unescapedAll rest

end

mutual

/-- Nothing but escaped paths can write a special character: texts hold none, and no path is raw. -/
def Element.Escapes : Element ρ → Prop
  | .text content => ∀ c ∈ content.toList, c ∉ Text.special
  | .raw _ => False
  | .block _ children | .inverted _ children => Element.EscapesAll children
  | .escaped _ | .reference _ => True

/-- Nothing but escaped paths of the forest can write a special character. -/
def Element.EscapesAll : Forest ρ → Prop
  | [] => True
  | element :: rest => element.Escapes ∧ Element.EscapesAll rest

end

theorem Element.EscapesAll.of_mem {forest : Forest ρ} (escapes : Element.EscapesAll forest)
    {element : Element ρ} (member : element ∈ forest) : element.Escapes := by
  induction member with
  | head => exact escapes.1
  | tail _ _ ih => exact ih escapes.2

namespace Template

/-- The template with every escaped path raw. -/
def unescaped (t : Template) : Template := ⟨Element.unescapedAll t.elements, t.home⟩

end Template

/-- What the reference stands for, with every escaped path raw. -/
def Content.unescaped : Content → Content
  | .parsed elements => .parsed (Element.unescapedAll elements)
  | .registered (.template t) => .registered (.template t.unescaped)
  | .registered (.custom c) => .registered (.custom c)

namespace Registry

/-- The registry with every escaped path raw in all partials. -/
def unescaped (r : Registry) : Registry :=
  { r with slots := r.slots.map fun slot => ⟨slot.name, slot.content.map Content.unescaped⟩ }

theorem content?_unescaped (r : Registry) (slot : Nat) :
    r.unescaped.content? slot = (r.content? slot).map Content.unescaped := by
  unfold content? unescaped
  rw [List.getElem?_map]
  cases r.slots[slot]? <;> rfl

end Registry

namespace Library

/-- The library with every escaped path raw in all partials of all parsers. -/
def unescaped (lib : Library) : Library :=
  ⟨lib.parsers.map fun p => { p with registry := p.registry.unescaped }⟩

theorem content?_unescaped (lib : Library) (home : Option ParserId) (slot : Nat) :
    lib.unescaped.content? home slot = (lib.content? home slot).map Content.unescaped := by
  cases home with
  | none => rfl
  | some id =>
    simp only [content?, parser?, unescaped, List.getElem?_map, Option.bind_eq_bind,
      Option.bind_some]
    cases lib.parsers[id]? with
    | none => rfl
    | some p => exact p.registry.content?_unescaped slot

/-- Nothing that takes part in a render of the template can write a special character, escaped
paths apart. -/
structure Escapes (lib : Library) (t : Template) : Prop where
  elements : ∀ u, lib.Embeds t u → Element.EscapesAll u.elements
  uncoded : ∀ c, ¬ lib.Visits t c

end Library

end Unescaped

namespace Sink

/-- Feeds characters up to the first that is not taken. -/
def feedAll (sink : Sink σ ε) : List Char → SinkM σ ε Unit
  | [] => pure ()
  | c :: rest => do
    sink.feed c
    sink.feedAll rest

/-- The sink behind an escape of every character. -/
def escaping (sink : Sink σ ε) : Sink σ ε where
  ready := pure ()
  send c := sink.feedAll (Text.entity c)
  flush := sink.flush
  close := sink.close
  remark := sink.remark

end Sink

namespace Walk

theorem call_feedAll (sink : Sink σ ε) (cs : List Char) :
    call (sink.feedAll cs) = emit sink cs := by
  induction cs with
  | nil => rfl
  | cons c rest ih => rw [Sink.feedAll, call_bind, ih, emit]

theorem emit_append (sink : Sink σ ε) (first second : List Char) :
    emit sink (first ++ second) = (do emit sink first; emit sink second) := by
  induction first with
  | nil => exact (pure_bind _ _).symm
  | cons c rest ih =>
    simp only [List.cons_append, emit, ih]
    exact (bind_assoc _ _ _).symm

theorem emit_escaping (sink : Sink σ ε) (cs : List Char) :
    emit sink.escaping cs = emit sink (cs.flatMap Text.entity) := by
  induction cs with
  | nil => rfl
  | cons c rest ih =>
    have fed : sink.escaping.feed c = sink.feedAll (Text.entity c) := pure_bind _ _
    rw [emit, List.flatMap_cons, emit_append, fed, call_feedAll, ih]

theorem emitText_escaping (sink : Sink σ ε) (text? : Option String) :
    emitText? sink.escaping text? = emitText? sink (text?.map Text.escape) := by
  cases text? with
  | none => rfl
  | some text => simp [emitText?, emit_escaping]

theorem each_unescaped {walk walk' : Element PartialRef → WalkM σ ε Unit}
    {elements : Forest PartialRef} (same : ∀ e ∈ elements, walk e = walk' e.unescaped) :
    each walk elements = each walk' (Element.unescapedAll elements) := by
  induction elements with
  | nil => rfl
  | cons e rest ih =>
    rw [Element.unescapedAll, each, each, same e List.mem_cons_self,
      ih fun other member => same other (.tail e member)]

/-- What a walk feeds its sink is what the walk over the unescaped template feeds a sink that
escapes. -/
theorem forest_escaping {lib : Library} {t : Template} (escapes : lib.Escapes t) (sink : Sink σ ε)
    (fuel : Nat) (home : Option ParserId) (context : Context) (elements : Forest PartialRef)
    (escaped : Element.EscapesAll elements) (met : ∀ ref ∈ elements.targets, lib.Meets t home ref) :
    Walk.forest lib fuel sink home context elements =
      Walk.forest lib.unescaped fuel sink.escaping home context
        (Element.unescapedAll elements) := by
  induction fuel generalizing home context elements with
  | zero => rfl
  | succ fuel ih =>
    refine each_unescaped fun e member => ?_
    have escaped_here := escaped.of_mem member
    have met_here (ref : PartialRef) (refers : ref ∈ e.targets) : lib.Meets t home ref :=
      met ref (Forest.mem_targets member refers)
    cases e with
    | text content =>
      have plain := Text.flatMap_entity_of_plain escaped_here
      rw [Element.unescaped, element, element, emit_escaping, plain]
    | escaped path => exact (emitText_escaping sink _).symm
    | raw path => exact escaped_here.elim
    | block path children =>
      simp only [Element.unescaped, element]
      cases context.resolve path with
      | none => rfl
      | some value =>
        refine block_congr ?_ (fun inner => ?_) context fuel value
        · rfl
        · exact ih home inner children escaped_here met_here
    | inverted path children =>
      simp only [Element.unescaped, element]
      split
      · exact ih home context children escaped_here met_here
      · rfl
    | reference target =>
      obtain ⟨u, embeds, rfl, refers⟩ := met_here target List.mem_cons_self
      have walks (v : Template) (embedded : lib.Embeds t v) :
          Walk.forest lib fuel sink v.home context v.elements =
            Walk.forest lib.unescaped fuel sink.escaping v.home context
              (Element.unescapedAll v.elements) :=
        ih v.home context v.elements (escapes.elements v embedded)
          fun ref refers => ⟨v, embedded, rfl, refers⟩
      simp only [Element.unescaped, element, lib.content?_unescaped]
      cases holds : lib.content? u.home target.slot with
      | none => rfl
      | some content =>
        cases content with
        | parsed body => exact walks ⟨body, u.home⟩ (.body embeds refers holds)
        | registered value =>
          cases value with
          | template v => exact walks v (.template embeds refers holds)
          | custom c =>
            exact (escapes.uncoded c ⟨u.home, target, ⟨u, embeds, rfl, refers⟩, holds⟩).elim

end Walk

namespace Sink

theorem feedAll_string (cs : List Char) (out : String) :
    Sink.string.feedAll cs out = .ok () (out ++ String.ofList cs) := by
  have emitted := Library.emit_string cs out
  rw [← Walk.call_feedAll, Walk.call] at emitted
  split at emitted
  · rename_i ran
    cases emitted
    exact ran
  · cases emitted

/-- A text and its escaped form, written side by side. -/
theorem escaping_lockstep :
    Lockstep Sink.string Sink.string.escaping (fun s t => t = Text.escape s) Eq where
  ready := .pure ()
  send c := by
    rintro s t rfl
    have longer : Text.escape (s.push c) = Text.escape s ++ String.ofList (Text.entity c) := by
      simp [← String.toList_inj]
    have sent := (feedAll_string (Text.entity c) (Text.escape s)).trans
      (congrArg (EStateM.Result.ok ()) longer.symm)
    rw [show Sink.string.escaping.send c (Text.escape s) = _ from sent]
    exact .ok () rfl
  flush := .pure ()
  close := .pure ()
  remark _ _ _ same := same

end Sink

namespace Library

variable {lib : Library} {t : Template}

/-- Rendered on a sink that escapes, a template gives the escaped form of its text. -/
theorem renderOnto_escaping (lib : Library) (fuel : Nat) (t : Template) (context : Context) :
    (match Walk.forest lib fuel Sink.string.escaping t.home context t.elements "" with
      | .ok _ output => some output
      | .error _ _ => none) = (lib.render fuel t context).map Text.escape := by
  have agree : Agree (fun s t => t = Text.escape s) (Halt.Related Eq)
      (fun halt => False ∧ halt = .exhausted)
      (Walk.forest lib fuel Sink.string t.home context t.elements "")
      (Walk.forest lib fuel Sink.string.escaping t.home context t.elements "") :=
    leads_self lib fuel Sink.escaping_lockstep t context (fun _ _ => trivial) "" "" rfl
  unfold render renderOnto
  generalize Walk.forest lib fuel Sink.string t.home context t.elements "" = result,
    Walk.forest lib fuel Sink.string.escaping t.home context t.elements "" = result' at agree ⊢
  cases agree with
  | ok _ same => exact congrArg some same
  | error _ _ => rfl
  | starved impossible => exact impossible.1.elim

/-- A render escapes the text that the unescaped template renders, with the same fuel. So whatever
the data, a rendered text means nothing but itself in HTML. -/
theorem render_eq_escape_unescaped (escapes : lib.Escapes t) (context : Context) :
    (∀ fuel, lib.render fuel t context =
      (lib.unescaped.render fuel t.unescaped context).map Text.escape) ∧
    ∀ fuel text, lib.render fuel t context = some text → Text.Inert text.toList := by
  have escaped (fuel : Nat) : lib.render fuel t context =
      (lib.unescaped.render fuel t.unescaped context).map Text.escape := by
    rw [← renderOnto_escaping]
    have same := Walk.forest_escaping escapes Sink.string fuel t.home context t.elements
      (escapes.elements t .self) fun ref refers => ⟨t, .self, rfl, refers⟩
    unfold render renderOnto
    rw [same]
    rfl
  refine ⟨escaped, fun fuel text rendered => ?_⟩
  rw [escaped fuel, Option.map_eq_some_iff] at rendered
  obtain ⟨raw, _, rfl⟩ := rendered
  rw [Text.toList_escape]
  exact Text.inert_flatMap_entity raw.toList

/-- A partial that writes a name and then itself for each child. -/
def nodeSource : String := "({{name}}\x7b\x7b#children\x7d\x7d{{>node}}{{/children}})"

/-- A parser that has read the partial. -/
def nodes : Library :=
  ((empty.add (.ofResolver (.table [("node", .text nodeSource)] (.missing "unknown")))).parse .none
    0 "{{>node}}").library

/-- A template that renders a tree of any height. -/
def nodesTemplate : Template := ⟨[.reference ⟨"node", 0⟩], some 0⟩

theorem nodes_content? : nodes.content? (some 0) 0 = some (.parsed [.text "(", .escaped "name",
    .block "children" [.reference ⟨"node", 0⟩], .text ")"]) := by cbv

theorem nodes_escapes : nodes.Escapes nodesTemplate := by
  have refers_node {u : Template} (embeds : nodes.Embeds nodesTemplate u) :
      u.home = some 0 ∧ Element.EscapesAll u.elements ∧
        ∀ ref ∈ u.elements.targets, ref = ⟨"node", 0⟩ := by
    induction embeds with
    | self => exact ⟨rfl, ⟨trivial, trivial⟩, by simp [nodesTemplate]⟩
    | body _ refers holds ih =>
      obtain ⟨home, -, only⟩ := ih
      rw [home, only _ refers, nodes_content?] at holds
      cases holds
      have opening : ∀ c ∈ "(".toList, c ∉ Text.special := by simp [Text.special]
      have closing : ∀ c ∈ ")".toList, c ∉ Text.special := by simp [Text.special]
      exact ⟨home, ⟨opening, trivial, ⟨trivial, trivial⟩, closing, trivial⟩, by simp⟩
    | template _ refers holds ih =>
      obtain ⟨home, -, only⟩ := ih
      rw [home, only _ refers, nodes_content?] at holds
      cases holds
  refine ⟨fun u embeds => (refers_node embeds).2.1, ?_⟩
  rintro c ⟨_, ref, ⟨u, embeds, rfl, refers⟩, holds⟩
  obtain ⟨home, -, only⟩ := refers_node embeds
  rw [home, only ref refers, nodes_content?] at holds
  cases holds

/-- A node with a tag for a name, and one inside it with a quote and an ampersand. -/
def hostile : Context :=
  .root (.map [("name", .text "<b>"), ("children", .seq [.map [("name", .text "\"&amp;"),
    ("children", .seq [])]])])

theorem nodes_inert : nodes.Escapes nodesTemplate ∧
    nodes.render 6 nodesTemplate hostile = some "(&lt;b&gt;(&quot;&amp;amp;))" ∧
    Text.Inert "(&lt;b&gt;(&quot;&amp;amp;))".toList := by
  have rendered : nodes.render 6 nodesTemplate hostile = some "(&lt;b&gt;(&quot;&amp;amp;))" := by
    cbv
  exact ⟨nodes_escapes, rendered, (render_eq_escape_unescaped nodes_escapes hostile).2 6 _ rendered⟩

end Library

end Mustache
