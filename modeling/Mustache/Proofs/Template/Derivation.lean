import Mustache.Proofs.Template.Passage
/-!
What a reader has taken in is derived by the grammar. Main statement: at every point of a run, the
text read so far is a level inside each open section, followed by the beginning of a literal text
and a tag. Every step keeps that; in the end there are no open sections, so the whole text is a
level with literal text behind it.
-/
namespace Mustache.Reader

/-- What a reader has understood: levels inside the open sections, with the elements of the
innermost one, last first, and the delimiters in force behind it. -/
inductive Understood :
    List OpenSection → List (Element String) → Delimiters → List Char → Prop where
  | outermost {cs : List Char} {forest : Forest String} {d : Delimiters} :
      Level .standard cs forest d → Understood [] forest.reverse d cs
  | inside {sections : List OpenSection} {siblings : List (Element String)} {d d' : Delimiters}
      {cs piece inner : List Char} {text children : Forest String} {tag : Tag} {s : OpenSection} :
      Understood sections siblings d cs → Tagged d piece text tag → tag.Opens s.path s.element →
      s.before = text.reverse ++ siblings → s.delimiters = d → Level d inner children d' →
      Understood (s :: sections) children.reverse d' (cs ++ (piece ++ inner))

section Understanding

variable {sections : List OpenSection} {siblings : List (Element String)} {d d' : Delimiters}
  {cs piece : List Char} {text : Forest String}

theorem Understood.wide (understood : Understood sections siblings d cs) : d.Wide := by
  induction understood with
  | outermost level => exact level.wide Delimiters.standard_wide
  | inside _ _ _ _ _ level ih => exact level.wide ih

/-- What extends every level extends the innermost one. -/
theorem Understood.extend (understood : Understood sections siblings d cs) (piece : List Char)
    (added : Forest String)
    (extends_level : ∀ {d₀ : Delimiters} {ds : List Char} {forest : Forest String},
      Level d₀ ds forest d → Level d₀ (ds ++ piece) (forest ++ added) d') :
    Understood sections (added.reverse ++ siblings) d' (cs ++ piece) := by
  cases understood with
  | outermost level =>
    rw [← List.reverse_append]
    exact .outermost (extends_level level)
  | inside outer tagged opens before around level =>
    rw [← List.reverse_append, List.append_assoc, List.append_assoc]
    exact .inside outer tagged opens before around (extends_level level)

/-- What a reader has taken in: something understood, and the beginning of a text and a tag. -/
inductive Reads (r : Reader) : List Char → Prop where
  | text {cs : List Char} : r.place = .text → Understood r.sections r.siblings r.delimiters cs →
      ¬ r.delimiters.opening <:+: r.back.reverse → Reads r (cs ++ r.back.reverse)
  | opened {cs text : List Char} {siblings : List (Element String)} : r.place = .opened →
      Understood r.sections siblings r.delimiters cs →
      r.siblings = (literal text).reverse ++ siblings → Scan.EndsFirst r.delimiters.opening text →
      Reads r (cs ++ (text ++ r.delimiters.opening))
  | tag {cs text : List Char} {siblings : List (Element String)} {c : Char} : r.place = .tag →
      Understood r.sections siblings r.delimiters cs →
      r.siblings = (literal text).reverse ++ siblings → Scan.EndsFirst r.delimiters.opening text →
      r.back.getLast? = some c → c ≠ '{' → ¬ r.delimiters.closing <:+: r.back.reverse →
      Reads r (cs ++ (text ++ r.delimiters.opening ++ r.back.reverse))
  | rawTag {cs text : List Char} {siblings : List (Element String)} : r.place = .rawTag →
      Understood r.sections siblings r.delimiters cs →
      r.siblings = (literal text).reverse ++ siblings → Scan.EndsFirst r.delimiters.opening text →
      ¬ r.delimiters.rawClosing <:+: r.back.reverse →
      Reads r (cs ++ (text ++ r.delimiters.opening ++ '{' :: r.back.reverse))

variable {r next : Reader}

theorem Reads.of_line (line : Nat) (reads : r.Reads cs) :
    ({ r with line := line } : Reader).Reads cs := by
  cases reads with
  | text here understood clear => exact .text here understood clear
  | opened here understood before first => exact .opened here understood before first
  | tag here understood before first head plain clear =>
    exact .tag here understood before first head plain clear
  | rawTag here understood before first clear => exact .rawTag here understood before first clear

theorem Ready.reads (ready : r.Ready d siblings sections)
    (understood : Understood sections siblings d cs) : r.Reads cs := by
  obtain ⟨place, back, rfl, rfl, rfl⟩ := ready
  have clear : ¬ r.delimiters.opening <:+: r.back.reverse := by
    rw [back, List.reverse_nil, List.infix_nil]
    exact understood.wide.1
  have reads := Reads.text place understood clear
  rwa [back, List.reverse_nil, List.append_nil] at reads

section Acting

variable {tag : Tag} (understood : Understood r.sections siblings r.delimiters cs)
  (before : r.siblings = text.reverse ++ siblings) (tagged : Tagged r.delimiters piece text tag)
include understood before tagged

theorem leaf_reads {elements : Forest String} (denotes : tag.Denotes elements)
    (applied : r.apply tag = .ok next) : next.Reads (cs ++ piece) := by
  obtain ⟨last, same, ready⟩ := apply_denotes denotes r
  rw [applied] at same
  cases same
  refine ready.reads ?_
  have extended := understood.extend piece (text ++ elements) fun {_ _ forest} level => by
    rw [← List.append_assoc forest]
    exact .leaf level tagged denotes
  rwa [List.reverse_append, List.append_assoc, ← before] at extended

theorem change_reads {pair : Delimiters} (change : tag = .delimiters pair)
    (long : 2 ≤ pair.closing.length) (applied : r.apply tag = .ok next) :
    next.Reads (cs ++ piece) := by
  subst change
  cases applied
  have extended := understood.extend piece text fun level => .change level tagged long
  rw [← before] at extended
  exact Ready.reads ⟨rfl, rfl, rfl, rfl, rfl⟩ extended

theorem enter_reads {path : String} {make : Forest String → Element String}
    (opens : tag.Opens path make) (applied : r.apply tag = .ok next) :
    next.Reads (cs ++ piece) := by
  have inside {s : OpenSection} (around : s.before = r.siblings)
      (outer : s.delimiters = r.delimiters) (opened : tag.Opens s.path s.element) :
      Understood (s :: r.sections) [] r.delimiters (cs ++ piece) := by
    have level := Understood.inside understood tagged opened (around.trans before) outer (.nil _)
    rwa [List.append_nil, List.reverse_nil] at level
  cases opens with
  | block path | inverted path =>
    cases applied
    refine Ready.reads ⟨rfl, rfl, rfl, rfl, rfl⟩ (inside rfl rfl ?_)
    constructor

theorem leave_reads {path : String} (close : tag = .close path) (applied : r.apply tag = .ok next) :
    next.Reads (cs ++ piece) := by
  subst close
  obtain ⟨s, outer, stack, name, rfl⟩ := exists_of_leave applied
  rw [stack] at understood
  refine Ready.reads ⟨rfl, rfl, rfl, rfl, rfl⟩ ?_
  generalize r.delimiters = d' at understood tagged
  cases understood with
  | @inside _ _ _ _ cs₀ piece₀ inner text₀ children _ _
      outside opened opens around here level =>
    subst name here
    have extended := outside.extend (piece₀ ++ (inner ++ piece))
      (text₀ ++ [s.element (children ++ text)]) fun {_ _ forest} whole => by
        rw [← List.append_assoc forest]
        exact .nested whole opened opens level tagged
    simpa [around, before] using extended

end Acting

/-- Acting on a tag. -/
theorem apply_reads {tag : Tag} (understood : Understood r.sections siblings r.delimiters cs)
    (before : r.siblings = text.reverse ++ siblings) (tagged : Tagged r.delimiters piece text tag)
    (applied : r.apply tag = .ok next) (long : 2 ≤ next.delimiters.closing.length) :
    next.Reads (cs ++ piece) := by
  cases tag with
  | escaped path => exact leaf_reads understood before tagged (.escaped path) applied
  | raw path => exact leaf_reads understood before tagged (.raw path) applied
  | reference name => exact leaf_reads understood before tagged (.reference name) applied
  | comment => exact leaf_reads understood before tagged .comment applied
  | delimiters pair =>
    refine change_reads understood before tagged rfl ?_ applied
    cases applied
    exact long
  | openBlock path => exact enter_reads understood before tagged (.block path) applied
  | openInverted path => exact enter_reads understood before tagged (.inverted path) applied
  | close path => exact leave_reads understood before tagged rfl applied

/-- A step in literal text. -/
theorem take_reads_of_text (here : r.place = .text)
    (understood : Understood r.sections r.siblings r.delimiters cs)
    (clear : ¬ r.delimiters.opening <:+: r.back.reverse) {c : Char} (taken : r.take c = .ok next) :
    next.Reads (cs ++ r.back.reverse ++ [c]) := by
  rw [List.append_assoc]
  simp only [take, here] at taken
  split at taken
  · rename_i back found
    cases taken
    obtain ⟨whole, first⟩ := Scan.of_push_found clear found
    rw [whole]
    refine .opened rfl understood ?_ first
    simpa using withText_reverse back.reverse r.siblings
  · rename_i back pending
    cases taken
    obtain ⟨rfl, clear⟩ := Scan.of_push_pending clear pending
    rw [← List.reverse_cons]
    exact .text rfl understood clear

section Behind

variable {text : List Char} (understood : Understood r.sections siblings r.delimiters cs)
  (before : r.siblings = (literal text).reverse ++ siblings)
  (first : Scan.EndsFirst r.delimiters.opening text) {c : Char} (taken : r.take c = .ok next)
include understood before first taken

/-- A step behind an opening delimiter. -/
theorem take_reads_of_opened (here : r.place = .opened) :
    next.Reads (cs ++ (text ++ r.delimiters.opening) ++ [c]) := by
  have wide := understood.wide.2
  rw [List.append_assoc]
  simp only [take, here] at taken
  split at taken
  · rename_i braced
    cases taken
    subst braced
    refine .rawTag rfl understood before first ?_
    simp [Delimiters.rawClosing]
  · rename_i plain
    cases taken
    refine .tag rfl understood before first rfl plain ?_
    intro early
    have short := early.length_le
    simp only [List.reverse_singleton, List.length_singleton] at short
    omega

/-- A step inside a tag. -/
theorem take_reads_of_tag (here : r.place = .tag) {start : Char}
    (head : r.back.getLast? = some start) (plain : start ≠ '{')
    (clear : ¬ r.delimiters.closing <:+: r.back.reverse)
    (long : 2 ≤ next.delimiters.closing.length) :
    next.Reads (cs ++ (text ++ r.delimiters.opening ++ r.back.reverse) ++ [c]) := by
  rw [List.append_assoc, List.append_assoc]
  simp only [take, here] at taken
  split at taken
  · rename_i back found
    obtain ⟨whole, bodyFirst⟩ := Scan.of_push_found clear found
    rw [whole]
    unfold closeTag at taken
    split at taken
    · rename_i tag read
      have unbraced : back.reverse.head? ≠ some '{' := by
        intro braced
        have same := congrArg List.head? whole
        rw [List.head?_append, List.head?_append, List.head?_reverse, head, braced] at same
        exact plain (Option.some.inj same)
      exact apply_reads understood before
        (.plain first unbraced bodyFirst (Tag.ofBody_eq_ok_iff.mp read)) taken long
    · cases taken
  · rename_i back pending
    cases taken
    obtain ⟨rfl, clear⟩ := Scan.of_push_pending clear pending
    rw [← List.reverse_cons]
    refine .tag rfl understood before first (c := start) ?_ plain clear
    simp [List.getLast?_cons, head]

/-- A step inside a tag with an additional brace. -/
theorem take_reads_of_rawTag (here : r.place = .rawTag)
    (clear : ¬ r.delimiters.rawClosing <:+: r.back.reverse)
    (long : 2 ≤ next.delimiters.closing.length) :
    next.Reads (cs ++ (text ++ r.delimiters.opening ++ '{' :: r.back.reverse) ++ [c]) := by
  rw [List.append_assoc, List.append_assoc]
  simp only [take, here] at taken
  split at taken
  · rename_i back found
    obtain ⟨whole, bodyFirst⟩ := Scan.of_push_found clear found
    rw [List.cons_append, whole]
    unfold closeRaw at taken
    split at taken
    · cases taken
    · rename_i nonempty
      exact apply_reads understood before (.braced first bodyFirst nonempty) taken long
  · rename_i back pending
    cases taken
    obtain ⟨rfl, clear⟩ := Scan.of_push_pending clear pending
    rw [List.cons_append, ← List.reverse_cons]
    exact .rawTag rfl understood before first clear

end Behind

theorem step_reads (reads : r.Reads cs) {c : Char} (stepped : r.step c = .ok next)
    (long : 2 ≤ next.delimiters.closing.length) : next.Reads (cs ++ [c]) := by
  unfold step at stepped
  cases reads.of_line (if c = '\n' then r.line + 1 else r.line) with
  | text here understood clear => exact take_reads_of_text here understood clear stepped
  | opened here understood before first =>
    exact take_reads_of_opened understood before first stepped here
  | tag here understood before first head plain clear =>
    exact take_reads_of_tag understood before first stepped here head plain clear long
  | rawTag here understood before first clear =>
    exact take_reads_of_rawTag understood before first stepped here clear long

theorem Passes.reads {last : Reader} {ds : List Char} (passes : Passes r ds last)
    (reads : r.Reads cs) : last.Reads (cs ++ ds) := by
  induction passes generalizing cs with
  | stay _ => rwa [List.append_nil]
  | @step r middle last c ds _ stepped rest ih =>
    have long : 2 ≤ middle.delimiters.closing.length := by cases rest <;> assumption
    rw [List.append_cons]
    exact ih (step_reads reads stepped long)

end Understanding

/-- A text that a reader passes over and that ends there is a template text. -/
theorem Passes.topLevel {last : Reader} {cs : List Char} {forest : Forest String}
    (passes : Passes start cs last) (finished : last.finish = .ok forest) : TopLevel cs forest := by
  have begun : start.Reads [] :=
    Ready.reads ⟨rfl, rfl, rfl, rfl, rfl⟩ (.outermost (.nil .standard))
  have reads := passes.reads begun
  rw [List.nil_append] at reads
  unfold finish at finished
  split at finished
  · rename_i here
    split at finished
    · rename_i none
      cases finished
      cases reads with
      | text _ understood clear =>
        rw [List.isEmpty_iff.mp none] at understood
        generalize last.siblings = siblings at understood ⊢
        cases understood with
        | outermost level =>
          refine ⟨_, last.back.reverse, _, _, rfl, level, clear, ?_⟩
          have ends := withText_reverse last.back.reverse
          simp only [List.reverse_reverse] at ends
          simp [ends]
      | opened there | tag there | rawTag there =>
        rw [here] at there
        cases there
    · cases finished
  · cases finished
  · cases finished
  · cases finished

end Mustache.Reader
