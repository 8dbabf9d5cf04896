import Mustache.Proofs.Template.Grammar
import Mustache.Template.Reader
/-!
A reader passes over what the grammar derives. Main statement: if a text is a level for the
delimiters in force, a reader in literal text takes in all of it, adds what the level denotes to the
elements of the innermost section, and keeps the open sections as they are.
-/
namespace Mustache

namespace Reader

/-- A run during which all closing delimiters have at least two characters. -/
inductive Passes : Reader → List Char → Reader → Prop where
  | stay {r : Reader} : 2 ≤ r.delimiters.closing.length → Passes r [] r
  | step {r middle last : Reader} {c : Char} {cs : List Char} : 2 ≤ r.delimiters.closing.length →
      r.step c = .ok middle → Passes middle cs last → Passes r (c :: cs) last

theorem Passes.trans {r middle last : Reader} {cs ds : List Char} (first : Passes r cs middle)
    (second : Passes middle ds last) : Passes r (cs ++ ds) last := by
  induction first with
  | stay _ => exact second
  | step wide stepped _ ih => exact .step wide stepped (ih second)

theorem Passes.one {r next : Reader} {c : Char} (wide : 2 ≤ r.delimiters.closing.length)
    (stepped : r.step c = .ok next) (wide' : 2 ≤ next.delimiters.closing.length) :
    Passes r [c] next :=
  .step wide stepped (.stay wide')

theorem passes_iff {r last : Reader} {cs : List Char} :
    Passes r cs last ↔ r.run cs = .ok last ∧
      ∀ before after middle, cs = before ++ after → r.run before = .ok middle →
        2 ≤ middle.delimiters.closing.length := by
  constructor
  · intro passes
    induction passes with
    | stay wide =>
      refine ⟨rfl, fun before after middle whole ran => ?_⟩
      obtain ⟨rfl, _⟩ := List.append_eq_nil_iff.mp whole.symm
      cases ran
      exact wide
    | @step r next last c cs wide stepped _ ih =>
      refine ⟨by simp [run, stepped, ih.1], fun before after middle whole ran => ?_⟩
      cases before with
      | nil =>
        cases ran
        exact wide
      | cons first before =>
        obtain ⟨rfl, rest⟩ := List.cons.inj whole
        simp only [run, stepped] at ran
        exact ih.2 before after middle rest ran
  · rintro ⟨ran, wide⟩
    induction cs generalizing r with
    | nil =>
      cases ran
      exact .stay (wide [] [] _ rfl rfl)
    | cons c cs ih =>
      have here := wide [] (c :: cs) r rfl rfl
      simp only [run] at ran
      split at ran
      · rename_i next stepped
        refine .step here stepped (ih ran fun before after middle whole ran' => ?_)
        exact wide (c :: before) after middle (by rw [whole, List.cons_append])
          (by simpa only [run, stepped] using ran')
      · cases ran

/-- A reader at the start of a literal text. -/
structure Ready (r : Reader) (d : Delimiters) (siblings : List (Element String))
    (sections : List OpenSection) : Prop where
  place : r.place = .text
  back : r.back = []
  delimiters : r.delimiters = d
  siblings : r.siblings = siblings
  sections : r.sections = sections

theorem withText_reverse (text : List Char) (siblings : List (Element String)) :
    withText text.reverse siblings = (literal text).reverse ++ siblings := by
  unfold withText literal
  cases text with
  | nil => rfl
  | cons c rest => simp

/-- The delimiter that a reader looks for, if it looks for one. -/
def sought (r : Reader) : List Char :=
  match r.place with
  | .text => r.delimiters.opening
  | .opened => []
  | .tag => r.delimiters.closing
  | .rawTag => r.delimiters.rawClosing

/-- As long as the delimiter is not complete, a reader only buffers. -/
theorem take_of_pending {r : Reader} (looking : r.place ≠ .opened) {back : List Char} {c : Char}
    (pending : Scan.push r.sought r.back c = .pending back) :
    r.take c = .ok { r with back := back } := by
  unfold sought at pending
  unfold take
  cases here : r.place <;> simp_all

section Scanning

variable {r : Reader} (wide : 2 ≤ r.delimiters.closing.length) (looking : r.place ≠ .opened)
include wide looking

/-- Characters among which the delimiter does not occur are buffered. -/
theorem scan_passes {cs : List Char} (clear : ¬ r.sought <:+: r.back.reverse ++ cs) :
    ∃ line, Passes r cs { r with back := cs.reverse ++ r.back, line := line } := by
  induction cs generalizing r with
  | nil => exact ⟨r.line, .stay wide⟩
  | cons c cs ih =>
    have first : ¬ r.sought <:+: r.back.reverse ++ [c] :=
      fun early => clear (early.trans ⟨[], cs, by simp⟩)
    have stepped := take_of_pending
      (r := { r with line := if c = '\n' then r.line + 1 else r.line }) looking
      (Scan.push_of_clear first)
    obtain ⟨line, passes⟩ := ih
      (r := { r with line := if c = '\n' then r.line + 1 else r.line, back := c :: r.back })
      wide looking (by rwa [List.reverse_cons, List.append_assoc])
    refine ⟨line, .step wide stepped ?_⟩
    simpa using passes

/-- Up to the last character of the leftmost occurrence of the delimiter, characters are
buffered. -/
theorem scan_until {text cs : List Char} (whole : text ++ r.sought = r.back.reverse ++ cs)
    (some : cs ≠ []) (first : Scan.EndsFirst r.sought text) : ∃ scanned c back line,
      cs = scanned ++ [c] ∧ Passes r scanned { r with back := back, line := line } ∧
      Scan.push r.sought back c = .found text.reverse := by
  rcases List.eq_nil_or_concat cs with none | ⟨scanned, c, rfl⟩
  · exact (some none).elim
  · rw [List.concat_eq_append, ← List.append_assoc] at whole
    obtain ⟨line, passes⟩ := scan_passes wide looking ((Scan.endsFirst_iff whole).mp first)
    refine ⟨scanned, c, scanned.reverse ++ r.back, line, List.concat_eq_append .., passes, ?_⟩
    exact Scan.push_of_ends (by rw [whole]; simp)

end Scanning

/-- A reader acts on a tag after it has taken in some characters, with nothing else changed. -/
def ActsOn (r : Reader) (cs : List Char) (tag : Tag) : Prop :=
  ∃ r' : Reader,
    r'.delimiters = r.delimiters ∧ r'.siblings = r.siblings ∧ r'.sections = r.sections ∧
    ∀ last : Reader, r'.apply tag = .ok last → 2 ≤ last.delimiters.closing.length →
      Passes r cs last

section Tags

variable {r : Reader} (wide : 2 ≤ r.delimiters.closing.length) {body : List Char} {tag : Tag}
include wide

/-- The rest of a tag up to its closing delimiter. -/
theorem tag_actsOn (here : r.place = .tag) {cs : List Char} (some : cs ≠ [])
    (whole : body ++ r.delimiters.closing = r.back.reverse ++ cs)
    (first : Scan.EndsFirst r.delimiters.closing body)
    (spelled : Tag.Spelled (Text.trim body) tag) : r.ActsOn cs tag := by
  have sought : r.sought = r.delimiters.closing := by simp only [Reader.sought, here]
  rw [← sought] at whole first
  obtain ⟨scanned, c, back, line, rfl, passes, found⟩ :=
    scan_until wide (by simp [here]) whole some first
  rw [sought] at found
  refine ⟨{ r with back := back, line := if c = '\n' then line + 1 else line }, rfl, rfl, rfl, ?_⟩
  intro last applied wide'
  refine passes.trans (.one wide ?_ wide')
  simp only [step, take, here, found, closeTag, List.reverse_reverse,
    Tag.ofBody_eq_ok_iff.mpr spelled]
  exact applied

/-- The rest of a tag with an additional brace up to what closes it. -/
theorem rawTag_actsOn (here : r.place = .rawTag) (empty : r.back = [])
    (first : Scan.EndsFirst r.delimiters.rawClosing body) (nonempty : Text.trim body ≠ []) :
    r.ActsOn (body ++ r.delimiters.rawClosing) (.raw (String.ofList (Text.trim body))) := by
  have sought : r.sought = r.delimiters.rawClosing := by simp only [Reader.sought, here]
  rw [← sought] at first
  have start : body ++ r.sought = r.back.reverse ++ (body ++ r.sought) := by simp [empty]
  obtain ⟨scanned, c, back, line, whole, passes, found⟩ :=
    scan_until wide (by simp [here]) start (by simp [sought, Delimiters.rawClosing]) first
  rw [sought] at whole found
  rw [whole]
  refine ⟨{ r with back := back, line := if c = '\n' then line + 1 else line }, rfl, rfl, rfl, ?_⟩
  intro last applied wide'
  refine passes.trans (.one wide ?_ wide')
  rw [← applied]
  simp only [step, take, here, found, closeRaw, List.reverse_reverse, apply]

/-- A tag without an additional brace, behind its opening delimiter. -/
theorem opened_actsOn (here : r.place = .opened) (unbraced : body.head? ≠ some '{')
    (first : Scan.EndsFirst r.delimiters.closing body)
    (spelled : Tag.Spelled (Text.trim body) tag) :
    r.ActsOn (body ++ r.delimiters.closing) tag := by
  obtain ⟨c, rest, rfl⟩ : ∃ c rest, body = c :: rest := by
    refine List.exists_cons_of_ne_nil ?_
    rintro rfl
    exact spelled.ne_nil rfl
  have plain : c ≠ '{' := fun same => unbraced (by rw [same, List.head?_cons])
  have more : rest ++ r.delimiters.closing ≠ [] := by
    intro none
    have short := congrArg List.length none
    simp only [List.length_append, List.length_nil] at short
    omega
  obtain ⟨r', delimiters, siblings, sections, ends⟩ := tag_actsOn
    (r := { r with place := .tag, back := [c], line := if c = '\n' then r.line + 1 else r.line })
    wide rfl more rfl first spelled
  refine ⟨r', delimiters, siblings, sections, fun last applied wide' => ?_⟩
  refine .step wide ?_ (ends last applied wide')
  simp only [step, take, here, if_neg plain]

/-- A tag with an additional brace, behind its opening delimiter. -/
theorem openedRaw_actsOn (here : r.place = .opened)
    (first : Scan.EndsFirst r.delimiters.rawClosing body) (nonempty : Text.trim body ≠ []) :
    r.ActsOn ('{' :: (body ++ r.delimiters.rawClosing))
      (.raw (String.ofList (Text.trim body))) := by
  obtain ⟨r', delimiters, siblings, sections, ends⟩ := rawTag_actsOn
    (r := { r with place := .rawTag, back := [] }) wide rfl rfl first nonempty
  refine ⟨r', delimiters, siblings, sections, fun last applied wide' => ?_⟩
  refine .step wide ?_ (ends last applied wide')
  simp [step, take, here]

end Tags

section Levels

variable {r : Reader} {d : Delimiters} {siblings : List (Element String)}
  {sections : List OpenSection}

/-- A literal text and the opening delimiter behind it. -/
theorem text_passes (ready : r.Ready d siblings sections) (wide : d.Wide) {text : List Char}
    (first : Scan.EndsFirst d.opening text) :
    ∃ line, Passes r (text ++ d.opening)
      { r with
        place := .opened, back := [], siblings := (literal text).reverse ++ siblings
        line := line } := by
  obtain ⟨place, back, rfl, rfl, rfl⟩ := ready
  have sought : r.sought = r.delimiters.opening := by simp only [Reader.sought, place]
  rw [← sought] at first
  have start : text ++ r.sought = r.back.reverse ++ (text ++ r.sought) := by simp [back]
  obtain ⟨scanned, c, back, line, whole, passes, found⟩ :=
    scan_until wide.2 (by simp [place]) start (by simp [sought, wide.1]) first
  rw [sought] at whole found
  rw [whole]
  refine ⟨if c = '\n' then line + 1 else line, passes.trans (.one wide.2 ?_ wide.2)⟩
  simp only [step, take, place, found, withText_reverse]

/-- A literal text and the tag behind it: what the tag means is left to do. -/
theorem tagged_passes (ready : r.Ready d siblings sections) (wide : d.Wide) {piece : List Char}
    {text : Forest String} {tag : Tag} (tagged : Tagged d piece text tag) :
    ∃ r' : Reader, r'.delimiters = d ∧ r'.siblings = text.reverse ++ siblings ∧
      r'.sections = sections ∧ ∀ last : Reader, r'.apply tag = .ok last →
        2 ≤ last.delimiters.closing.length → Passes r piece last := by
  obtain ⟨rfl⟩ := ready.delimiters
  cases tagged with
  | plain first unbraced bodyFirst spelled =>
    obtain ⟨line, opened⟩ := text_passes ready wide first
    obtain ⟨r', delimiters, before, around, ends⟩ := opened_actsOn
      (r := { r with place := .opened, back := [], siblings := _, line := line })
      wide.2 rfl unbraced bodyFirst spelled
    refine ⟨r', delimiters, before, around.trans ready.sections, fun last applied wide' => ?_⟩
    exact opened.trans (ends last applied wide')
  | braced first bodyFirst nonempty =>
    obtain ⟨line, opened⟩ := text_passes ready wide first
    obtain ⟨r', delimiters, before, around, ends⟩ := openedRaw_actsOn
      (r := { r with place := .opened, back := [], siblings := _, line := line })
      wide.2 rfl bodyFirst nonempty
    refine ⟨r', delimiters, before, around.trans ready.sections, fun last applied wide' => ?_⟩
    exact opened.trans (ends last applied wide')

theorem apply_denotes {tag : Tag} {elements : Forest String} (denotes : tag.Denotes elements)
    (r : Reader) : ∃ last, r.apply tag = .ok last ∧
      last.Ready r.delimiters (elements.reverse ++ r.siblings) r.sections := by
  cases denotes with
  | escaped path | raw path | reference name | comment => exact ⟨_, rfl, rfl, rfl, rfl, rfl, rfl⟩

theorem apply_opens {tag : Tag} {path : String} {make : Forest String → Element String}
    (opens : tag.Opens path make) (r : Reader) : ∃ last s, r.apply tag = .ok last ∧
      last.Ready r.delimiters [] (s :: r.sections) ∧ s.path = path ∧ s.before = r.siblings ∧
      s.delimiters = r.delimiters ∧ ∀ children, s.element children = make children := by
  cases opens with
  | block path | inverted path =>
    exact ⟨_, _, rfl, ⟨rfl, rfl, rfl, rfl, rfl⟩, rfl, rfl, rfl, fun _ => rfl⟩

theorem apply_close {r : Reader} {s : OpenSection} (inside : r.sections = s :: sections) :
    ∃ last, r.apply (.close s.path) = .ok last ∧
      last.Ready s.delimiters (s.element r.siblings.reverse :: s.before) sections := by
  refine ⟨{ r with
    place := .text, back := [], delimiters := s.delimiters
    siblings := s.element r.siblings.reverse :: s.before, sections := sections }, ?_,
    rfl, rfl, rfl, rfl, rfl⟩
  simp only [apply, leave, inside, if_true]

/-- A reader at the start of a level passes over it and adds what the level denotes. -/
theorem level_passes {d' : Delimiters} {cs : List Char} {forest : Forest String}
    (level : Level d cs forest d') (wide : d.Wide) (ready : r.Ready d siblings sections) :
    ∃ last, Passes r cs last ∧ last.Ready d' (forest.reverse ++ siblings) sections := by
  induction level generalizing r siblings sections with
  | nil d => exact ⟨r, .stay (ready.delimiters ▸ wide.2), ready⟩
  | leaf level tagged denotes ih =>
    obtain ⟨m, passes, ready⟩ := ih wide ready
    obtain ⟨r', rfl, before, rfl, ends⟩ := tagged_passes ready (level.wide wide) tagged
    obtain ⟨last, applied, ready'⟩ := apply_denotes denotes r'
    refine ⟨last, passes.trans (ends last applied ?_), ?_⟩
    · rw [ready'.delimiters]
      exact (level.wide wide).2
    · rw [before] at ready'
      simpa using ready'
  | change level tagged long ih =>
    obtain ⟨m, passes, ready⟩ := ih wide ready
    obtain ⟨r', rfl, before, rfl, ends⟩ := tagged_passes ready (level.wide wide) tagged
    refine ⟨_, passes.trans (ends _ rfl long), rfl, rfl, rfl, ?_, rfl⟩
    simp [before]
  | nested level tagged opens inner closing ih ihInner =>
    obtain ⟨m, passes, ready⟩ := ih wide ready
    have wide₁ := level.wide wide
    obtain ⟨r', rfl, before, rfl, ends⟩ := tagged_passes ready wide₁ tagged
    obtain ⟨entered, s, applied, ready₁, rfl, around, outer, made⟩ := apply_opens opens r'
    have enters := ends entered applied (ready₁.delimiters ▸ wide₁.2)
    obtain ⟨m', within, ready₂⟩ := ihInner wide₁ ready₁
    obtain ⟨r'', rfl, before', inside, ends'⟩ :=
      tagged_passes ready₂ (inner.wide wide₁) closing
    obtain ⟨last, applied', ready₃⟩ := apply_close inside
    have leaves := ends' last applied' (by rw [ready₃.delimiters, outer]; exact wide₁.2)
    refine ⟨last, passes.trans (enters.trans (within.trans leaves)), ?_⟩
    rw [outer, made, around, before, before'] at ready₃
    simpa using ready₃

end Levels

/-- A reader passes over a template text and ends with what the text denotes. -/
theorem topLevel_passes {cs : List Char} {forest : Forest String} (topLevel : TopLevel cs forest) :
    ∃ last, Passes start cs last ∧ last.finish = .ok forest := by
  obtain ⟨level, trailing, elements, d, rfl, derived, clear, rfl⟩ := topLevel
  obtain ⟨m, passes, place, back, rfl, siblings, sections⟩ :=
    level_passes (r := start) derived Delimiters.standard_wide ⟨rfl, rfl, rfl, rfl, rfl⟩
  have sought : m.sought = m.delimiters.opening := by simp only [Reader.sought, place]
  rw [← sought] at clear
  obtain ⟨line, scans⟩ := scan_passes (derived.wide Delimiters.standard_wide).2 (by simp [place])
    (by simpa [back] using clear)
  refine ⟨_, passes.trans scans, ?_⟩
  simp [finish, place, sections, siblings, back, start, withText_reverse]

end Reader

end Mustache
