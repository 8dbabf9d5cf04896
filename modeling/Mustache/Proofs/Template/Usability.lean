import Mathlib
import Mustache.Proofs.Template.Leftmost
/-!
Delimiters in force. They are the standard ones or have come from a delimiter tag, which is read
exactly, so a search for one of them never ends before it has taken in a character. Main statement:
at every point of every text the delimiters in force, and those that the end of a section brings
back, are usable, and the parsing loop, told in turns that search as the scanner does, takes in
something at every turn and comes to the same end as the reader.
-/
namespace Mustache

namespace Delimiters

variable {d d' : Delimiters} {rest : List Char}

/-- Delimiters that tags can be read with. -/
structure AreUsable (d : Delimiters) : Prop where
  opening : Usable d.opening
  closing : Usable d.closing

/-- A tag text that puts delimiters in force: an equals sign on either side of the two, and one
space or more between them. -/
def Written (d : Delimiters) (tag : List Char) : Prop :=
  d.AreUsable ∧ ∃ spaces, tag = '=' :: (d.spaced (spaces + 1) ++ ['='])

theorem standard_areUsable : standard.AreUsable := by
  have opening : Text.isBlank '{' = false ∧ '{' ≠ '=' := by decide
  have closing : Text.isBlank '}' = false ∧ '}' ≠ '=' := by decide
  exact ⟨⟨List.cons_ne_nil _ _, by simpa [standard] using opening⟩,
    ⟨List.cons_ne_nil _ _, by simpa [standard] using closing⟩⟩

theorem ofTag?_iff_written : ofTag? ('=' :: rest) = some d ↔ d.Written ('=' :: rest) := by
  rw [ofTag?_eq_some_iff]
  constructor
  · rintro ⟨opening, closing, spaces, rfl⟩
    exact ⟨⟨opening, closing⟩, spaces, rfl⟩
  · rintro ⟨⟨opening, closing⟩, spaces, whole⟩
    exact ⟨opening, closing, spaces, (List.cons.inj whole).2⟩

/-- The two equals signs of a tag are not one and the same. -/
example : ofTag? ['='] = none := by decide

/-- No text puts two pairs of delimiters in force. -/
theorem Written.unique (written : d.Written ('=' :: rest)) (written' : d'.Written ('=' :: rest)) :
    d = d' := by
  have read := ofTag?_iff_written.mpr written
  rw [ofTag?_iff_written.mpr written'] at read
  exact (Option.some.inj read).symm

end Delimiters

theorem Tag.ofBody_eq_badDelimiters_iff {rest : List Char} :
    ofBody ('=' :: rest) = .error .badDelimiters ↔
      ∀ d : Delimiters, ¬ d.Written ('=' :: rest) := by
  simp only [← Delimiters.ofTag?_iff_written, ofBody]
  cases Delimiters.ofTag? ('=' :: rest) <;> simp

/-- The delimiters that a tag asks for are usable. -/
theorem Tag.areUsable_of_ofBody {body : List Char} {pair : Delimiters}
    (read : ofBody body = .ok (.delimiters pair)) : pair.AreUsable := by
  cases ofBody_eq_ok_iff.mp read with
  | delimiters spaces opening closing => exact ⟨opening, closing⟩

namespace Reader

variable {r next : Reader} {c : Char} {cs : List Char}

/-- The delimiters in force are usable, and so are those that come back at the end of a section. -/
structure Equipped (r : Reader) : Prop where
  inForce : r.delimiters.AreUsable
  around : ∀ s ∈ r.sections, s.delimiters.AreUsable

theorem start_equipped : start.Equipped :=
  ⟨Delimiters.standard_areUsable, List.forall_mem_nil _⟩

theorem Equipped.leave (equipped : r.Equipped) {name : String} (left : r.leave name = .ok next) :
    next.Equipped := by
  obtain ⟨s, sections, stack, -, rfl⟩ := exists_of_leave left
  have around := equipped.around
  rw [stack, List.forall_mem_cons] at around
  exact ⟨around.1, around.2⟩

theorem Equipped.apply (equipped : r.Equipped) {tag : Tag}
    (usable : ∀ pair, tag = .delimiters pair → pair.AreUsable) (applied : r.apply tag = .ok next) :
    next.Equipped := by
  cases tag with
  | close name => exact equipped.leave applied
  | openBlock path | openInverted path =>
    cases applied
    exact ⟨equipped.inForce, List.forall_mem_cons.mpr ⟨equipped.inForce, equipped.around⟩⟩
  | delimiters pair =>
    cases applied
    exact ⟨usable pair rfl, equipped.around⟩
  | escaped path | raw path | reference name | comment =>
    cases applied
    exact ⟨equipped.inForce, equipped.around⟩

/-- One more character. -/
theorem Equipped.step (equipped : r.Equipped) (stepped : r.step c = .ok next) : next.Equipped := by
  have counted : ({ r with line := if c = '\n' then r.line + 1 else r.line } : Reader).Equipped :=
    ⟨equipped.inForce, equipped.around⟩
  obtain ⟨back, closed⟩ | ⟨back, closed⟩ | ⟨back, rfl⟩ | ⟨place, back, rfl, -⟩ :=
    take_cases stepped
  · obtain ⟨tag, read, applied⟩ := exists_of_closeTag closed
    refine counted.apply (fun pair change => ?_) applied
    exact Tag.areUsable_of_ofBody (change ▸ read)
  · obtain ⟨-, rfl⟩ := eq_of_closeRaw closed
    exact ⟨counted.inForce, counted.around⟩
  · exact ⟨counted.inForce, counted.around⟩
  · exact ⟨counted.inForce, counted.around⟩

/-- Any number of characters. -/
theorem Equipped.run (equipped : r.Equipped) (ran : r.run cs = .ok next) : next.Equipped :=
  run_induction (fun equipped stepped => equipped.step stepped) equipped ran

/-- Whatever a reader looks for is something. -/
theorem Equipped.sought_ne_nil (equipped : r.Equipped) (looking : r.place ≠ .opened) :
    r.sought ≠ [] := by
  unfold sought
  split
  · exact equipped.inForce.opening.1
  · exact (looking ‹_›).elim
  · exact equipped.inForce.closing.1
  · exact List.cons_ne_nil _ _

/-- Where a part of the reading leads: to a reader or to a stop, and to the characters that have not
been read. -/
structure Advance where
  outcome : Except Stop Reader
  rest : List Char

/-- A search for what the reader looks for. It acts on what it has found. -/
def seek (r : Reader) (cs : List Char) : Advance :=
  let reading := Scan.readUntil r.sought r.back r.line cs
  { outcome :=
      if reading.found then ({ r with line := reading.line } : Reader).complete reading.back
      else .ok { r with back := reading.back, line := reading.line }
    rest := reading.rest }

/-- One turn of the parsing loop: literal text up to an opening delimiter, the character behind it,
which decides how the tag is closed, and the tag up to there. It ends early where the text ends. -/
def turn (r : Reader) (cs : List Char) : Advance :=
  match r.seek cs with
  | ⟨.ok opened, c :: rest⟩ =>
    match opened.step c with
    | .ok inside => inside.seek rest
    | .error stop => ⟨.error stop, rest⟩
  | early => early

/-- The parsing loop: turn after turn up to a stop or to the end of the text. -/
inductive Turns : Reader → List Char → Except Stop Reader → Prop where
  | ended (r : Reader) : Turns r [] (.ok r)
  | stopped {r : Reader} {cs : List Char} {stop : Stop} : cs ≠ [] →
      (r.turn cs).outcome = .error stop → Turns r cs (.error stop)
  | turned {r next : Reader} {cs : List Char} {result : Except Stop Reader} : cs ≠ [] →
      (r.turn cs).outcome = .ok next → Turns next (r.turn cs).rest result → Turns r cs result

/-- Behind an opening delimiter a tag begins, and behind a tag there is literal text. -/
theorem complete_place {back : List Char} (completed : r.complete back = .ok next) :
    next.place = match r.place with
      | .text | .opened => .opened
      | .tag | .rawTag => .text := by
  unfold complete at completed
  cases here : r.place with
  | text =>
    simp only [here] at completed
    cases completed
    rfl
  | opened =>
    simp only [here] at completed
    cases completed
    exact here
  | tag =>
    simp only [here] at completed
    exact (closeTag_keeps completed).1
  | rawTag =>
    simp only [here] at completed
    exact (closeRaw_keeps completed).1

/-- A search reads a part of the text as the reader does: something unless there is nothing, and if
it leaves anything, it has come to what the reader looks for. -/
theorem exists_seek_eq (equipped : r.Equipped) (looking : r.place ≠ .opened) (cs : List Char) :
    ∃ read rest, cs = read ++ rest ∧ (cs ≠ [] → read ≠ []) ∧ r.seek cs = ⟨r.run read, rest⟩ ∧
      (rest = [] ∨ ∃ line back,
        r.run read = ({ r with line := line } : Reader).complete back) := by
  have nonempty := equipped.sought_ne_nil looking
  obtain clear | ⟨read, rest, rfl, completes⟩ :=
    Scan.clear_or_completes r.sought r.back.reverse cs
  · have scanned := Scan.readUntil_of_clear nonempty clear r.line
    rw [List.reverse_reverse] at scanned
    refine ⟨cs, [], (List.append_nil cs).symm, id, ?_, .inl rfl⟩
    rw [run_eq_readUntil looking nonempty, seek, scanned]
    rfl
  · obtain ⟨text, whole, found⟩ := Scan.readUntil_of_completes nonempty completes r.line rest
    obtain ⟨text', whole', alone⟩ := Scan.readUntil_of_completes nonempty completes r.line []
    obtain rfl : text = text' := List.append_cancel_right (whole.symm.trans whole')
    rw [List.reverse_reverse] at found alone
    rw [List.append_nil] at alone
    have ran : r.run read =
        ({ r with line := r.line + read.count '\n' } : Reader).complete text.reverse := by
      rw [run_eq_readUntil looking nonempty, alone, resume, if_pos rfl]
      cases ({ r with line := r.line + read.count '\n' } : Reader).complete text.reverse <;> rfl
    refine ⟨read, rest, rfl, fun _ => completes.some, ?_, .inr ⟨_, _, ran⟩⟩
    rw [ran, seek, found]
    rfl

/-- The character behind an opening delimiter decides how the tag is closed. -/
theorem exists_step_of_opened (here : r.place = .opened) (c : Char) :
    ∃ inside, r.step c = .ok inside ∧ (inside.place = .tag ∨ inside.place = .rawTag) := by
  simp only [step, take, here]
  split
  · exact ⟨_, rfl, .inr rfl⟩
  · exact ⟨_, rfl, .inl rfl⟩

/-- A turn reads a part of the text as the reader does: something unless there is nothing, and if it
leaves anything, the next turn begins in literal text. -/
theorem exists_turn_eq (equipped : r.Equipped) (here : r.place = .text) (cs : List Char) :
    ∃ read rest, cs = read ++ rest ∧ (cs ≠ [] → read ≠ []) ∧ r.turn cs = ⟨r.run read, rest⟩ ∧
      (rest = [] ∨ ∀ next, r.run read = .ok next → next.place = .text) := by
  obtain ⟨read, rest, rfl, some, sought, found⟩ := exists_seek_eq equipped (by simp [here]) cs
  cases rest with
  | nil =>
    refine ⟨read, [], rfl, some, ?_, .inl rfl⟩
    rw [turn, sought]
    cases r.run read <;> rfl
  | cons c rest =>
    obtain ⟨line, back, completed⟩ := found.resolve_left (List.cons_ne_nil c rest)
    obtain ⟨opened, ran, atTag⟩ : ∃ opened, r.run read = .ok opened ∧ opened.place = .opened :=
      ⟨_, by rw [completed, complete, here], rfl⟩
    -- The search for the end of the tag starts behind `c`, whatever delimiter closes the tag.
    obtain ⟨inside, stepped, inTag⟩ := exists_step_of_opened atTag c
    have equipped' : inside.Equipped := (equipped.run ran).step stepped
    obtain ⟨read', rest', rfl, -, sought', found'⟩ :=
      exists_seek_eq equipped' (by rcases inTag with place | place <;> simp [place]) rest
    have whole : r.run (read ++ c :: read') = inside.run read' := by
      rw [run_append, ran]
      simp only [run, stepped]
    refine ⟨read ++ c :: read', rest', by simp, fun _ => by simp, ?_, ?_⟩
    · simp only [turn, sought, ran, stepped, sought', whole]
    · refine found'.imp id ?_
      rintro ⟨line', back', completed'⟩ next reached
      rw [whole, completed'] at reached
      have place := complete_place reached
      rcases inTag with inTag | inTag <;> simpa only [inTag] using place

/-- The parsing loop ends, as the reader does. -/
theorem turns_run (equipped : r.Equipped) (here : cs = [] ∨ r.place = .text) :
    Turns r cs (r.run cs) := by
  -- On the length of what is left: with usable delimiters, a turn leaves less than there was.
  induction shorter : cs.length using Nat.strong_induction_on generalizing r cs with
  | _ length ih =>
    by_cases none : cs = []
    · subst none
      exact .ended r
    · obtain ⟨read, rest, rfl, some, turned, place⟩ :=
        exists_turn_eq equipped (here.resolve_left none) cs
      have some := List.length_pos_iff.mpr (some none)
      rw [run_append]
      cases ran : r.run read with
      | error stop => exact .stopped none (by rw [turned, ran])
      | ok next =>
        rw [List.length_append] at shorter
        have later := ih rest.length (by omega) (equipped.run ran)
          (place.imp id fun every => every next ran) rfl
        have outcome : (r.turn (read ++ rest)).outcome = .ok next := by rw [turned, ran]
        refine .turned none outcome ?_
        rw [turned]
        exact later

/-- A tag text that begins with an equals sign puts delimiters in force exactly if it consists of
two usable ones between equals signs, with spaces between them, and then only these; any other is
rejected. So at every point of a text the delimiters in force, and those that come back at the end
of each open section, are usable, every turn of the parsing loop takes in something and the next
one begins in literal text, and the loop ends, as the reader does. -/
theorem delimiters_usable_throughout {before : List Char} (ran : start.run before = .ok r)
    (after : List Char) :
    (∀ rest : List Char,
      (∀ d, Delimiters.ofTag? ('=' :: rest) = some d ↔ d.Written ('=' :: rest)) ∧
      (∀ d d' : Delimiters, d.Written ('=' :: rest) → d'.Written ('=' :: rest) → d = d') ∧
      (Tag.ofBody ('=' :: rest) = .error .badDelimiters ↔
        ∀ d : Delimiters, ¬ d.Written ('=' :: rest))) ∧
    Flaw.badDelimiters.message = "Incorrect delimiter tag" ∧
    (r.delimiters.AreUsable ∧ r.delimiters.rawClosing ≠ [] ∧
      ∀ s ∈ r.sections, s.delimiters.AreUsable) ∧
    (r.place = .text → after ≠ [] → ∃ read rest, after = read ++ rest ∧ read ≠ [] ∧
      r.turn after = ⟨r.run read, rest⟩ ∧
      (rest = [] ∨ ∀ next, r.run read = .ok next → next.place = .text)) ∧
    Turns start (before ++ after) (start.run (before ++ after)) := by
  have equipped := start_equipped.run ran
  refine ⟨fun rest => ⟨fun d => Delimiters.ofTag?_iff_written, fun d d' => ?_,
    Tag.ofBody_eq_badDelimiters_iff⟩, rfl, ⟨equipped.inForce, List.cons_ne_nil _ _,
    equipped.around⟩, fun here more => ?_, turns_run start_equipped (.inr rfl)⟩
  · exact Delimiters.Written.unique
  · obtain ⟨read, rest, whole, some, turned, place⟩ := exists_turn_eq equipped here after
    exact ⟨read, rest, whole, some more, turned, place⟩

/-- A reader in a section in which delimiters have been changed. -/
def withinChange : Reader :=
  { start with
    delimiters := ⟨['<', '%'], ['%', '>']⟩
    sections := [⟨"s", false, [], .standard⟩] }

/-- The delimiters that a section changes are usable within it, those around it are usable again
behind it, and a turn takes in one tag. -/
theorem delimiters_usable_throughout_section :
    start.run "{{#s}}{{=<% %>=}}".toList = .ok withinChange ∧
      withinChange.delimiters.AreUsable ∧ Delimiters.standard.AreUsable ∧
      (∃ read, read ≠ [] ∧ "<%a%><%/s%>{{b}}".toList = read ++ "<%/s%>{{b}}".toList) ∧
      ∃ last, Turns start "{{#s}}{{=<% %>=}}<%a%><%/s%>{{b}}".toList (.ok last) ∧
        last.delimiters = .standard := by
  have ran : start.run "{{#s}}{{=<% %>=}}".toList = .ok withinChange := by cbv
  obtain ⟨-, -, ⟨inForce, -, around⟩, turn, turns⟩ :=
    delimiters_usable_throughout ran "<%a%><%/s%>{{b}}".toList
  obtain ⟨read, rest, whole, some, turned, -⟩ := turn rfl (by decide)
  have left : (withinChange.turn "<%a%><%/s%>{{b}}".toList).rest = "<%/s%>{{b}}".toList := by cbv
  rw [turned] at left
  obtain ⟨last, finished, back⟩ : ∃ last,
      start.run ("{{#s}}{{=<% %>=}}".toList ++ "<%a%><%/s%>{{b}}".toList) = .ok last ∧
        last.delimiters = .standard := ⟨_, by cbv, rfl⟩
  rw [finished] at turns
  exact ⟨ran, inForce, around _ (List.mem_singleton_self _), ⟨read, some, left ▸ whole⟩, last,
    turns, back⟩

end Reader

end Mustache
