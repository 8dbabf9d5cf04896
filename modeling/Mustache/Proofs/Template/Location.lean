import Mathlib
import Mustache.Proofs.Template.Acceptance
/-!
Where flaws are noticed. A reader never looks ahead, so a flaw is noticed at the last character of a
closing delimiter or not before the end of the text. Main statements: what a reader makes of a text
does not depend on what follows; it counts the lines of exactly what it has taken in; and with a
resolver that answers every name with the empty text, a parse either fails at the end of the text,
or at the end of a tag, and then every text that starts like this fails in the same way, while what
comes before the end of that tag alone parses or only lacks something at its end.
-/
namespace Mustache

namespace Reader

variable {r next : Reader} {c : Char} {cs ds : List Char} {stopped : Stop}

/-- What a reader makes of a text depends on its beginning first. -/
theorem run_append (r : Reader) (cs ds : List Char) :
    r.run (cs ++ ds) = match r.run cs with
      | .ok middle => middle.run ds
      | .error stopped => .error stopped := by
  induction cs generalizing r with
  | nil => rfl
  | cons c rest ih =>
    simp only [List.cons_append, run]
    cases r.step c with
    | ok next => exact ih next
    | error stopped => rfl

/-- A run that fails does so at one character. -/
theorem exists_step_of_run (failed : r.run cs = .error stopped) :
    ∃ before c after middle, cs = before ++ c :: after ∧ r.run before = .ok middle ∧
      middle.step c = .error stopped := by
  induction cs generalizing r with
  | nil => cases failed
  | cons c rest ih =>
    simp only [run] at failed
    cases stepped : r.step c with
    | error other =>
      rw [stepped] at failed
      cases failed
      exact ⟨[], c, rest, r, rfl, rfl, stepped⟩
    | ok next =>
      rw [stepped] at failed
      obtain ⟨before, d, after, middle, rfl, ran, ends⟩ := ih failed
      exact ⟨c :: before, d, after, middle, rfl, by simp only [run, stepped, ran], ends⟩

theorem run_concat (ran : r.run cs = .ok next) : r.run (cs ++ [c]) = next.step c := by
  rw [run_append, ran]
  simp only [run]
  cases next.step c <;> rfl

/-- What acting on a tag leaves of the place in the text. -/
theorem apply_keeps {tag : Tag} (applied : r.apply tag = .ok next) :
    next.place = .text ∧ next.line = r.line ∧ next.back = [] := by
  cases tag with
  | close name =>
    obtain ⟨s, sections, -, -, rfl⟩ := exists_of_leave applied
    exact ⟨rfl, rfl, rfl⟩
  | escaped path | raw path | openBlock path | openInverted path | reference name
  | delimiters pair | comment =>
    cases applied
    exact ⟨rfl, rfl, rfl⟩

theorem closeTag_keeps {back : List Char} (closed : r.closeTag back = .ok next) :
    next.place = .text ∧ next.line = r.line ∧ next.back = [] := by
  obtain ⟨tag, -, applied⟩ := exists_of_closeTag closed
  exact apply_keeps applied

theorem closeRaw_keeps {back : List Char} (closed : r.closeRaw back = .ok next) :
    next.place = .text ∧ next.line = r.line ∧ next.back = [] := by
  obtain ⟨-, rfl⟩ := eq_of_closeRaw closed
  exact ⟨rfl, rfl, rfl⟩

/-- Taking in a character does not touch the line, and the buffer holds characters taken in last. -/
theorem take_keeps (taken : r.take c = .ok next) :
    next.line = r.line ∧ next.back.reverse <:+ r.back.reverse ++ [c] := by
  have emptied (empty : next.back = []) : next.back.reverse <:+ r.back.reverse ++ [c] := by
    rw [empty]
    exact List.nil_suffix
  obtain ⟨back, closed⟩ | ⟨back, closed⟩ | ⟨back, rfl⟩ | ⟨place, back, rfl, buffered⟩ :=
    take_cases taken
  · obtain ⟨-, line, empty⟩ := closeTag_keeps closed
    exact ⟨line, emptied empty⟩
  · obtain ⟨-, line, empty⟩ := closeRaw_keeps closed
    exact ⟨line, emptied empty⟩
  · exact ⟨rfl, emptied rfl⟩
  · exact ⟨rfl, buffered⟩

theorem counted_line (line : Nat) (c : Char) :
    (if c = '\n' then line + 1 else line) = line + [c].count '\n' := by
  by_cases feed : c = '\n' <;> simp [feed]

/-- A step counts a line feed, and the buffer holds characters taken in last. -/
theorem step_keeps (stepped : r.step c = .ok next) :
    next.line = r.line + [c].count '\n' ∧ next.back.reverse <:+ r.back.reverse ++ [c] := by
  have kept := take_keeps (r := { r with line := if c = '\n' then r.line + 1 else r.line }) stepped
  exact ⟨kept.1.trans (counted_line r.line c), kept.2⟩

/-- A reader counts the lines of what it has taken in, and buffers the end of it. -/
theorem run_keeps (ran : r.run cs = .ok next) :
    next.line = r.line + cs.count '\n' ∧ next.back.reverse <:+ r.back.reverse ++ cs := by
  induction cs generalizing r with
  | nil =>
    cases ran
    simp
  | cons c rest ih =>
    simp only [run] at ran
    split at ran
    · rename_i middle stepped
      obtain ⟨line, buffered⟩ := step_keeps stepped
      obtain ⟨more, before, whole⟩ := ih ran
      obtain ⟨earlier, whole'⟩ := buffered
      have split : (c :: rest).count '\n' = [c].count '\n' + rest.count '\n' := by
        rw [← List.count_append, List.singleton_append]
      constructor
      · rw [more, line, split, Nat.add_assoc]
      · refine ⟨earlier ++ before, ?_⟩
        rw [List.append_assoc, whole, ← List.append_assoc, whole']
        simp
    · cases ran

theorem named_error {make : String → Tag} {rest : List Char} {flaw : Flaw}
    (failed : Tag.named make rest = .error flaw) : flaw.isUnclosed = false := by
  unfold Tag.named at failed
  split at failed <;> cases failed
  rfl

/-- What is wrong with a complete tag is no lack at the end of the text. -/
theorem ofBody_error {body : List Char} {flaw : Flaw} (failed : Tag.ofBody body = .error flaw) :
    flaw.isUnclosed = false := by
  unfold Tag.ofBody at failed
  split at failed
  case h_1 =>
    cases failed
    rfl
  case h_2 | h_3 | h_4 | h_6 => exact named_error failed
  case h_7 =>
    split at failed <;> cases failed
    rfl
  case h_5 | h_8 | h_9 => cases failed

theorem apply_error {tag : Tag} (failed : r.apply tag = .error stopped) :
    stopped.located.line = r.line ∧ stopped.located.flaw.isUnclosed = false := by
  cases tag with
  | close name =>
    simp only [apply, leave] at failed
    split at failed
    · split at failed <;> cases failed
      exact ⟨rfl, rfl⟩
    · cases failed
      exact ⟨rfl, rfl⟩
  | escaped path | raw path | openBlock path | openInverted path | reference name
  | delimiters pair | comment => cases failed

/-- A step fails only where a tag is complete, and the flaw lies in the tag. -/
theorem take_error (failed : r.take c = .error stopped) :
    (r.place = .tag ∨ r.place = .rawTag) ∧ r.sought <:+ r.back.reverse ++ [c] ∧
      stopped.located.line = r.line ∧ stopped.located.flaw.isUnclosed = false := by
  have found {delimiter back : List Char} (found : Scan.push delimiter r.back c = .found back) :
      delimiter <:+ r.back.reverse ++ [c] := by
    unfold Scan.push at found
    split at found
    · rename_i ends
      rwa [Scan.endsWith_iff, List.reverse_cons] at ends
    · cases found
  unfold take at failed
  unfold sought
  split at failed
  · split at failed <;> cases failed
  · split at failed <;> cases failed
  · rename_i here
    split at failed
    · rename_i back complete
      refine ⟨.inl here, by simpa only [here] using found complete, ?_⟩
      unfold closeTag at failed
      split at failed
      · exact apply_error failed
      · rename_i flaw misread
        cases failed
        exact ⟨rfl, ofBody_error misread⟩
    · cases failed
  · rename_i here
    split at failed
    · rename_i back complete
      refine ⟨.inr here, by simpa only [here] using found complete, ?_⟩
      unfold closeRaw at failed
      split at failed <;> cases failed
      exact ⟨rfl, rfl⟩
    · cases failed

/-- What is wrong with a text that has been taken in is a lack at its end. -/
theorem finish_error {flaw : Flaw} (failed : r.finish = .error flaw) : flaw.isUnclosed = true := by
  unfold finish at failed
  split at failed
  · split at failed <;> cases failed
    rfl
  all_goals
    cases failed
    rfl

/-- A text that ends with a complete tag: a reader that has come to its last character stands in the
tag, and there completes the closing delimiter that it looks for. -/
def EndsTag (cs : List Char) : Prop :=
  ∃ read c middle, cs = read ++ [c] ∧ start.run read = .ok middle ∧
    (middle.place = .tag ∨ middle.place = .rawTag) ∧
    middle.back.reverse <:+ read ∧ middle.sought <:+ middle.back.reverse ++ [c]

/-- A run that fails has come to the end of a tag, and no further. -/
theorem exists_endsTag_of_run (failed : start.run cs = .error stopped) :
    ∃ tagged rest, cs = tagged ++ rest ∧ EndsTag tagged ∧
      stopped.located.line = 1 + tagged.count '\n' ∧
      stopped.located.flaw.isUnclosed = false ∧ start.run tagged = .error stopped ∧
      ∀ before after, tagged = before ++ after → after ≠ [] →
        ∃ middle, start.run before = .ok middle := by
  obtain ⟨read, c, rest, middle, rfl, ran, stepped⟩ := exists_step_of_run failed
  obtain ⟨line, buffered⟩ := run_keeps ran
  obtain ⟨here, ends, counted, flaw⟩ := take_error stepped
  refine ⟨read ++ [c], rest, by simp, ⟨read, c, middle, rfl, ran, here, ?_, ends⟩, ?_, flaw, ?_, ?_⟩
  · simpa [start] using buffered
  · rw [counted, counted_line, line, List.count_append, Nat.add_assoc]
    rfl
  · rw [run_concat ran, stepped]
  · intro before after whole some
    obtain ⟨shorter, rfl⟩ : ∃ shorter, read = before ++ shorter := by
      rcases List.eq_nil_or_concat after with none | ⟨shorter, d, rfl⟩
      · exact (some none).elim
      · rw [List.concat_eq_append, ← List.append_assoc] at whole
        exact ⟨shorter, (List.append_inj' whole rfl).1⟩
    rw [run_append] at ran
    cases ran' : start.run before with
    | ok earlier => exact ⟨earlier, rfl⟩
    | error stopped =>
      rw [ran'] at ran
      cases ran

end Reader

theorem Outline.result_of_run {cs : List Char} {stopped : Stop}
    (failed : Reader.start.run cs = .error stopped) :
    (Outline.ofText (String.ofList cs)).result = .error stopped.located := by
  simp only [Outline.ofText, String.toList_ofList, failed]

/-- A text that a reader takes in is sound or lacks something at its end. -/
theorem Outline.result_of_taken {cs : List Char} {last : Reader}
    (ran : Reader.start.run cs = .ok last) :
    (∃ forest, (Outline.ofText (String.ofList cs)).result = .ok forest) ∨
      ∃ flaw, (Outline.ofText (String.ofList cs)).result = .error ⟨flaw, 1 + cs.count '\n'⟩ ∧
        flaw.isUnclosed = true := by
  have line : last.line = 1 + cs.count '\n' := (Reader.run_keeps ran).1
  simp only [Outline.ofText, String.toList_ofList, ran, Reader.outline]
  cases finished : last.finish with
  | ok forest => exact .inl ⟨forest, rfl⟩
  | error flaw =>
    rw [line]
    exact .inr ⟨flaw, rfl, Reader.finish_error finished⟩

namespace Parser

variable {files : Files} {p : Parser}

/-- If every source is the empty text, a parse fails with the flaw of the text itself. -/
theorem parse_fails (blank : ∀ name, p.resolver.find files name = .ok "") {text : String}
    {located : Located} (flawed : (Outline.ofText text).result = .error located) :
    (p.parse files text).result = .error (.parse located) := by
  obtain ⟨q, all⟩ := Binding.each_succeeds
    (Binding.name_succeeds blank (p.resolver.weight files + text.length))
    (Outline.ofText text).references ⟨p.registry, []⟩
  simp only [parse, depth, Binding.outline, Bind.bind, EStateM.bind, all, flawed]
  rfl

/-- Whether a text parses, or fails only in what it lacks at its end. -/
def ParsesSoFar (files : Files) (p : Parser) (cs : List Char) : Prop :=
  (∃ elements, (p.parse files (String.ofList cs)).result = .ok elements) ∨
    ∃ located, (p.parse files (String.ofList cs)).result = .error (.parse located) ∧
      located.flaw.isUnclosed = true

/-- Such a text does not fail with a flaw in a tag. -/
theorem ParsesSoFar.isUnclosed {cs : List Char} {located : Located}
    (parses : p.ParsesSoFar files cs)
    (failed : (p.parse files (String.ofList cs)).result = .error (.parse located)) :
    located.flaw.isUnclosed = true := by
  rcases parses with ⟨elements, parsed⟩ | ⟨other, lacks, unclosed⟩
  · rw [parsed] at failed
    cases failed
  · rw [lacks] at failed
    cases failed
    exact unclosed

theorem parsesSoFar_of_taken (blank : ∀ name, p.resolver.find files name = .ok "")
    {cs : List Char} {last : Reader} (ran : Reader.start.run cs = .ok last) :
    p.ParsesSoFar files cs := by
  rcases Outline.result_of_taken ran with ⟨forest, sound⟩ | ⟨flaw, lacks, unclosed⟩
  · obtain ⟨elements, parsed, _⟩ := parse_succeeds blank sound
    exact .inl ⟨elements, parsed⟩
  · exact .inr ⟨_, parse_fails blank lacks, unclosed⟩

/-- A parse over empty sources fails with a flaw of its text. If that lies in what the text lacks at
its end, it is reported on the last line. Otherwise the text begins with a shortest text that every
longer one fails with in the same way: it ends with the closing delimiter of a tag, the flaw is
reported on the line on which it ends, and all that is shorter parses or only lacks something at its
end. -/
theorem parse_error_located (blank : ∀ name, p.resolver.find files name = .ok "") {text : String}
    {fault : Fault} (failed : (p.parse files text).result = .error fault) :
    ∃ located, fault = .parse located ∧
      (located.flaw.isUnclosed = true → located.line = 1 + text.toList.count '\n') ∧
      (located.flaw.isUnclosed = false → ∃ tagged rest, text.toList = tagged ++ rest ∧
        Reader.EndsTag tagged ∧ located.line = 1 + tagged.count '\n' ∧
        (∀ after, (p.parse files (String.ofList (tagged ++ after))).result =
          .error (.parse located)) ∧
        (∀ before after, tagged = before ++ after → after ≠ [] → p.ParsesSoFar files before) ∧
        ∀ before after, text.toList = before ++ after →
          (∀ more, (p.parse files (String.ofList (before ++ more))).result =
            .error (.parse located)) → tagged <+: before) := by
  obtain ⟨cs, rfl⟩ : ∃ cs, text = String.ofList cs := ⟨text.toList, String.ofList_toList.symm⟩
  rw [String.toList_ofList]
  cases ran : Reader.start.run cs with
  | ok last =>
    rcases Outline.result_of_taken ran with ⟨forest, sound⟩ | ⟨flaw, lacks, unclosed⟩
    · obtain ⟨elements, parsed, _⟩ := parse_succeeds blank sound
      rw [parsed] at failed
      cases failed
    · rw [parse_fails blank lacks] at failed
      cases failed
      refine ⟨_, rfl, fun _ => rfl, fun closed => ?_⟩
      rw [unclosed] at closed
      cases closed
  | error stopped =>
    rw [parse_fails blank (Outline.result_of_run ran)] at failed
    cases failed
    obtain ⟨tagged, rest, rfl, ends, line, closed, fails, taken⟩ :=
      Reader.exists_endsTag_of_run ran
    have so_far (before after : List Char) (whole : tagged = before ++ after) (some : after ≠ []) :
        p.ParsesSoFar files before := by
      obtain ⟨middle, ran⟩ := taken before after whole some
      exact parsesSoFar_of_taken blank ran
    refine ⟨stopped.located, rfl, fun unclosed => ?_, fun _ => ?_⟩
    · rw [closed] at unclosed
      cases unclosed
    · refine ⟨tagged, rest, rfl, ends, line, fun after => ?_, so_far, ?_⟩
      · refine parse_fails blank (Outline.result_of_run ?_)
        rw [Reader.run_append, fails]
      · intro before after whole same
        rcases List.prefix_or_prefix_of_prefix ⟨rest, rfl⟩ ⟨after, whole.symm⟩ with
          longer | ⟨missing, shorter⟩
        · exact longer
        · rcases eq_or_ne missing [] with rfl | some
          · exact ⟨[], by simpa using shorter.symm⟩
          · have unclosed := (so_far before missing shorter.symm some).isUnclosed
              (by simpa using same [])
            rw [closed] at unclosed
            cases unclosed

/-- A text with a close tag that names another section and ends on the fourth line, under changed
delimiters; behind it, a tag that is not complete. -/
def mismatched : String := "one\n{{#a}}\n{{=| |=}}|/b\n| |c"

/-- The flaw is reported on the fourth line, whatever is put behind the close tag. -/
theorem parse_error_mismatched :
    ((ofResolver (.table [] (.text ""))).parse .none mismatched).result =
        .error (.parse ⟨.unmatchedClose "b", 4⟩) ∧
      ∃ tagged rest, mismatched.toList = tagged ++ rest ∧ Reader.EndsTag tagged ∧
        tagged.count '\n' = 3 ∧
        ∀ after, ((ofResolver (.table [] (.text ""))).parse .none
          (String.ofList (tagged ++ after))).result =
            .error (.parse ⟨.unmatchedClose "b", 4⟩) := by
  have failed : ((ofResolver (.table [] (.text ""))).parse .none mismatched).result =
      .error (.parse ⟨.unmatchedClose "b", 4⟩) := by cbv
  obtain ⟨located, same, _, early⟩ := parse_error_located (fun _ => rfl) failed
  cases same
  obtain ⟨tagged, rest, whole, ends, line, fails, _⟩ := early rfl
  have fourth : 4 = 1 + tagged.count '\n' := line
  exact ⟨failed, tagged, rest, whole, ends, by omega, fails⟩

end Parser

end Mustache
